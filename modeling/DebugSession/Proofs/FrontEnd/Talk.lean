/-
What desks say to an engine.  A talk only adds exchanges, and its engine is the one that their calls
lead to.  Most work at a desk starts no program.
-/
import DebugSession.Breakpoint.Book
import DebugSession.LaunchTarget
import DebugSession.Proofs.Scene

namespace DebugSession

variable {σ α β : Type}

/-- The program that a call starts. -/
def Call.target? : Call → Option LaunchTarget
  | .launch program args => some { program, args }
  | _ => none

namespace Engine

/-- The engine behind calls. -/
def after (E : Engine σ) (calls : List Call) (s : σ) : σ :=
  calls.foldl (fun s c => (E.respond c s).2) s

theorem after_append (E : Engine σ) (a b : List Call) (s : σ) :
    E.after (a ++ b) s = E.after b (E.after a s) := List.foldl_append

/-- The calls that are made if each has to succeed before the next. -/
def reached (E : Engine σ) : List Call → σ → List Call
  | [], _ => []
  | c :: calls, s =>
    c :: match (E.respond c s).1.outcome with
      | .ok _ => E.reached calls (E.respond c s).2
      | .error _ => []

theorem reached_singleton (E : Engine σ) (c : Call) (s : σ) : E.reached [c] s = [c] := by
  rw [reached, reached]
  cases (E.respond c s).1.outcome <;> rfl

/-- The calls for a program: what comes behind the launch comes only if it succeeds. -/
def starting (E : Engine σ) (t : LaunchTarget) (later : List Call) (s : σ) : List Call :=
  .launch t.program t.args ::
    if (E.respond (.launch t.program t.args) s).1.outcome.isOk then later else []

theorem reached_launch (E : Engine σ) (t : LaunchTarget) (c : Call) (s : σ) :
    E.reached [.launch t.program t.args, c] s = E.starting t [c] s := by
  rw [reached, starting]
  cases (E.respond (.launch t.program t.args) s).1.outcome with
  | ok _ => exact congrArg _ (E.reached_singleton c _)
  | error e => rfl

end Engine

/-! ## What is added to a talk -/

namespace Talk

/-- From one talk to another these calls were made. -/
structure Adds (E : Engine σ) (t : Talk σ) (calls : List Call) (t' : Talk σ) : Prop where
  exchanges : t'.exchanges.map Exchange.call = t.exchanges.map Exchange.call ++ calls
  engine : t'.engine = E.after calls t.engine

namespace Adds

variable {E : Engine σ} {t t' t'' : Talk σ} {calls more : List Call}

theorem refl (E : Engine σ) (t : Talk σ) : t.Adds E [] t where
  exchanges := (List.append_nil _).symm
  engine := rfl

theorem trans (h : t.Adds E calls t') (h' : t'.Adds E more t'') :
    t.Adds E (calls ++ more) t'' where
  exchanges := by rw [h'.exchanges, h.exchanges, List.append_assoc]
  engine := by rw [h'.engine, h.engine, Engine.after_append]

/-- All calls of a talk that began with none. -/
theorem calls_eq {s : σ} (h : Adds E { engine := s } calls t') :
    t'.exchanges.map Exchange.call = calls := h.exchanges

theorem ask (E : Engine σ) (c : Call) (t : Talk σ) : t.Adds E [c] (E.ask c t).2 where
  exchanges := List.map_append
  engine := rfl

theorem tell (E : Engine σ) (c : Call) (t : Talk σ) : t.Adds E [c] (E.tell c t).2 := by
  rw [Engine.tell_eq]
  exact ask E c t

theorem tellAll (E : Engine σ) (calls : List Call) (t : Talk σ) :
    t.Adds E (E.reached calls t.engine) (E.tellAll calls t).2 := by
  induction calls generalizing t with
  | nil => exact refl E t
  | cons c calls ih =>
    have htold := tell E c t
    rw [Engine.tellAll_cons, Engine.reached, ← List.singleton_append]
    rw [Engine.tell_eq] at htold ⊢
    cases (E.respond c t.engine).1.outcome with
    | ok _ => exact htold.trans (ih _)
    | error e => exact htold

end Adds
end Talk

/-! ## Work that starts no program -/

/-- Work that starts no program; `P` holds of what it returns. -/
def Startless (E : Engine σ) (P : α → Prop) (work : StateM (Talk σ) α) : Prop :=
  ∀ t, ∃ calls, t.Adds E calls (work t).2 ∧ (∀ c ∈ calls, c.target? = none) ∧ P (work t).1

namespace Startless

variable {E : Engine σ} {P : α → Prop} {Q : β → Prop}

theorem pure {a : α} (h : P a) : Startless E P (pure a) :=
  fun t => ⟨[], .refl E t, fun _ hc => absurd hc List.not_mem_nil, h⟩

theorem mono {P' : α → Prop} {work : StateM (Talk σ) α} (h : Startless E P work)
    (hP : ∀ a, P a → P' a) : Startless E P' work := by
  intro t
  obtain ⟨calls, hadds, hcalls, ha⟩ := h t
  exact ⟨calls, hadds, hcalls, hP _ ha⟩

theorem bind {work : StateM (Talk σ) α} {next : α → StateM (Talk σ) β} (h : Startless E P work)
    (hnext : ∀ a, P a → Startless E Q (next a)) : Startless E Q (work >>= next) := by
  intro t
  obtain ⟨calls, hadds, hcalls, ha⟩ := h t
  obtain ⟨more, hmore, hlater, hb⟩ := hnext (work t).1 ha (work t).2
  exact ⟨calls ++ more, hadds.trans hmore, List.forall_mem_append.2 ⟨hcalls, hlater⟩, hb⟩

theorem ask {c : Call} (h : c.target? = none) : Startless E (fun _ => True) (E.ask c) :=
  fun t => ⟨[c], .ask E c t, List.forall_mem_singleton.2 h, trivial⟩

theorem tell {c : Call} (h : c.target? = none) : Startless E (fun _ => True) (E.tell c) :=
  fun t => ⟨[c], .tell E c t, List.forall_mem_singleton.2 h, trivial⟩

theorem tellAll {calls : List Call} (h : ∀ c ∈ calls, c.target? = none) :
    Startless E (fun _ => True) (E.tellAll calls) := by
  induction calls with
  | nil => exact pure trivial
  | cons c calls ih =>
    obtain ⟨hc, hcalls⟩ := List.forall_mem_cons.1 h
    refine (tell hc).bind fun told _ => ?_
    cases told with
    | ok _ => exact ih hcalls
    | error e => exact pure trivial

/-! Breakpoints are kept without a program. -/

variable (b : Breakpoint.Book) (file : String)

theorem sync (lines : List UInt32) : Startless E (fun _ => True) (b.sync E file lines) := by
  refine (ask rfl).bind fun answer _ => ?_
  cases answer with
  | ok updated => exact pure trivial
  | error e => exact pure trivial

theorem insert (line : UInt32) : Startless E (fun _ => True) (b.insert E file line) := by
  refine (sync b file _).bind fun synced _ => ?_
  cases synced with
  | error e => exact pure trivial
  | ok b' =>
    dsimp only
    cases b'.findAt? file line with
    | some bp => exact pure trivial
    | none => exact pure trivial

theorem remove (id : UInt32) : Startless E (fun _ => True) (b.remove E id) := by
  unfold Breakpoint.Book.remove
  cases b.find? id with
  | none => exact pure trivial
  | some bp =>
    refine (sync b bp.file _).bind fun synced _ => ?_
    cases synced with
    | error e => exact pure trivial
    | ok b' => exact pure trivial

end Startless
end DebugSession
