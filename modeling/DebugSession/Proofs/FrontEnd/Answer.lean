/-
What front ends do when writes may fail.  An answer that is lost counts as given: the work that
gives it makes the same calls as if it had reached the client, and ends.
-/
import DebugSession.Proofs.FrontEnd.Conversation
import DebugSession.Proofs.FrontEnd.Loss
import Mathlib.Data.List.Basic

namespace DebugSession

open DebugSession.Action (arrivals calls replies)
open Scene (Stretch)

variable {σ D M : Type}

/-! ## Answers that are given or lost -/

namespace Action

/-- The text of an answer, whether or not it reaches the client. -/
def tried? : Action → Option String
  | .wrote .reply text => some text
  | .lost .reply text _ => some text
  | _ => none

def tried (acts : List Action) : List String := acts.filterMap tried?

theorem tried_append (a b : List Action) : tried (a ++ b) = tried a ++ tried b :=
  List.filterMap_append

theorem tried_eq_replies {acts : List Action} (h : Unlost acts) : tried acts = replies acts := by
  have hsame : ∀ a ∈ acts, a.tried? = a.reply? := by
    intro a ha
    have hkept := h a ha
    cases a with
    | lost origin text e =>
      cases origin with
      | reply => exact nomatch hkept
      | event => rfl
      | console => rfl
    | wrote origin text => cases origin <;> rfl
    | took _ | told _ | called _ | logged _ | openedLog _ | filed _ => rfl
  exact List.filterMap_congr hsame

end Action

open DebugSession.Action (tried)

namespace Scene

/-- Between two scenes these entries were taken, these calls made and these answers given. -/
structure Passes (taken : List Arrival) (called : List Call) (said : List String) (s : Scene)
    (acts : List Action) (s' : Scene) : Prop where
  grows : s.Grows acts s'
  arrivals : arrivals acts = taken
  calls : calls acts = called
  tried : tried acts = said

namespace Passes

theorem refl (s : Scene) : Passes [] [] [] s [] s := ⟨.refl s, rfl, rfl, rfl⟩

theorem trans {s s' s'' : Scene} {a b : List Action} {taken taken' : List Arrival}
    {called called' : List Call} {said said' : List String}
    (h : Passes taken called said s a s') (h' : Passes taken' called' said' s' b s'') :
    Passes (taken ++ taken') (called ++ called') (said ++ said') s (a ++ b) s'' where
  grows := h.grows.trans h'.grows
  arrivals := by rw [Action.arrivals_append, h.arrivals, h'.arrivals]
  calls := by rw [Action.calls_append, h.calls, h'.calls]
  tried := by rw [Action.tried_append, h.tried, h'.tried]

theorem of_unheard {taken : List Arrival} {called : List Call} {s : Scene} {acts : List Action}
    {change : Scene → Scene} (h : Stretch (fun _ _ _ => True) taken called [] s acts (change s))
    (hunheard : Unheard change) : Passes taken called [] s acts (change s) where
  grows := h.grows
  arrivals := h.arrivals
  calls := h.calls
  tried := by
    obtain ⟨acts', hgrows, hkept⟩ := hunheard.grows s
    obtain rfl := hgrows.eq h.grows
    exact (Action.tried_eq_replies hkept).trans h.replies

theorem log (r : Log.Record) (s : Scene) : ∃ acts, Passes [] [] [] s acts (log r s).2 :=
  (manner_any.stretch_log r s).imp fun _ h => of_unheard h (.log r)

theorem exchanges (xs : List Exchange) (s : Scene) :
    ∃ acts, Passes [] (xs.map Exchange.call) [] s acts (xs.forM exchange s).2 :=
  (manner_any.stretch_exchanges xs s).imp fun _ h => of_unheard h (.forM .exchange xs)

theorem takeAll (as : List Arrival) (s : Scene) :
    ∃ acts, Passes as [] [] s acts (as.forM take s).2 :=
  (manner_any.stretch_takeAll as s).imp fun _ h => of_unheard h (.forM .take as)

end Passes

/-- From a scene on these answers are given and nothing else is done.  If that does not succeed, one
of them is lost. -/
def Gives (act : StateM Scene (Except String Unit)) (said : List String) (s : Scene) : Prop :=
  ∃ acts, Passes [] [] said s acts (act s).2 ∧ ((act s).1 = .ok () ∨ ¬ Unlost acts)

theorem gives_nothing (s : Scene) : Gives (pure (.ok ())) [] s := ⟨[], .refl s, .inl rfl⟩

theorem gives_write (text : String) (s : Scene) : Gives (write .reply text) [text] s := by
  rw [Gives]
  cases h : s.writeError s.writes with
  | none =>
    rw [write_of_none h]
    exact ⟨_, ⟨⟨rfl, rfl, rfl, rfl⟩, rfl, rfl, rfl⟩, .inl rfl⟩
  | some e =>
    rw [write_of_some h]
    exact ⟨_, ⟨⟨rfl, rfl, rfl, rfl⟩, rfl, rfl, rfl⟩,
      .inr fun hkept => nomatch hkept _ (List.mem_singleton_self _)⟩

/-- An answer that uses up a number. -/
theorem gives_writeNumbered (text : Nat → String) (s : Scene) :
    Gives (do write .reply (text (← nextSeq))) [text (s.seq + 1)] s := by
  obtain ⟨acts, h, hresult⟩ := gives_write (text (s.seq + 1)) { s with seq := s.seq + 1 }
  exact ⟨acts, ⟨⟨h.grows.trace, h.grows.mode, h.grows.writeError, h.grows.switch⟩, h.arrivals,
    h.calls, h.tried⟩, hresult⟩

end Scene

open Scene (Gives Passes)

/-- What is lost late is lost. -/
theorem not_unlost_append (a : List Action) {b : List Action} (h : ¬ Unlost b) :
    ¬ Unlost (a ++ b) := fun hkept => h (List.forall_mem_append.1 hkept).2

/-! ## What the answer to a message does -/

/-- From this run on, the work makes these calls, gives these answers and leads to this desk and
engine.  It ends with `flow` unless it loses an answer. -/
structure Does (work : StateM (Run σ D) (Except String Flow)) (r : Run σ D) (called : List Call)
    (said : List String) (flow : Flow) (after : D × σ) : Prop where
  acts : ∃ acts, Passes [] called said r.scene acts (work r).2.scene ∧
    ((work r).1 = .ok flow ∨ ¬ Unlost acts)
  after : ((work r).2.desk, (work r).2.engine) = after

namespace Does

variable {work : StateM (Run σ D) (Except String Flow)} {r : Run σ D} {called : List Call}
  {said : List String} {flow : Flow} {after : D × σ}

theorem pure (flow : Flow) (r : Run σ D) :
    Does (Pure.pure (.ok flow)) r [] [] flow (r.desk, r.engine) where
  acts := ⟨[], .refl r.scene, .inl rfl⟩
  after := rfl

/-- An answer that comes last. -/
theorem wrote {act : StateM Scene (Except String Unit)} (h : Gives act said r.scene)
    (flow : Flow) :
    Does (do return (← Run.onScene act).map fun _ => flow) r [] said flow (r.desk, r.engine) where
  acts := by
    obtain ⟨acts, hpasses, hresult⟩ := h
    refine ⟨acts, hpasses, hresult.imp_left fun hok => ?_⟩
    show (act r.scene).1.map (fun _ => flow) = .ok flow
    rw [hok]
    rfl
  after := rfl

/-- An answer before the rest of the work. -/
theorem andThen {act : StateM (Run σ D) (Except String Flow)}
    {next : Except String Flow → StateM (Run σ D) (Except String Flow)} {first : List String}
    {f : Flow} (h : Does act r [] first f (r.desk, r.engine))
    (hok : ∀ g r', ∃ said, Does (next (.ok g)) r' [] said flow (r'.desk, r'.engine))
    (herror : ∀ e, next (.error e) = Pure.pure (.error e)) :
    ∃ said, Does (act >>= next) r [] said flow (r.desk, r.engine) := by
  obtain ⟨acts, hpasses, hresult⟩ := h.acts
  cases hact : (act r).1 with
  | error e =>
    -- The first answer is lost, so nothing follows it.
    have hwhole : (act >>= next) r = (.error e, (act r).2) := by
      rw [bind_of_eq (Prod.ext hact rfl : act r = (.error e, (act r).2)), herror]
      rfl
    rw [hact] at hresult
    refine ⟨first, ⟨acts, ?_, ?_⟩, ?_⟩
    all_goals rw [hwhole]
    · exact hpasses
    · exact hresult.imp_left fun hok => nomatch hok
    · exact h.after
  | ok g =>
    have hwhole : (act >>= next) r = next (.ok g) (act r).2 :=
      bind_of_eq (Prod.ext hact rfl : act r = (.ok g, (act r).2))
    obtain ⟨second, hsecond⟩ := hok g (act r).2
    obtain ⟨more, hmore, hend⟩ := hsecond.acts
    refine ⟨first ++ second, ⟨acts ++ more, ?_, ?_⟩, ?_⟩
    all_goals rw [hwhole]
    · exact hpasses.trans hmore
    · exact hend.imp_right (not_unlost_append _)
    · exact hsecond.after.trans h.after

theorem logged {level : Log.Level} {text : String}
    (h : Does work { r with scene := (Scene.logFrontEnd level text r.scene).2 } called said flow
      after) :
    Does (Run.onScene (Scene.logFrontEnd level text) >>= fun _ => work) r called said flow
      after where
  acts := by
    obtain ⟨acts, hlogged⟩ := Passes.log { level, target := Scene.frontEndTarget, text } r.scene
    obtain ⟨more, hpasses, hresult⟩ := h.acts
    exact ⟨acts ++ more, hlogged.trans hpasses, hresult.imp_right (not_unlost_append _)⟩
  after := h.after

theorem conversed {α : Type} {talk : D → StateM (Talk σ) (α × D)}
    {next : α → StateM (Run σ D) (Except String Flow)} {a : α} {desk : D} {t : Talk σ}
    (htalk : (talk r.desk).run { engine := r.engine } = ((a, desk), t))
    (h : Does (next a) (r.conversed desk t) [] said flow (desk, t.engine)) :
    Does (Run.converse talk >>= next) r (t.exchanges.map Exchange.call) said flow
      (desk, t.engine) := by
  have hconverse : Run.converse talk r = (a, r.conversed desk t) := Run.converse_of_eq htalk
  obtain ⟨acts, hexchanged⟩ := Passes.exchanges t.exchanges r.scene
  obtain ⟨more, hpasses, hresult⟩ := h.acts
  have hall := hexchanged.trans hpasses
  simp only [List.append_nil, List.nil_append] at hall
  refine ⟨⟨acts ++ more, ?_, ?_⟩, ?_⟩
  all_goals rw [bind_of_eq hconverse]
  · exact hall
  · exact hresult.imp_right (not_unlost_append _)
  · exact h.after

end Does
end DebugSession
