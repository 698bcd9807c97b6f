/-
Writes that fail.  An event or a log record that does not reach the client changes nothing but the
trace: it is as if it had been written.  The first answer that does not reach the client is the last
thing a front end does.  Each piece of work of a front end is compared with itself in a scene in
which no write fails.
-/
import DebugSession.Proofs.FrontEnd.Service
import DebugSession.Proofs.Scene

namespace DebugSession

variable {σ D α β : Type}

namespace Action

/-- An answer that does not reach the client. -/
def lostReply? : Action → Option String
  | .lost .reply text _ => some text
  | _ => none

/-- The action if writing succeeds. -/
def delivered : Action → Action
  | .lost origin text _ => .wrote origin text
  | a => a

end Action

/-- Actions in which no answer is lost. -/
def Unlost (acts : List Action) : Prop := ∀ a ∈ acts, a.lostReply? = none

namespace Unlost

theorem nil : Unlost [] := fun _ ha => absurd ha List.not_mem_nil

theorem singleton {a : Action} (h : a.lostReply? = none) : Unlost [a] :=
  List.forall_mem_singleton.2 h

theorem append {a b : List Action} (ha : Unlost a) (hb : Unlost b) : Unlost (a ++ b) :=
  List.forall_mem_append.2 ⟨ha, hb⟩

end Unlost

namespace Scene

/-- The scene as it is if no write fails and none has failed. -/
def fluent (s : Scene) : Scene :=
  { s with writeError := fun _ => none, trace := s.trace.map Action.delivered }

theorem add_fluent {a : Action} (h : a.delivered = a) (s : Scene) :
    add a s.fluent = ((), (add a s).2.fluent) := by
  show ((), { s.fluent with trace := s.trace.map Action.delivered ++ [a] }) =
    ((), { s.fluent with trace := (s.trace ++ [a]).map Action.delivered })
  rw [List.map_append, List.map_singleton, h]

theorem write_fluent (origin : Origin) (text : String) (s : Scene) :
    write origin text s.fluent = (.ok (), (write origin text s).2.fluent) := by
  have hfluent : s.fluent.writeError s.fluent.writes = none := rfl
  rw [write_of_none hfluent]
  cases h : s.writeError s.writes with
  | none =>
    rw [write_of_none h, fluent, fluent, List.map_append]
    rfl
  | some e =>
    rw [write_of_some h, fluent, fluent, List.map_append]
    rfl

/-! ## What is no answer -/

/-- A change of the scene that loses no answer, and is the same if no write fails. -/
structure Unheard (change : Scene → Scene) : Prop where
  fluent (s : Scene) : change s.fluent = (change s).fluent
  grows (s : Scene) : ∃ acts, s.Grows acts (change s) ∧ Unlost acts

namespace Unheard

theorem id : Unheard fun s => s where
  fluent _ := rfl
  grows s := ⟨[], .refl s, .nil⟩

theorem comp {change change' : Scene → Scene} (h : Unheard change) (h' : Unheard change') :
    Unheard fun s => change' (change s) where
  fluent s := by rw [h.fluent, h'.fluent]
  grows s := by
    obtain ⟨acts, hgrows, hacts⟩ := h.grows s
    obtain ⟨more, hmore, hlater⟩ := h'.grows (change s)
    exact ⟨acts ++ more, hgrows.trans hmore, hacts.append hlater⟩

theorem add {a : Action} (hdelivered : a.delivered = a) : Unheard fun s => (add a s).2 where
  fluent s := congrArg Prod.snd (add_fluent hdelivered s)
  grows s := by
    refine ⟨[a], grows_add a s, .singleton ?_⟩
    cases a with
    | lost origin text e => exact nomatch hdelivered
    | took _ | told _ | called _ | wrote _ _ | logged _ | openedLog _ | filed _ => rfl

theorem write {origin : Origin} (h : origin ≠ .reply) (text : String) :
    Unheard fun s => (write origin text s).2 where
  fluent s := congrArg Prod.snd (write_fluent origin text s)
  grows s := by
    obtain ⟨a, ha, hgrows⟩ := grows_write origin text s
    refine ⟨[a], hgrows, .singleton ?_⟩
    rcases ha with rfl | ⟨e, rfl⟩
    · rfl
    · cases origin with
      | reply => exact absurd rfl h
      | event => rfl
      | console => rfl

theorem sendEvent {origin : Origin} (h : origin ≠ .reply) (name : String) (body : Option Json) :
    Unheard fun s => (sendEvent origin name body s).2 where
  fluent s := (write h (Dap.frame (Dap.eventJson (s.seq + 1) name body))).fluent
    { s with seq := s.seq + 1 }
  grows s := by
    obtain ⟨acts, hgrows, hacts⟩ :=
      (write h (Dap.frame (Dap.eventJson (s.seq + 1) name body))).grows { s with seq := s.seq + 1 }
    exact ⟨acts, ⟨hgrows.trace, hgrows.mode, hgrows.writeError, hgrows.switch⟩, hacts⟩

/-- A change need only be unheard in each case, if the case is the same when no write fails. -/
theorem of_cases {change : Scene → Scene} (h : ∀ s, ∃ change', Unheard change' ∧
    change s = change' s ∧ change s.fluent = change' s.fluent) : Unheard change where
  fluent s := by
    obtain ⟨change', hunheard, hchange, hfluent⟩ := h s
    rw [hfluent, hunheard.fluent, hchange]
  grows s := by
    obtain ⟨change', hunheard, hchange, -⟩ := h s
    rw [hchange]
    exact hunheard.grows s

theorem report (e : Event) : Unheard fun s => (report e s).2 := by
  refine of_cases fun s => ?_
  have hmode : s.fluent.mode = s.mode := rfl
  have hevent : Origin.event ≠ .reply := Origin.noConfusion
  rw [report_eq, report_eq, hmode]
  cases s.mode with
  | mi => exact ⟨_, write hevent _, rfl, rfl⟩
  | cli => exact ⟨_, write hevent _, rfl, rfl⟩
  | dap => exact ⟨_, sendEvent hevent _ _, rfl, rfl⟩

theorem log (r : Log.Record) : Unheard fun s => (log r s).2 := by
  refine of_cases fun s => ?_
  have hswitch : s.fluent.switch = s.switch := rfl
  rw [log_eq, log_eq, hswitch]
  cases s.switch.recipient r with
  | none => exact ⟨_, id, rfl, rfl⟩
  | some k =>
    cases k with
    | main => exact ⟨_, add (a := .logged r) rfl, rfl, rfl⟩
    | file => exact ⟨_, add (a := .filed r.line) rfl, rfl, rfl⟩
    | console => exact ⟨_, sendEvent Origin.noConfusion _ _, rfl, rfl⟩

theorem forM {γ : Type} {f : γ → StateM Scene Unit} (h : ∀ x, Unheard fun s => (f x s).2)
    (xs : List γ) : Unheard fun s => (xs.forM f s).2 := by
  induction xs with
  | nil => exact id
  | cons x xs ih => exact (h x).comp ih

theorem output (channel : Channel) (bytes : Text.Bytes) :
    Unheard fun s => (output channel bytes s).2 := by
  refine of_cases fun s => ?_
  have hcapture : s.fluent.capture = s.capture := rfl
  rw [output_eq, output_eq, hcapture]
  cases s.capture with
  | none => exact ⟨_, report _, rfl, rfl⟩
  | some c =>
    have hpublished : Unheard fun s => { s with capture := some (c.publish channel bytes).2 } :=
      ⟨fun _ => rfl, fun s => ⟨[], ⟨(List.append_nil _).symm, rfl, rfl, rfl⟩, .nil⟩⟩
    exact ⟨_, hpublished.comp (forM report (c.publish channel bytes).1), rfl, rfl⟩

theorem emit (m : Emission) : Unheard fun s => (emit m s).2 := by
  cases m with
  | event e => exact report e
  | record r => exact log r
  | output channel bytes => exact output channel bytes

theorem exchange (x : Exchange) : Unheard fun s => (exchange x s).2 :=
  (add (a := .called x.call) rfl).comp (forM emit x.emitted)

theorem take (a : Arrival) : Unheard fun s => (take a s).2 := by
  have htook : Unheard fun s => (Scene.add (.took a) s).2 := add rfl
  cases a with
  | event e => exact htook.comp (report e)
  | record r => exact htook.comp (log r)
  | bytes _ | flush | failure _ => exact htook

end Unheard
end Scene

/-! ## Work that may lose an answer -/

/-- The run as it is if no write fails and none has failed. -/
def Run.fluent (r : Run σ D) : Run σ D := { r with scene := r.scene.fluent }

/-- Work that loses no answer, whatever fails to reach the client: it does and returns what it does
if no write fails. -/
def Unmoved (work : StateM (Run σ D) α) : Prop :=
  ∀ r : Run σ D, work r.fluent = ((work r).1, (work r).2.fluent) ∧
    ∃ acts, r.scene.Grows acts (work r).2.scene ∧ Unlost acts

namespace Unmoved

theorem onScene {act : StateM Scene Unit} (h : Scene.Unheard fun s => (act s).2) :
    Unmoved (Run.onScene act : StateM (Run σ D) Unit) := by
  intro r
  refine ⟨?_, h.grows r.scene⟩
  show ((), { r.fluent with scene := (act r.scene.fluent).2 }) =
    ((), Run.fluent { r with scene := (act r.scene).2 })
  rw [h.fluent]
  rfl

theorem log (level : Log.Level) (text : String) :
    Unmoved (Run.onScene (Scene.logFrontEnd level text) : StateM (Run σ D) Unit) :=
  onScene (.log _)

theorem takeAll (as : List Arrival) :
    Unmoved (Run.onScene (as.forM Scene.take) : StateM (Run σ D) Unit) :=
  onScene (.forM .take as)

/-- The engine learns nothing of what becomes of its events. -/
theorem converse (talk : D → StateM (Talk σ) (α × D)) : Unmoved (Run.converse talk) := by
  intro r
  have hexchanges : Scene.Unheard fun s =>
      ((talk r.desk { engine := r.engine }).2.exchanges.forM Scene.exchange s).2 :=
    .forM .exchange _
  refine ⟨?_, hexchanges.grows r.scene⟩
  refine Prod.ext rfl ?_
  show { desk := _, scene := _, engine := _ } = Run.fluent { desk := _, scene := _, engine := _ }
  exact congrArg (fun scene => ({ desk := _, scene, engine := _ } : Run σ D))
    (hexchanges.fluent r.scene)

end Unmoved

/-- From this run on, the work ends with the first answer it loses.  Up to then it does what it does
if no write fails; if it loses none, it also returns the same. -/
def SteadfastFrom (r : Run σ D) (work : StateM (Run σ D) (Except String α)) : Prop :=
  ∃ acts, r.scene.Grows acts (work r).2.scene ∧
    (Unlost acts ∧ work r.fluent = ((work r).1, (work r).2.fluent) ∨
      ∃ front text e, acts = front ++ [.lost .reply text e] ∧ Unlost front ∧
        (work r).1 = .error e ∧
        (work r).2.fluent.scene.trace <+: (work r.fluent).2.scene.trace)

/-- Work that ends with the first answer it loses, whichever that is. -/
def Steadfast (work : StateM (Run σ D) (Except String α)) : Prop := ∀ r, SteadfastFrom r work

/-- What comes after work that loses no answer. -/
theorem SteadfastFrom.after {work : StateM (Run σ D) α}
    {next : α → StateM (Run σ D) (Except String β)} {r : Run σ D} {acts : List Action}
    (hgrows : r.scene.Grows acts (work r).2.scene) (hacts : Unlost acts)
    (hfluent : work r.fluent = ((work r).1, (work r).2.fluent))
    (hnext : SteadfastFrom (work r).2 (next (work r).1)) : SteadfastFrom r (work >>= next) := by
  obtain ⟨more, hmore, hend⟩ := hnext
  have hwhole : (work >>= next) r = next (work r).1 (work r).2 := rfl
  have hwholeFluent : (work >>= next) r.fluent = next (work r).1 (work r).2.fluent :=
    bind_of_eq hfluent
  rw [SteadfastFrom, hwhole, hwholeFluent]
  refine ⟨acts ++ more, hgrows.trans hmore, ?_⟩
  rcases hend with ⟨hlater, hsame⟩ | ⟨front, text, e, rfl, hfront, hresult, htrace⟩
  · exact .inl ⟨hacts.append hlater, hsame⟩
  · exact .inr ⟨acts ++ front, text, e, (List.append_assoc _ _ _).symm, hacts.append hfront,
      hresult, htrace⟩

theorem Unmoved.bind {work : StateM (Run σ D) α} {next : α → StateM (Run σ D) (Except String β)}
    (h : Unmoved work) (hnext : ∀ a, Steadfast (next a)) : Steadfast (work >>= next) := by
  intro r
  obtain ⟨hfluent, acts, hgrows, hacts⟩ := h r
  exact .after hgrows hacts hfluent (hnext (work r).1 (work r).2)

namespace Steadfast

theorem pure (a : Except String α) : Steadfast (pure a : StateM (Run σ D) (Except String α)) :=
  fun r => ⟨[], .refl r.scene, .inl ⟨.nil, rfl⟩⟩

theorem write (text : String) :
    Steadfast (Run.onScene (Scene.write .reply text) :
      StateM (Run σ D) (Except String Unit)) := by
  intro r
  have hfluent : Run.onScene (Scene.write .reply text) r.fluent =
      (.ok (), ((Run.onScene (Scene.write .reply text) r).2.fluent : Run σ D)) :=
    congrArg (fun x : Except String Unit × Scene => (x.1, ({ r with scene := x.2 } : Run σ D)))
      (Scene.write_fluent .reply text r.scene)
  rw [SteadfastFrom, hfluent]
  show ∃ acts, r.scene.Grows acts (Scene.write .reply text r.scene).2 ∧
    (Unlost acts ∧ _ = ((Scene.write .reply text r.scene).1, _) ∨ ∃ front text' e, _ ∧ _ ∧
      (Scene.write .reply text r.scene).1 = _ ∧ _)
  cases h : r.scene.writeError r.scene.writes with
  | none =>
    rw [Scene.write_of_none h]
    exact ⟨[_], ⟨rfl, rfl, rfl, rfl⟩, .inl ⟨.singleton rfl, rfl⟩⟩
  | some e =>
    rw [Scene.write_of_some h]
    exact ⟨[_], ⟨rfl, rfl, rfl, rfl⟩, .inr ⟨[], text, e, rfl, .nil, rfl, List.prefix_rfl⟩⟩

/-- After a lost answer nothing is done any more; otherwise the work goes on. -/
theorem bind {work : StateM (Run σ D) (Except String α)}
    {next : Except String α → StateM (Run σ D) (Except String β)} (h : Steadfast work)
    (hok : ∀ a, Steadfast (next (.ok a))) (herror : ∀ e, next (.error e) = Pure.pure (.error e)) :
    Steadfast (work >>= next) := by
  have hnext : ∀ a, Steadfast (next a) := fun
    | .ok a => hok a
    | .error e => by
      rw [herror]
      exact pure _
  intro r
  obtain ⟨acts, hgrows, ⟨hacts, hfluent⟩ | ⟨front, text, e, hacts, hfront, hresult, htrace⟩⟩ := h r
  · exact .after hgrows hacts hfluent (hnext (work r).1 (work r).2)
  · have hwhole : (work >>= next) r = (.error e, (work r).2) := by
      show next (work r).1 (work r).2 = _
      rw [hresult, herror]
      rfl
    -- If no write fails, the work goes on and only adds to the trace.
    obtain ⟨rest, hrest, -⟩ := hnext (work r.fluent).1 (work r.fluent).2
    rw [SteadfastFrom, hwhole]
    refine ⟨acts, hgrows, .inr ⟨front, text, e, hacts, hfront, rfl, htrace.trans ?_⟩⟩
    exact ⟨rest, hrest.trace.symm⟩

theorem writeNumbered (text : Nat → String) :
    Steadfast (Run.onScene (do Scene.write .reply (text (← Scene.nextSeq))) :
      StateM (Run σ D) (Except String Unit)) := by
  intro r
  obtain ⟨acts, hgrows, hend⟩ := write (σ := σ) (D := D) (text (r.scene.seq + 1))
    { r with scene := { r.scene with seq := r.scene.seq + 1 } }
  exact ⟨acts, ⟨hgrows.trace, hgrows.mode, hgrows.writeError, hgrows.switch⟩, hend⟩

end Steadfast

theorem Service.steadfast {work : StateM (Run σ D) (Except String α)} (h : Service work) :
    Steadfast work := by
  induction h with
  | result a => exact .pure a
  | write text => exact .write text
  | writeNumbered text => exact .writeNumbered text
  | log level text _ ih => exact (Unmoved.log level text).bind fun _ => ih
  | take as _ ih => exact (Unmoved.takeAll as).bind fun _ => ih
  | converse talk _ ih => exact (Unmoved.converse talk).bind ih
  | bind _ _ herror ih hok => exact ih.bind hok herror

namespace CommandLoop

theorem steadfast_withDesk {desk : D} {work : StateM (Run σ D) (Except String α)}
    (h : Steadfast work) : Steadfast (Run.withDesk desk work) := by
  intro r
  obtain ⟨acts, hgrows, hend⟩ := h { r with desk }
  refine ⟨acts, hgrows, ?_⟩
  rcases hend with ⟨hacts, hsame⟩ | hlost
  · refine .inl ⟨hacts, ?_⟩
    exact congrArg (fun x : Except String α × Run σ D => (x.1, ({ x.2 with desk := () } : Stage σ)))
      hsame
  · exact .inr hlost

theorem steadfast_serve (E : Engine σ) (preset : Option LaunchTarget) (input : List Arrival)
    (mode : Mode) : Steadfast (serve E preset input mode) := by
  obtain ⟨D, desk, work, hserve, hwork⟩ := serve_eq_withDesk E preset input mode
  rw [hserve]
  exact steadfast_withDesk hwork.steadfast

end CommandLoop
end DebugSession
