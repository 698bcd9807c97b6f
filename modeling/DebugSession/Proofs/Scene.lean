/-
What happens in a scene is added to what happened before.  Events that are reported, records that
are logged and output that is published add nothing of the front end's own: no call, no answer and
no entry of the input.  What they write is the matter of a mode, which a `Manner` sums up.
-/
import DebugSession.Scene

namespace DebugSession

/-- What goes on with a result goes on with what the result is. -/
theorem bind_of_eq {s α β : Type} {x : StateM s α} {f : α → StateM s β} {t t' : s} {a : α}
    (h : x t = (a, t')) : (x >>= f) t = f a t' := by
  show (match x t with | (a, t') => f a t') = f a t'
  rw [h]

namespace Engine

variable {σ : Type}

theorem tell_eq (E : Engine σ) (c : Call) (t : Talk σ) :
    E.tell c t = ((E.respond c t.engine).1.outcome.map fun _ => (),
      ⟨(E.respond c t.engine).2, t.exchanges ++ [⟨c, (E.respond c t.engine).1.emitted⟩]⟩) := by
  have hask : E.ask c t = ((E.respond c t.engine).1.outcome,
      ⟨(E.respond c t.engine).2, t.exchanges ++ [⟨c, (E.respond c t.engine).1.emitted⟩]⟩) := rfl
  rw [tell, bind_of_eq hask]
  cases (E.respond c t.engine).1.outcome <;> rfl

theorem tellAll_cons (E : Engine σ) (c : Call) (cs : List Call) (t : Talk σ) :
    E.tellAll (c :: cs) t =
      match E.tell c t with
      | (.ok _, t') => E.tellAll cs t'
      | (.error e, t') => (.error e, t') := by
  rw [tellAll]
  rcases htell : E.tell c t with ⟨_ | _, t'⟩
  · exact bind_of_eq htell
  · exact bind_of_eq htell

end Engine

namespace Action

/-- A text that a front end writes itself. -/
def reply? : Action → Option String
  | .wrote .reply text => some text
  | _ => none

def call? : Action → Option Call
  | .called c => some c
  | _ => none

def arrival? : Action → Option Arrival
  | .took a => some a
  | _ => none

/-- What the engine is told. -/
def notice? : Action → Option Notice
  | .told n => some n
  | _ => none

/-- A text that reaches the client. -/
def text? : Action → Option String
  | .wrote _ text => some text
  | _ => none

def replies (acts : List Action) : List String := acts.filterMap reply?
def calls (acts : List Action) : List Call := acts.filterMap call?
def arrivals (acts : List Action) : List Arrival := acts.filterMap arrival?
def texts (acts : List Action) : List String := acts.filterMap text?

theorem replies_append (a b : List Action) : replies (a ++ b) = replies a ++ replies b :=
  List.filterMap_append

theorem calls_append (a b : List Action) : calls (a ++ b) = calls a ++ calls b :=
  List.filterMap_append

theorem arrivals_append (a b : List Action) : arrivals (a ++ b) = arrivals a ++ arrivals b :=
  List.filterMap_append

theorem texts_append (a b : List Action) : texts (a ++ b) = texts a ++ texts b :=
  List.filterMap_append

end Action

namespace Scene

open DebugSession.Action (replies calls arrivals texts)

/-! ## Growth -/

/-- From one scene to another nothing but `acts` happened, and the ways to write and to log are the
same. -/
structure Grows (s : Scene) (acts : List Action) (s' : Scene) : Prop where
  trace : s'.trace = s.trace ++ acts
  mode : s'.mode = s.mode
  writeError : s'.writeError = s.writeError
  switch : s'.switch = s.switch

theorem Grows.refl (s : Scene) : s.Grows [] s where
  trace := (List.append_nil _).symm
  mode := rfl
  writeError := rfl
  switch := rfl

theorem Grows.trans {s s' s'' : Scene} {a b : List Action} (h : s.Grows a s')
    (h' : s'.Grows b s'') : s.Grows (a ++ b) s'' where
  trace := by rw [h'.trace, h.trace, List.append_assoc]
  mode := h'.mode.trans h.mode
  writeError := h'.writeError.trans h.writeError
  switch := h'.switch.trans h.switch

/-- What happened between two scenes is determined by them. -/
theorem Grows.eq {s s' : Scene} {a b : List Action} (h : s.Grows a s') (h' : s.Grows b s') :
    a = b :=
  List.append_cancel_left (h.trace.symm.trans h'.trace)

theorem grows_add (a : Action) (s : Scene) : s.Grows [a] (add a s).2 where
  trace := rfl
  mode := rfl
  writeError := rfl
  switch := rfl

theorem write_of_none {s : Scene} (h : s.writeError s.writes = none) (origin : Origin)
    (text : String) :
    write origin text s = (.ok (), { s with
      writes := s.writes + 1
      trace := s.trace ++ [.wrote origin text] }) := by
  have hget : (get : StateM Scene Scene) s = (s, s) := rfl
  rw [write, bind_of_eq hget]
  simp only [h]
  rfl

theorem write_of_some {s : Scene} {e : String} (h : s.writeError s.writes = some e)
    (origin : Origin) (text : String) :
    write origin text s = (.error e, { s with
      writes := s.writes + 1
      trace := s.trace ++ [.lost origin text e] }) := by
  have hget : (get : StateM Scene Scene) s = (s, s) := rfl
  rw [write, bind_of_eq hget]
  simp only [h]
  rfl

theorem grows_write (origin : Origin) (text : String) (s : Scene) :
    ∃ a, (a = .wrote origin text ∨ ∃ e, a = .lost origin text e) ∧
      s.Grows [a] (write origin text s).2 := by
  cases h : s.writeError s.writes with
  | none =>
    rw [write_of_none h]
    exact ⟨_, .inl rfl, rfl, rfl, rfl, rfl⟩
  | some e =>
    rw [write_of_some h]
    exact ⟨_, .inr ⟨e, rfl⟩, rfl, rfl, rfl, rfl⟩

theorem sendEvent_eq (origin : Origin) (name : String) (body : Option Json) (s : Scene) :
    sendEvent origin name body s =
      write origin (Dap.frame (Dap.eventJson (s.seq + 1) name body))
        { s with seq := s.seq + 1 } := rfl

theorem grows_sendEvent (origin : Origin) (name : String) (body : Option Json) (s : Scene) :
    ∃ a, (a = .wrote origin (Dap.frame (Dap.eventJson (s.seq + 1) name body)) ∨
        ∃ e, a = .lost origin (Dap.frame (Dap.eventJson (s.seq + 1) name body)) e) ∧
      s.Grows [a] (sendEvent origin name body s).2 := by
  rw [sendEvent_eq]
  obtain ⟨a, ha, h⟩ := grows_write origin (Dap.frame (Dap.eventJson (s.seq + 1) name body))
    { s with seq := s.seq + 1 }
  exact ⟨a, ha, h.trace, h.mode, h.writeError, h.switch⟩

/-! ## Reports and records -/

theorem report_eq (e : Event) (s : Scene) : (report e s).2 =
    match s.mode with
    | .mi => (write .event (Mi.eventRecord e ++ "\n") s).2
    | .cli => (write .event (Cli.eventText e) s).2
    | .dap => (sendEvent .event (Dap.eventMessage e).1 (Dap.eventMessage e).2 s).2 := by
  simp only [report, bind, StateT.bind, get, getThe, MonadStateOf.get, StateT.get, pure]
  cases s.mode <;> rfl

theorem log_eq (r : Log.Record) (s : Scene) : (log r s).2 =
    match s.switch.recipient r with
    | none => s
    | some .main => (add (.logged r) s).2
    | some .file => (add (.filed r.line) s).2
    | some .console =>
      (sendEvent .console "output" (some (Dap.outputBody "console" r.line)) s).2 := by
  simp only [log, bind, StateT.bind, get, getThe, MonadStateOf.get, StateT.get, pure]
  cases s.switch.recipient r with
  | none => rfl
  | some k => cases k <;> rfl

/-- A report is one record, which may be lost. -/
theorem grows_report (e : Event) (s : Scene) :
    ∃ a text, (a = .wrote .event text ∨ ∃ e, a = .lost .event text e) ∧
      s.Grows [a] (report e s).2 := by
  rw [report_eq]
  cases s.mode with
  | mi => exact ⟨_, _, (grows_write _ _ s).choose_spec⟩
  | cli => exact ⟨_, _, (grows_write _ _ s).choose_spec⟩
  | dap => exact ⟨_, _, (grows_sendEvent _ _ _ s).choose_spec⟩

/-- A log record is one action at most, and no business of the front end. -/
theorem grows_log (r : Log.Record) (s : Scene) :
    s.Grows [] (log r s).2 ∨ ∃ a, a.arrival? = none ∧ a.call? = none ∧ a.reply? = none ∧
      a.notice? = none ∧ s.Grows [a] (log r s).2 := by
  rw [log_eq]
  cases s.switch.recipient r with
  | none => exact .inl (.refl s)
  | some k =>
    refine .inr ?_
    cases k with
    | main => exact ⟨_, rfl, rfl, rfl, rfl, grows_add _ s⟩
    | file => exact ⟨_, rfl, rfl, rfl, rfl, grows_add _ s⟩
    | console =>
      obtain ⟨a, ha, hgrows⟩ := grows_sendEvent .console "output"
        (some (Dap.outputBody "console" r.line)) s
      refine ⟨a, ?_, ?_, ?_, ?_, hgrows⟩
      all_goals obtain rfl | ⟨e, rfl⟩ := ha <;> rfl

theorem output_eq (channel : Channel) (bytes : Text.Bytes) (s : Scene) :
    (output channel bytes s).2 =
    match s.capture with
    | none => (report (.output channel (Text.Utf8.lossy bytes)) s).2
    | some c =>
      (reportAll (c.publish channel bytes).1
        { s with capture := some (c.publish channel bytes).2 }).2 := by
  simp only [output, bind, StateT.bind, get, getThe, MonadStateOf.get, StateT.get, pure]
  cases s.capture <;> rfl

theorem exchange_eq (x : Exchange) (s : Scene) :
    exchange x s = x.emitted.forM emit (add (.called x.call) s).2 := rfl

theorem forM_cons {α : Type} (f : α → StateM Scene Unit) (x : α) (xs : List α) (s : Scene) :
    (x :: xs).forM f s = xs.forM f (f x s).2 := rfl

/-! ## Stretches

A stretch is what happens between two scenes, told by the entries taken, the calls made and the
answers written in it. -/

/-- What a mode makes of events and log records.  It holds of each of them, of all that shows no
text and tells the engine nothing, and of one stretch after the other. -/
structure Manner (P : Scene → List Action → Scene → Prop) : Prop where
  nil (s : Scene) : P s [] s
  append {s s' s'' : Scene} {a b : List Action} :
    s.Grows a s' → P s a s' → P s' b s'' → P s (a ++ b) s''
  silent {a : Action} (s : Scene) : a.text? = none → a.notice? = none → P s [a] (add a s).2
  reported (e : Event) {s : Scene} {acts : List Action} :
    s.Grows acts (report e s).2 → P s acts (report e s).2
  logged (r : Log.Record) {s : Scene} {acts : List Action} :
    s.Grows acts (log r s).2 → P s acts (log r s).2
  captured (c : Option Redirect.Capture) (s : Scene) : P s [] { s with capture := c }

structure Stretch (P : Scene → List Action → Scene → Prop) (taken : List Arrival)
    (called : List Call) (answered : List String) (s : Scene) (acts : List Action) (s' : Scene) :
    Prop where
  grows : s.Grows acts s'
  arrivals : arrivals acts = taken
  calls : calls acts = called
  replies : replies acts = answered
  manner : P s acts s'

/-- What is written after a stretch neither takes an entry nor makes a call. -/
theorem Stretch.arrivals_wrote {P : Scene → List Action → Scene → Prop} {taken : List Arrival}
    {called : List Call} {answered : List String} {s s' : Scene} {acts : List Action}
    (h : Stretch P taken called answered s acts s') (origin : Origin) (text : String) :
    Action.arrivals (acts ++ [.wrote origin text]) = taken := by
  rw [Action.arrivals_append, h.arrivals]
  exact List.append_nil taken

theorem Stretch.calls_wrote {P : Scene → List Action → Scene → Prop} {taken : List Arrival}
    {called : List Call} {answered : List String} {s s' : Scene} {acts : List Action}
    (h : Stretch P taken called answered s acts s') (origin : Origin) (text : String) :
    Action.calls (acts ++ [.wrote origin text]) = called := by
  rw [Action.calls_append, h.calls]
  exact List.append_nil called

/-- The manner that says nothing. -/
theorem manner_any : Manner fun _ _ _ => True where
  nil _ := trivial
  append _ _ _ := trivial
  silent _ _ _ := trivial
  reported _ _ _ _ := trivial
  logged _ _ _ _ := trivial
  captured _ _ := trivial

namespace Manner

variable {P : Scene → List Action → Scene → Prop}

theorem stretch_nil (hP : Manner P) (s : Scene) : Stretch P [] [] [] s [] s where
  grows := .refl s
  arrivals := rfl
  calls := rfl
  replies := rfl
  manner := hP.nil s

theorem stretch_append (hP : Manner P) {s s' s'' : Scene} {a b : List Action}
    {taken taken' : List Arrival} {called called' : List Call} {answered answered' : List String}
    (h : Stretch P taken called answered s a s')
    (h' : Stretch P taken' called' answered' s' b s'') :
    Stretch P (taken ++ taken') (called ++ called') (answered ++ answered') s (a ++ b) s'' where
  grows := h.grows.trans h'.grows
  arrivals := by rw [Action.arrivals_append, h.arrivals, h'.arrivals]
  calls := by rw [Action.calls_append, h.calls, h'.calls]
  replies := by rw [Action.replies_append, h.replies, h'.replies]
  manner := hP.append h.grows h.manner h'.manner

/-- A single action that is no business of the front end. -/
theorem stretch_singleton {s s' : Scene} {a : Action} (hgrows : s.Grows [a] s') (hP : P s [a] s')
    (harrival : a.arrival? = none) (hcall : a.call? = none) (hreply : a.reply? = none) :
    Stretch P [] [] [] s [a] s' where
  grows := hgrows
  arrivals := by simp [Action.arrivals, harrival]
  calls := by simp [Action.calls, hcall]
  replies := by simp [Action.replies, hreply]
  manner := hP

theorem stretch_add (hP : Manner P) {a : Action} (s : Scene) (htext : a.text? = none)
    (hnotice : a.notice? = none) :
    Stretch P a.arrival?.toList a.call?.toList [] s [a] (add a s).2 where
  grows := grows_add a s
  arrivals := by cases h : a.arrival? <;> simp [Action.arrivals, h]
  calls := by cases h : a.call? <;> simp [Action.calls, h]
  replies := by
    have hreply : a.reply? = none := by
      cases a <;> first | rfl | exact absurd htext (by simp [Action.text?])
    simp [Action.replies, hreply]
  manner := hP.silent s htext hnotice

theorem stretch_report (hP : Manner P) (e : Event) (s : Scene) :
    ∃ acts, Stretch P [] [] [] s acts (report e s).2 := by
  obtain ⟨a, text, ha, hgrows⟩ := grows_report e s
  refine ⟨[a], stretch_singleton hgrows (hP.reported e hgrows) ?_ ?_ ?_⟩
  all_goals obtain rfl | ⟨e, rfl⟩ := ha <;> rfl

theorem stretch_log (hP : Manner P) (r : Log.Record) (s : Scene) :
    ∃ acts, Stretch P [] [] [] s acts (log r s).2 := by
  rcases grows_log r s with hgrows | ⟨a, harrival, hcall, hreply, -, hgrows⟩
  · exact ⟨[], hgrows, rfl, rfl, rfl, hP.logged r hgrows⟩
  · exact ⟨[a], stretch_singleton hgrows (hP.logged r hgrows) harrival hcall hreply⟩

/-- What each element of a list adds, all of them add together. -/
theorem stretch_forM (hP : Manner P) {α : Type} {f : α → StateM Scene Unit}
    (taken : α → List Arrival) (called : α → List Call)
    (hf : ∀ x s, ∃ acts, Stretch P (taken x) (called x) [] s acts (f x s).2) (xs : List α)
    (s : Scene) :
    ∃ acts, Stretch P (xs.flatMap taken) (xs.flatMap called) [] s acts (xs.forM f s).2 := by
  induction xs generalizing s with
  | nil => exact ⟨[], hP.stretch_nil s⟩
  | cons x xs ih =>
    obtain ⟨a, ha⟩ := hf x s
    obtain ⟨b, hb⟩ := ih (f x s).2
    refine ⟨a ++ b, ?_⟩
    rw [forM_cons, List.flatMap_cons, List.flatMap_cons]
    exact hP.stretch_append ha hb

/-- What each element of a list adds is no business of the front end. -/
theorem stretch_forM_quiet (hP : Manner P) {α : Type} {f : α → StateM Scene Unit}
    (hf : ∀ x s, ∃ acts, Stretch P [] [] [] s acts (f x s).2) (xs : List α) (s : Scene) :
    ∃ acts, Stretch P [] [] [] s acts (xs.forM f s).2 := by
  have hnone : ∀ β : Type, xs.flatMap (fun _ => ([] : List β)) = [] :=
    fun _ => List.flatMap_eq_nil_iff.2 fun _ _ => rfl
  have h := hP.stretch_forM (fun _ => []) (fun _ => []) hf xs s
  rw [hnone, hnone] at h
  exact h

theorem stretch_reportAll (hP : Manner P) (es : List Event) (s : Scene) :
    ∃ acts, Stretch P [] [] [] s acts (reportAll es s).2 :=
  hP.stretch_forM_quiet hP.stretch_report es s

theorem stretch_output (hP : Manner P) (channel : Channel) (bytes : Text.Bytes) (s : Scene) :
    ∃ acts, Stretch P [] [] [] s acts (output channel bytes s).2 := by
  rw [output_eq]
  cases s.capture with
  | none => exact hP.stretch_report _ s
  | some c =>
    have hcapture :
        Stretch P [] [] [] s [] { s with capture := some (c.publish channel bytes).2 } :=
      ⟨⟨(List.append_nil _).symm, rfl, rfl, rfl⟩, rfl, rfl, rfl, hP.captured _ s⟩
    obtain ⟨acts, h⟩ := hP.stretch_reportAll (c.publish channel bytes).1
      { s with capture := some (c.publish channel bytes).2 }
    exact ⟨acts, hP.stretch_append hcapture h⟩

theorem stretch_emit (hP : Manner P) (m : Emission) (s : Scene) :
    ∃ acts, Stretch P [] [] [] s acts (emit m s).2 := by
  cases m with
  | event e => exact hP.stretch_report e s
  | record r => exact hP.stretch_log r s
  | output channel bytes => exact hP.stretch_output channel bytes s

theorem stretch_exchange (hP : Manner P) (x : Exchange) (s : Scene) :
    ∃ acts, Stretch P [] [x.call] [] s acts (exchange x s).2 := by
  have hcall := hP.stretch_add (a := .called x.call) s rfl rfl
  obtain ⟨acts, h⟩ := hP.stretch_forM_quiet hP.stretch_emit x.emitted (add (.called x.call) s).2
  rw [exchange_eq]
  exact ⟨_, hP.stretch_append hcall h⟩

theorem stretch_exchanges (hP : Manner P) (xs : List Exchange) (s : Scene) :
    ∃ acts, Stretch P [] (xs.map Exchange.call) [] s acts (xs.forM exchange s).2 := by
  obtain ⟨acts, h⟩ := hP.stretch_forM (fun _ => []) (fun x => [x.call]) hP.stretch_exchange
    xs s
  have hnone : xs.flatMap (fun _ => ([] : List Arrival)) = [] :=
    List.flatMap_eq_nil_iff.2 fun _ _ => rfl
  rw [hnone, ← List.map_eq_flatMap] at h
  exact ⟨acts, h⟩

theorem stretch_take (hP : Manner P) (a : Arrival) (s : Scene) :
    ∃ acts, Stretch P [a] [] [] s acts (take a s).2 := by
  have htook := hP.stretch_add (a := .took a) s rfl rfl
  cases a with
  | event e =>
    obtain ⟨acts, h⟩ := hP.stretch_report e (add (.took (.event e)) s).2
    exact ⟨_, hP.stretch_append htook h⟩
  | record r =>
    obtain ⟨acts, h⟩ := hP.stretch_log r (add (.took (.record r)) s).2
    exact ⟨_, hP.stretch_append htook h⟩
  | bytes bs => exact ⟨_, htook⟩
  | flush => exact ⟨_, htook⟩
  | failure text => exact ⟨_, htook⟩

theorem stretch_takeAll (hP : Manner P) (as : List Arrival) (s : Scene) :
    ∃ acts, Stretch P as [] [] s acts (as.forM take s).2 := by
  obtain ⟨acts, h⟩ := hP.stretch_forM (fun a => [a]) (fun _ => []) hP.stretch_take as s
  have hnone : as.flatMap (fun _ => ([] : List Call)) = [] :=
    List.flatMap_eq_nil_iff.2 fun _ _ => rfl
  rw [hnone, List.flatMap_singleton'] at h
  exact ⟨acts, h⟩

end Manner
end Scene
end DebugSession
