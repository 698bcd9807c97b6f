/-
The Debug Adapter Protocol over a whole session.  All messages carry one number after the other,
whoever causes them.  Each message of the client has exactly one response, in order; what the engine
reports on the way stands before it, and the event that says that the engine is ready directly
behind it.
-/
import DebugSession.Dap.FrontEnd
import DebugSession.Proofs.Dap.Desk
import DebugSession.Proofs.FrontEnd.Conversation

namespace DebugSession
namespace Dap

open DebugSession.Action (arrivals calls texts)
open Scene (Grows Manner Stretch)

variable {σ : Type}

/-! ## Messages to the client -/

/-- A message to the client before it gets its number. -/
inductive Outgoing where
  | event (name : String) (body : Option Json)
  | response (request : Int) (command : String) (result : Except String (Option Json))

namespace Outgoing

def json (seq : Nat) : Outgoing → Json
  | event name body => eventJson seq name body
  | response request command result => responseJson seq request command result

/-- An event that has nothing to do with the start of the session. -/
def IsNote (m : Outgoing) : Prop := ∃ name body, m = .event name body ∧ name ≠ "initialized"

end Outgoing

/-- Messages as they are sent, with the numbers after `last`. -/
def numbered (last : Nat) (ms : List Outgoing) : List String :=
  ms.mapIdx fun i m => frame (m.json (last + i + 1))

theorem numbered_append (last : Nat) (ms more : List Outgoing) :
    numbered last (ms ++ more) = numbered last ms ++ numbered (last + ms.length) more := by
  have hindex : ∀ i, last + (i + ms.length) + 1 = last + ms.length + i + 1 := fun i => by omega
  rw [numbered, List.mapIdx_append]
  simp only [hindex]
  rfl

/-- The texts of the actions are the messages with the numbers that come next. -/
structure Says (s : Scene) (acts : List Action) (s' : Scene) (ms : List Outgoing) : Prop where
  texts : texts acts = numbered s.seq ms
  seq : s'.seq = s.seq + ms.length

theorem Says.append {s s' s'' : Scene} {acts more : List Action} {ms ms' : List Outgoing}
    (h : Says s acts s' ms) (h' : Says s' more s'' ms') :
    Says s (acts ++ more) s'' (ms ++ ms') where
  texts := by rw [Action.texts_append, h.texts, h'.texts, h.seq, numbered_append]
  seq := by rw [h'.seq, h.seq, List.length_append, Nat.add_assoc]

def sent (origin : Origin) (m : Outgoing) (s : Scene) : Scene :=
  { s with
    writes := s.writes + 1
    seq := s.seq + 1
    trace := s.trace ++ [.wrote origin (frame (m.json (s.seq + 1)))] }

theorem grows_sent (origin : Origin) (m : Outgoing) (s : Scene) :
    s.Grows [.wrote origin (frame (m.json (s.seq + 1)))] (sent origin m s) :=
  ⟨rfl, rfl, rfl, rfl⟩

theorem says_sent (origin : Origin) (m : Outgoing) (s : Scene) :
    Says s [.wrote origin (frame (m.json (s.seq + 1)))] (sent origin m s) [m] := ⟨rfl, rfl⟩

theorem sendEvent_of_none {s : Scene} (hw : ∀ n, s.writeError n = none) (origin : Origin)
    (name : String) (body : Option Json) :
    Scene.sendEvent origin name body s = (.ok (), sent origin (.event name body) s) :=
  Scene.write_of_none (s := { s with seq := s.seq + 1 }) (hw s.writes) origin _

theorem sendResponse_of_none {s : Scene} (hw : ∀ n, s.writeError n = none) (request : Int)
    (command : String) (result : Except String (Option Json)) :
    Scene.sendResponse request command result s =
      (.ok (), sent .reply (.response request command result) s) :=
  Scene.write_of_none (s := { s with seq := s.seq + 1 }) (hw s.writes) .reply _

/-! ## Notes -/

/-- Actions that send nothing but notes. -/
def Notes (s : Scene) (acts : List Action) (s' : Scene) : Prop :=
  s.mode = .dap → (∀ n, s.writeError n = none) →
    ∃ ms : List Outgoing, (∀ m ∈ ms, m.IsNote) ∧ Says s acts s' ms

theorem notes_sendEvent {s : Scene} (hw : ∀ n, s.writeError n = none) {origin : Origin}
    {name : String} {body : Option Json} {acts : List Action}
    (hgrows : s.Grows acts (Scene.sendEvent origin name body s).2) (hname : name ≠ "initialized") :
    ∃ ms : List Outgoing, (∀ m ∈ ms, m.IsNote) ∧
      Says s acts (Scene.sendEvent origin name body s).2 ms := by
  rw [sendEvent_of_none hw] at hgrows ⊢
  rw [hgrows.eq (grows_sent origin _ s)]
  exact ⟨_, List.forall_mem_singleton.2 ⟨name, body, rfl, hname⟩, says_sent origin _ s⟩

/-- The event that says that the engine is ready is no event of the engine. -/
theorem eventMessage_ne (e : Event) : (eventMessage e).1 ≠ "initialized" := by
  cases e <;> simp [eventMessage]

theorem notes_of_silent {s s' : Scene} {acts : List Action} (htexts : texts acts = [])
    (hseq : s'.seq = s.seq) : ∃ ms : List Outgoing, (∀ m ∈ ms, m.IsNote) ∧ Says s acts s' ms :=
  ⟨[], fun _ hm => absurd hm List.not_mem_nil, htexts, hseq⟩

theorem manner_notes : Manner Notes where
  nil _ _ _ := notes_of_silent rfl rfl
  append hgrows hfirst hsecond hmode hw := by
    obtain ⟨ms, hms, hsays⟩ := hfirst hmode hw
    obtain ⟨more, hmore, hsays'⟩ := hsecond (hgrows.mode.trans hmode) (hgrows.writeError ▸ hw)
    exact ⟨ms ++ more, List.forall_mem_append.2 ⟨hms, hmore⟩, hsays.append hsays'⟩
  silent {a} _ ha _ _ _ := by
    refine notes_of_silent ?_ rfl
    show [a].filterMap Action.text? = []
    rw [List.filterMap_cons_none ha]
    rfl
  reported e {s acts} hgrows hmode hw := by
    have hreport := Scene.report_eq e s
    rw [hmode] at hreport
    rw [hreport] at hgrows ⊢
    exact notes_sendEvent hw hgrows (eventMessage_ne e)
  logged r {s acts} hgrows _ hw := by
    have hlog := Scene.log_eq r s
    cases hr : s.switch.recipient r with
    | none =>
      rw [hr] at hlog
      rw [hlog] at hgrows ⊢
      rw [hgrows.eq (.refl s)]
      exact notes_of_silent rfl rfl
    | some sink =>
      rw [hr] at hlog
      rw [hlog] at hgrows ⊢
      cases sink with
      | main =>
        rw [hgrows.eq (Scene.grows_add _ s)]
        exact notes_of_silent rfl rfl
      | file =>
        rw [hgrows.eq (Scene.grows_add _ s)]
        exact notes_of_silent rfl rfl
      | console => exact notes_sendEvent hw hgrows (by decide)
  captured _ _ _ _ := notes_of_silent rfl rfl

/-- Between two scenes these entries were taken, these calls made and these messages sent. -/
structure Delivers (taken : List Arrival) (called : List Call) (s : Scene) (acts : List Action)
    (s' : Scene) (ms : List Outgoing) : Prop where
  grows : s.Grows acts s'
  arrivals : arrivals acts = taken
  calls : calls acts = called
  told : Says s acts s' ms

theorem delivers_of_stretch {taken : List Arrival} {called : List Call} {s s' : Scene}
    {acts : List Action} (h : Stretch Notes taken called [] s acts s') (hmode : s.mode = .dap)
    (hw : ∀ n, s.writeError n = none) :
    ∃ notes : List Outgoing, (∀ m ∈ notes, m.IsNote) ∧ Delivers taken called s acts s' notes := by
  obtain ⟨notes, hnotes, hsays⟩ := h.manner hmode hw
  exact ⟨notes, hnotes, h.grows, h.arrivals, h.calls, hsays⟩

theorem Delivers.sent {taken : List Arrival} {called : List Call} {s s' : Scene}
    {acts : List Action} {ms : List Outgoing} (h : Delivers taken called s acts s' ms)
    (m : Outgoing) :
    Delivers taken called s (acts ++ [.wrote .reply (frame (m.json (s'.seq + 1)))])
      (sent .reply m s') (ms ++ [m]) where
  grows := h.grows.trans (grows_sent .reply m s')
  arrivals := by
    rw [Action.arrivals_append, h.arrivals]
    exact List.append_nil taken
  calls := by
    rw [Action.calls_append, h.calls]
    exact List.append_nil called
  told := h.told.append (says_sent .reply m s')

/-! ## Turns -/

namespace Incoming

/-- The request in a message, if it is one. -/
def request? : Incoming → Option Request
  | .error _ => none
  | .ok v => (Request.decode v).toOption

/-- What is said of a message that is no request. -/
def fault : Incoming → String
  | .error fault => fault.message Json.Fault.message
  | .ok v =>
    match Request.decode v with
    | .error m => "invalid request: " ++ m.message
    | .ok _ => ""

/-- The client asks to leave, in a form that can be read. -/
def Leaves (m : Incoming) : Prop :=
  ∃ r args, m.request? = some r ∧ r.command = "disconnect" ∧
    argumentsOr {} DisconnectArguments.decode r.arguments = .ok args

end Incoming

/-- What is sent for a message of the client: notes, the response, and perhaps that the engine is
ready. -/
structure Answer where
  notes : List Outgoing
  request : Int
  command : String
  result : Except String (Option Json)
  ready : Bool

namespace Answer

def messages (a : Answer) : List Outgoing :=
  a.notes ++ [.response a.request a.command a.result] ++
    if a.ready then [.event "initialized" none] else []

theorem messages_of_not_ready (notes : List Outgoing) (request : Int) (command : String)
    (result : Except String (Option Json)) :
    messages ⟨notes, request, command, result, false⟩ =
      notes ++ [.response request command result] := by
  rw [messages, if_neg Bool.false_ne_true, List.append_nil]

end Answer

/-- What the client can tell of a front end: the engine, and the number of the last message. -/
structure Standing (σ : Type) where
  preset : Option LaunchTarget
  engine : σ
  seq : Nat

def standing (r : Run σ Desk) : Standing σ := ⟨r.desk, r.engine, r.scene.seq⟩

/-- What a request comes to, and what passed with the engine. -/
def Request.carriedOut (E : Engine σ) (r : Request) (before : Standing σ) : Outcome × Talk σ :=
  (handle E before.preset r).run { engine := before.engine }

def resultOf : Outcome → Except String (Option Json)
  | .ok reply => .ok reply.body
  | .error c => .error c.message

/-- Whether the client is told after an outcome that the engine is ready. -/
def readyAfter : Outcome → Bool
  | .ok reply => reply.after == .announceReady
  | .error _ => false

def flowAfter : Outcome → Flow
  | .ok reply => if reply.after = .leave then .leave else .goOn
  | .error _ => .goOn

theorem flowAfter_eq_leave_iff {outcome : Outcome} :
    flowAfter outcome = .leave ↔ ∃ reply, outcome = .ok reply ∧ reply.after = .leave := by
  cases outcome with
  | error c => exact ⟨fun h => Flow.noConfusion h, fun ⟨_, h, _⟩ => nomatch h⟩
  | ok reply =>
    by_cases hleave : reply.after = .leave
    · exact ⟨fun _ => ⟨reply, rfl, hleave⟩, fun _ => if_pos hleave⟩
    · refine ⟨fun h => ?_, fun ⟨reply', h, h'⟩ => absurd h' (Except.ok.inj h ▸ hleave)⟩
      rw [flowAfter, if_neg hleave] at h
      exact Flow.noConfusion h

/-- What the turn of a message comes to, given the standing before and after it. -/
structure Answers (E : Engine σ) (m : Incoming) (before : Standing σ) (t : Turn Answer) (f : Flow)
    (after : Standing σ) : Prop where
  shown : arrivals t.acts = t.taken
  written : texts t.acts = numbered before.seq t.answer.messages
  counted : after.seq = before.seq + t.answer.messages.length
  notes : ∀ n ∈ t.answer.notes, n.IsNote
  preset : after.preset = before.preset
  refused : m.request? = none →
    t.answer.request = 0 ∧ t.answer.command = "" ∧ t.answer.result = .error m.fault ∧
      calls t.acts = [] ∧ after.engine = before.engine
  obeyed : ∀ r, m.request? = some r →
    let (outcome, talk) := r.carriedOut E before
    t.answer.request = r.seq ∧ t.answer.command = r.command ∧ t.answer.result = resultOf outcome ∧
      calls t.acts = talk.exchanges.map Exchange.call ∧ after.engine = talk.engine
  ready : t.answer.ready = true ↔
    t.answer.command = "initialize" ∧ ∃ body, t.answer.result = .ok body
  leaves : f = .leave ↔ m.Leaves
  granted : f = .leave → t.answer.result = .ok none

section Turns

variable {E : Engine σ} {m : Incoming} {taken : List Arrival} {r r' : Run σ Desk}
  {acts : List Action} {notes : List Outgoing}

theorem answers_of_refused (hm : m.request? = none) (hnotes : ∀ n ∈ notes, n.IsNote)
    (hpreset : r'.desk = r.desk) (hengine : r'.engine = r.engine)
    (h : Delivers taken [] r.scene acts r'.scene
      (Answer.messages ⟨notes, 0, "", .error m.fault, false⟩)) :
    Answers E m (standing r) ⟨taken, acts, notes, 0, "", .error m.fault, false⟩ .goOn
      (standing r') where
  shown := h.arrivals
  written := h.told.texts
  counted := h.told.seq
  notes := hnotes
  preset := hpreset
  refused _ := ⟨rfl, rfl, rfl, h.calls, hengine⟩
  obeyed r hr := absurd (hm.symm.trans hr) (Option.some_ne_none r).symm
  ready := ⟨fun hready => Bool.noConfusion hready, fun hready => nomatch hready.2⟩
  leaves := ⟨fun hf => Flow.noConfusion hf, fun ⟨r, _, hr, _⟩ =>
    absurd (hm.symm.trans hr) (Option.some_ne_none r).symm⟩
  granted hf := Flow.noConfusion hf

theorem answers_of_obeyed {req : Request} (hm : m.request? = some req) {outcome : Outcome}
    {talk : Talk σ} (hcarried : req.carriedOut E (standing r) = (outcome, talk))
    (hnotes : ∀ n ∈ notes, n.IsNote) (hpreset : r'.desk = r.desk)
    (hengine : r'.engine = talk.engine)
    (h : Delivers taken (talk.exchanges.map Exchange.call) r.scene acts r'.scene
      (Answer.messages ⟨notes, req.seq, req.command, resultOf outcome, readyAfter outcome⟩)) :
    Answers E m (standing r)
      ⟨taken, acts, notes, req.seq, req.command, resultOf outcome, readyAfter outcome⟩
      (flowAfter outcome) (standing r') where
  shown := h.arrivals
  written := h.told.texts
  counted := h.told.seq
  notes := hnotes
  preset := hpreset
  refused hnone := absurd (hm.symm.trans hnone) (Option.some_ne_none req)
  obeyed req' hm' := by
    obtain rfl := Option.some.inj (hm.symm.trans hm')
    rw [hcarried]
    exact ⟨rfl, rfl, rfl, h.calls, hengine⟩
  ready := by
    have hout := congrArg Prod.fst hcarried
    show readyAfter outcome = true ↔
      req.command = "initialize" ∧ ∃ body, resultOf outcome = .ok body
    cases outcome with
    | error c => exact ⟨fun hready => Bool.noConfusion hready, fun hready => nomatch hready.2⟩
    | ok reply =>
      rw [readyAfter, beq_iff_eq, after_eq_announceReady_iff hout]
      exact ⟨fun hcommand => ⟨hcommand, reply.body, rfl⟩, And.left⟩
  leaves := by
    have hout : outcome = (handle E r.desk req { engine := r.engine }).1 :=
      (congrArg Prod.fst hcarried).symm
    rw [flowAfter_eq_leave_iff, hout, leave_iff]
    constructor
    · rintro ⟨hcommand, args, hargs⟩
      exact ⟨req, args, hm, hcommand, hargs⟩
    · rintro ⟨req', args, hm', hcommand, hargs⟩
      obtain rfl := Option.some.inj (hm.symm.trans hm')
      exact ⟨hcommand, args, hargs⟩
  granted hleave := by
    obtain ⟨reply, rfl, hafter⟩ := flowAfter_eq_leave_iff.1 hleave
    obtain ⟨-, hbody⟩ := of_after_eq_leave (congrArg Prod.fst hcarried) hafter
    exact congrArg Except.ok hbody

end Turns

/-! ## The loop -/

def told (m : Outgoing) (r : Run σ Desk) : Run σ Desk :=
  { r with scene := sent .reply m r.scene }

theorem respond_eq {r : Run σ Desk} (hw : ∀ n, r.scene.writeError n = none) (request : Int)
    (command : String) (result : Except String (Option Json)) (flow : Flow) :
    respond request command result flow r =
      (.ok flow, told (.response request command result) r) := by
  have hsend : Run.onScene (Scene.sendResponse request command result) r =
      (.ok (), told (.response request command result) r) := by
    have hscene := sendResponse_of_none hw request command result
    show ((Scene.sendResponse request command result r.scene).1,
      { r with scene := (Scene.sendResponse request command result r.scene).2 }) = _
    rw [hscene]
    rfl
  rw [respond, bind_of_eq hsend]
  rfl

theorem announceReady_eq {r : Run σ Desk} (hw : ∀ n, r.scene.writeError n = none) :
    announceReady r = (.ok .goOn, told (.event "initialized" none) r) := by
  have hsend : Run.onScene (Scene.sendEvent .reply "initialized" none) r =
      (.ok (), told (.event "initialized" none) r) := by
    have hscene := sendEvent_of_none hw .reply "initialized" none
    show ((Scene.sendEvent .reply "initialized" none r.scene).1,
      { r with scene := (Scene.sendEvent .reply "initialized" none r.scene).2 }) = _
    rw [hscene]
    rfl
  rw [announceReady, bind_of_eq hsend]
  rfl

def conversed (talk : Talk σ) (r : Run σ Desk) : Run σ Desk :=
  { r with scene := (talk.exchanges.forM Scene.exchange r.scene).2, engine := talk.engine }

def noted (level : Log.Level) (text : String) (r : Run σ Desk) : Run σ Desk :=
  { r with scene := (Scene.logFrontEnd level text r.scene).2 }

/-- What is left to do after an outcome. -/
def conclude (req : Request) : Outcome → Work σ (Except String Flow)
  | .error c => respond req.seq req.command (.error c.message) .goOn
  | .ok reply => do
    if let some text := reply.warning then warn text
    match reply.after with
    | .nothing => respond req.seq req.command (.ok reply.body) .goOn
    | .leave => respond req.seq req.command (.ok reply.body) .leave
    | .announceReady =>
      match ← respond req.seq req.command (.ok reply.body) .goOn with
      | .ok _ => announceReady
      | .error e => return .error e

theorem obey_eq (E : Engine σ) {req : Request} {r : Run σ Desk} {outcome : Outcome} {talk : Talk σ}
    (hcarried : req.carriedOut E (standing r) = (outcome, talk)) :
    obey E req r = conclude req outcome (conversed talk r) := by
  have hconverse : Run.converse (fun preset => return (← handle E preset req, preset)) r =
      (outcome, conversed talk r) := by
    have hhandle : handle E r.desk req { engine := r.engine } = (outcome, talk) := hcarried
    have htalk : (do return (← handle E r.desk req, r.desk) : StateM (Talk σ) (Outcome × Desk)).run
        { engine := r.engine } = ((outcome, r.desk), talk) := by
      show (handle E r.desk req >>= fun outcome => pure (outcome, r.desk)) _ = _
      rw [bind_of_eq hhandle]
      rfl
    simp only [Run.converse, htalk]
    rfl
  rw [obey, bind_of_eq hconverse]
  cases outcome <;> rfl

/-- What is left to do once the log got the warning of a reply. -/
def finish (req : Request) (reply : Reply) : Work σ (Except String Flow) :=
  match reply.after with
  | .nothing => respond req.seq req.command (.ok reply.body) .goOn
  | .leave => respond req.seq req.command (.ok reply.body) .leave
  | .announceReady => do
    match ← respond req.seq req.command (.ok reply.body) .goOn with
    | .ok _ => announceReady
    | .error e => return .error e

theorem conclude_ok (req : Request) (reply : Reply) (r : Run σ Desk) :
    conclude req (.ok reply) r =
      finish req reply (reply.warning.elim r fun text => noted .warn text r) := by
  rw [conclude]
  cases reply with
  | mk body after warning => cases warning <;> cases after <;> rfl

section Turns

variable {taken : List Arrival} {called : List Call} {s : Scene} {acts : List Action}
  {r : Run σ Desk}

/-- The work ends with `flow`; since the scene `s` the messages were sent that `messages` makes of
some notes. -/
def Completes (work : Work σ (Except String Flow)) (r : Run σ Desk) (taken : List Arrival)
    (called : List Call) (s : Scene) (flow : Flow) (messages : List Outgoing → List Outgoing) :
    Prop :=
  ∃ acts notes r', work r = (.ok flow, r') ∧ r'.desk = r.desk ∧ r'.engine = r.engine ∧
    (∀ n ∈ notes, n.IsNote) ∧ Delivers taken called s acts r'.scene (messages notes)

/-- A response that nothing follows. -/
theorem completes_respond (hs : Stretch Notes taken called [] s acts r.scene)
    (hmode : s.mode = .dap) (hw : ∀ n, s.writeError n = none) (request : Int) (command : String)
    (result : Except String (Option Json)) (flow : Flow) :
    Completes (respond request command result flow) r taken called s flow fun notes =>
      Answer.messages ⟨notes, request, command, result, false⟩ := by
  obtain ⟨notes, hnotes, hdelivers⟩ := delivers_of_stretch hs hmode hw
  have hsent := hdelivers.sent (.response request command result)
  rw [← Answer.messages_of_not_ready] at hsent
  exact ⟨_, notes, _, respond_eq (hs.grows.writeError ▸ hw) request command result flow, rfl, rfl,
    hnotes, hsent⟩

theorem completes_finish (hs : Stretch Notes taken called [] s acts r.scene)
    (hmode : s.mode = .dap) (hw : ∀ n, s.writeError n = none) (req : Request) (reply : Reply) :
    Completes (finish req reply) r taken called s (flowAfter (.ok reply)) fun notes =>
      Answer.messages ⟨notes, req.seq, req.command, .ok reply.body, readyAfter (.ok reply)⟩ := by
  obtain ⟨body, after, warning⟩ := reply
  cases after with
  | nothing => exact completes_respond hs hmode hw req.seq req.command (.ok body) .goOn
  | leave => exact completes_respond hs hmode hw req.seq req.command (.ok body) .leave
  | announceReady =>
    -- The event is sent right after the response: no report can come between.
    have hwr : ∀ n, r.scene.writeError n = none := hs.grows.writeError ▸ hw
    have hresponse := respond_eq hwr req.seq req.command (.ok body) .goOn
    have hready := announceReady_eq (r := told (.response req.seq req.command (.ok body)) r) hwr
    obtain ⟨notes, hnotes, hdelivers⟩ := delivers_of_stretch hs hmode hw
    have hsent := (hdelivers.sent (.response req.seq req.command (.ok body))).sent
      (.event "initialized" none)
    exact ⟨_, notes, _, (bind_of_eq hresponse).trans hready, rfl, rfl, hnotes, hsent⟩

theorem completes_conclude (hs : Stretch Notes taken called [] s acts r.scene)
    (hmode : s.mode = .dap) (hw : ∀ n, s.writeError n = none) (req : Request) (outcome : Outcome) :
    Completes (conclude req outcome) r taken called s (flowAfter outcome) fun notes =>
      Answer.messages
        ⟨notes, req.seq, req.command, resultOf outcome, readyAfter outcome⟩ := by
  cases outcome with
  | error c => exact completes_respond hs hmode hw req.seq req.command (.error c.message) .goOn
  | ok reply =>
    have hconclude := conclude_ok req reply r
    cases hwarning : reply.warning with
    | none =>
      rw [hwarning] at hconclude
      obtain ⟨acts', notes, r', hfinish, h⟩ := completes_finish hs hmode hw req reply
      exact ⟨acts', notes, r', hconclude.trans hfinish, h⟩
    | some text =>
      rw [hwarning] at hconclude
      obtain ⟨logged, hlogged⟩ := manner_notes.stretch_log
        { level := .warn, target := Scene.frontEndTarget, text } r.scene
      have hnoted := manner_notes.stretch_append hs hlogged
      rw [List.append_nil, List.append_nil] at hnoted
      obtain ⟨acts', notes, r', hfinish, h⟩ :=
        completes_finish (r := noted .warn text r) hnoted hmode hw req reply
      exact ⟨acts', notes, r', hconclude.trans hfinish, h⟩

end Turns

theorem answer_of_refused (E : Engine σ) {m : Incoming} (h : m.request? = none) (r : Run σ Desk) :
    answer E m r =
      respond 0 "" (.error m.fault) .goOn (noted .warn ("dap: " ++ m.fault) r) := by
  cases m with
  | error fault => rfl
  | ok v =>
    cases hv : Request.decode v with
    | ok req =>
      rw [Incoming.request?, hv] at h
      exact nomatch h
    | error mismatch =>
      rw [answer, Incoming.fault, hv]
      rfl

theorem answer_of_request (E : Engine σ) {m : Incoming} {req : Request}
    (h : m.request? = some req) (r : Run σ Desk) :
    answer E m r = obey E req
      (noted .debug ("dap <- " ++ Text.Decimal.renderInt req.seq ++ " " ++ req.command) r) := by
  cases m with
  | error fault => exact nomatch h
  | ok v =>
    cases hv : Request.decode v with
    | error mismatch =>
      rw [Incoming.request?, hv] at h
      exact nomatch h
    | ok req' =>
      rw [Incoming.request?, hv] at h
      obtain rfl := Option.some.inj h
      rw [answer, hv]
      rfl

/-- A run in this mode whose writes all succeed. -/
def Good (r : Run σ Desk) : Prop := r.scene.mode = .dap ∧ ∀ n, r.scene.writeError n = none

theorem Good.grows {r r' : Run σ Desk} {acts : List Action} (h : Good r)
    (hgrows : r.scene.Grows acts r'.scene) : Good r' :=
  ⟨hgrows.mode.trans h.1, hgrows.writeError ▸ h.2⟩

/-- The turn of a message: it always has a response, and the response is the right one. -/
theorem answer_turn (E : Engine σ) (m : Incoming) (taken : List Arrival) {r : Run σ Desk}
    (hr : Good r) :
    ∃ f r' acts a, answer E m (r.shown taken) = (.ok f, r') ∧ Good r' ∧
      r.scene.Grows acts r'.scene ∧ Answers E m (standing r) ⟨taken, acts, a⟩ f (standing r') := by
  obtain ⟨during, htaken⟩ := manner_notes.stretch_takeAll taken r.scene
  have hnoted : ∀ level text, ∃ acts,
      Stretch Notes taken [] [] r.scene acts (noted level text (r.shown taken)).scene := by
    intro level text
    obtain ⟨logged, hlogged⟩ := manner_notes.stretch_log
      { level, target := Scene.frontEndTarget, text } (r.shown taken).scene
    have happend := manner_notes.stretch_append htaken hlogged
    rw [List.append_nil] at happend
    exact ⟨_, happend⟩
  cases hm : m.request? with
  | none =>
    obtain ⟨noting, hs⟩ := hnoted .warn ("dap: " ++ m.fault)
    obtain ⟨acts, notes, r', hrespond, hpreset, hengine, hnotes, hdelivers⟩ :=
      completes_respond hs hr.1 hr.2 0 "" (.error m.fault) .goOn
    exact ⟨.goOn, r', acts, _, (answer_of_refused E hm _).trans hrespond, hr.grows hdelivers.grows,
      hdelivers.grows, answers_of_refused hm hnotes hpreset hengine hdelivers⟩
  | some req =>
    obtain ⟨noting, hs⟩ := hnoted .debug
      ("dap <- " ++ Text.Decimal.renderInt req.seq ++ " " ++ req.command)
    generalize hn : noted .debug _ (r.shown taken) = rn at hs
    have hanswer := answer_of_request E hm (r.shown taken)
    rw [hn] at hanswer
    rcases hcarried : req.carriedOut E (standing r) with ⟨outcome, talk⟩
    have hobey : obey E req rn = conclude req outcome (conversed talk rn) := by
      refine obey_eq E ?_
      rw [← hn]
      exact hcarried
    obtain ⟨exchanged, hexchanged⟩ := manner_notes.stretch_exchanges talk.exchanges rn.scene
    have hdone := manner_notes.stretch_append hs hexchanged
    rw [List.append_nil] at hdone
    obtain ⟨acts, notes, r', hconclude, hpreset, hengine, hnotes, hdelivers⟩ :=
      completes_conclude (r := conversed talk rn) hdone hr.1 hr.2 req outcome
    have hdesk : r'.desk = r.desk := by
      rw [hpreset, ← hn]
      rfl
    exact ⟨flowAfter outcome, r', acts, _, hanswer.trans (hobey.trans hconclude),
      hr.grows hdelivers.grows, hdelivers.grows,
      answers_of_obeyed hm hcarried hnotes hdesk hengine hdelivers⟩

/-- The messages of all turns carry one number after the other. -/
theorem says_turns {E : Engine σ} {ms : List Incoming} {before after : Standing σ}
    {turns : List (Turn Answer)} {f : Flow}
    (h : Conversation (Answers E) ms before turns f after) :
    texts (turns.flatMap Turn.acts) =
        numbered before.seq (turns.flatMap fun t => t.answer.messages) ∧
      after.seq = before.seq + (turns.flatMap fun t => t.answer.messages).length := by
  induction h with
  | done s => exact ⟨rfl, rfl⟩
  | left ht =>
    rw [List.flatMap_singleton, List.flatMap_singleton]
    exact ⟨ht.written, ht.counted⟩
  | goOn ht _ ih =>
    obtain ⟨htexts, hseq⟩ := ih
    rw [ht.counted] at htexts hseq
    rw [List.flatMap_cons, List.flatMap_cons, Action.texts_append, ht.written, htexts,
      ← numbered_append, List.length_append, ← Nat.add_assoc]
    exact ⟨rfl, hseq⟩

/-- The session of a client whose writes all succeed.  The messages to it carry one number after the
other; they are the answers to its messages in order, with one response in each, and notes at the
end.  The loop ends well exactly when the client leaves or the input ends well; once the client has
left, nothing more is taken or sent. -/
theorem loop_responses (E : Engine σ) (input : List Arrival) {r : Run σ Desk}
    (hmode : r.scene.mode = .dap) (hw : ∀ n, r.scene.writeError n = none) :
    ∃ (final : Run σ Desk) (turns : List (Turn Answer)) (f : Flow) (closing : List Action)
      (notes : List Outgoing) (last : Nat),
      loop E input r = (if f = .leave then .ok () else (framing.heard input).2, final) ∧
      Conversation (Answers E) (framing.heard input).1 (standing r) turns f
        ⟨final.desk, final.engine, last⟩ ∧
      final.scene.trace = r.scene.trace ++ turns.flatMap Turn.acts ++ closing ∧
      texts (turns.flatMap Turn.acts ++ closing) =
        numbered r.scene.seq ((turns.flatMap fun t => t.answer.messages) ++ notes) ∧
      final.scene.seq = last + notes.length ∧
      (∀ n ∈ notes, n.IsNote) ∧ calls closing = [] ∧
      (f = .leave → closing = [] ∧ notes = [] ∧
        turns.map Turn.taken <+: (framing.readings input).map Reading.taken) ∧
      (f = .goOn → turns.map Turn.taken ++ [arrivals closing] =
        (framing.readings input).map Reading.taken) := by
  obtain ⟨turns, f, mid, hconversation, hmid, hgrows, hend⟩ :=
    FrontEnd.serve_conversation (F := frontEnd E) rfl Good standing (Answers E)
      (fun m taken _ hr => answer_turn E m taken hr)
      (framing.outcomes_readings input) (r := r) ⟨hmode, hw⟩
  obtain ⟨htexts, hseq⟩ := says_turns hconversation
  rcases hend with ⟨rfl, hserve, htaken⟩ | ⟨rfl, last, hserve, htaken⟩
  · refine ⟨mid, turns, .leave, [], [], mid.scene.seq, hserve, hconversation, ?_, ?_, rfl,
      fun n hn => absurd hn List.not_mem_nil, rfl, fun _ => ⟨rfl, rfl, htaken⟩,
      fun h => Flow.noConfusion h⟩
    · rw [List.append_nil]
      exact hgrows.trace
    · rw [List.append_nil, List.append_nil]
      exact htexts
  · obtain ⟨closing, hclosing⟩ := manner_notes.stretch_takeAll last mid.scene
    obtain ⟨notes, hnotes, hdelivers⟩ := delivers_of_stretch hclosing hmid.1 hmid.2
    refine ⟨mid.shown last, turns, .goOn, closing, notes, mid.scene.seq, hserve, hconversation,
      ?_, ?_, hdelivers.told.seq, hnotes, hdelivers.calls, fun h => Flow.noConfusion h, fun _ => ?_⟩
    · rw [← hgrows.trace]
      exact hclosing.grows.trace
    · have hlast : mid.scene.seq =
          r.scene.seq + (turns.flatMap fun t => t.answer.messages).length := hseq
      rw [Action.texts_append, htexts, hdelivers.told.texts, hlast, numbered_append]
      rfl
    · rw [hdelivers.arrivals]
      exact htaken

theorem length_le_messages (turns : List (Turn Answer)) :
    turns.length ≤ (turns.flatMap fun t => t.answer.messages).length := by
  induction turns with
  | nil => exact Nat.le_refl 0
  | cons t turns ih =>
    have hresponse : 1 ≤ t.answer.messages.length := by
      rw [Answer.messages, List.length_append, List.length_append, List.length_singleton]
      omega
    rw [List.flatMap_cons, List.length_append, List.length_cons]
    omega

/-- An engine that gets ready and can do nothing else. -/
def gettingReady : Engine Unit where
  respond c s :=
    match c with
    | .setUp => (⟨[], .ok ()⟩, s)
    | _ => (⟨[], .error .noProcess⟩, s)

def requestJson (seq : Nat) (command : String) : Json :=
  .object [("seq", .ofNat seq), ("type", .string "request"), ("command", .string command)]

def leavingInput : List Arrival :=
  [.bytes (Text.Utf8.encode (frame (requestJson 7 "initialize"))),
    .bytes (Text.Utf8.encode (frame (requestJson 8 "disconnect") ++ frame .null ++ frame .null))]

def freshRun : Run Unit Desk where
  desk := none
  scene := { mode := .dap, writeError := fun _ => none, switch := { main := .main } }
  engine := ()

/-- A client that starts, leaves, and goes on all the same; the engine does not even let go. -/
theorem loop_responses_disconnect :
    ∃ turns, Conversation (Answers gettingReady) (framing.heard leavingInput).1
        (standing freshRun) turns .leave
        (standing (loop gettingReady leavingInput freshRun).2) ∧
      numbered 0 (turns.flatMap fun t => t.answer.messages) =
        numbered 0 [.response 7 "initialize" (.ok (some capabilities)), .event "initialized" none,
          .response 8 "disconnect" (.ok none)] ∧
      (loop gettingReady leavingInput freshRun).1 = .ok () := by
  have hheard : (framing.heard leavingInput).1.length = 4 := by decide +kernel
  have htexts : texts (loop gettingReady leavingInput freshRun).2.scene.trace =
      numbered 0 [.response 7 "initialize" (.ok (some capabilities)), .event "initialized" none,
        .response 8 "disconnect" (.ok none)] := by decide +kernel
  obtain ⟨final, turns, f, closing, notes, last, hloop, hconversation, htrace, hsaid, hseq, -, -,
    hleave, -⟩ := loop_responses gettingReady leavingInput (r := freshRun) rfl fun _ => rfl
  rw [hloop] at htexts ⊢
  have hacts : final.scene.trace = turns.flatMap Turn.acts ++ closing := htrace
  rw [hacts, hsaid] at htexts
  cases f with
  | leave =>
    obtain ⟨-, rfl, -⟩ := hleave rfl
    obtain rfl : final.scene.seq = last := hseq
    rw [List.append_nil] at htexts
    exact ⟨turns, hconversation, htexts, rfl⟩
  | goOn =>
    have hturns := hconversation.length_eq.trans hheard
    have hle := length_le_messages turns
    have hlength := congrArg List.length htexts
    rw [numbered, numbered, List.length_mapIdx, List.length_mapIdx, List.length_append] at hlength
    simp only [List.length_cons, List.length_nil] at hlength
    omega

end Dap
end DebugSession
