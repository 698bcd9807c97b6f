/-
Which program a client of the Debug Adapter Protocol has started: that of the configuration if there
is one, or else that of the request.
-/
import DebugSession.Proofs.Dap.Conversation
import DebugSession.Proofs.FrontEnd.Launch

namespace DebugSession
namespace Dap

variable {σ : Type}

/-! ## What requests ask for -/

/-- The program that a launch request asks to start.  Its arguments have to be readable even if they
do not count. -/
def Request.target (preset : Option LaunchTarget) (req : Request) : Except String LaunchTarget :=
  match argumentsOr {} LaunchArguments.decode req.arguments with
  | .error m => .error (Complaint.badArguments m).message
  | .ok args =>
    match preset, args.program with
    | some t, _ => .ok t
    | none, some program => .ok { program, args := args.args }
    | none, none => .error Complaint.noProgram.message

/-- Requests start programs with `launch`.  No request matters to a later one, and the program waits
for the client to end the configuration. -/
def starter (preset : Option LaunchTarget) : Starter Incoming where
  wish _ m :=
    match m.request? with
    | some req => if req.command = "launch" then some (req.target preset) else none
    | none => none
  later := []
  refusal m reason said := ∃ req seq, m.request? = some req ∧
    said = [frame (responseJson seq req.seq req.command (.error reason))]
  leaves m := m.Leaves

/-! ## What requests do -/

section Handle

variable {E : Engine σ} {preset : Option LaunchTarget}

theorem startless_drive {calls : List Call} (h : ∀ c ∈ calls, c.target? = none) (reply : Reply) :
    Startless E (fun _ => True) (drive E calls reply) := by
  refine (Startless.tellAll h).bind fun told _ => ?_
  cases told <;> exact .pure trivial

theorem startless_setBreakpoints (v : Json) :
    Startless E (fun _ => True) (setBreakpoints E v) := by
  unfold setBreakpoints
  cases breakpointLines v with
  | error c => exact .pure trivial
  | ok request =>
    refine (Startless.ask rfl).bind fun answer _ => ?_
    cases answer <;> exact .pure trivial

theorem startless_listThreads : Startless E (fun _ => True) (listThreads E) := by
  refine (Startless.ask rfl).bind fun answer _ => ?_
  cases answer <;> exact .pure trivial

theorem startless_disconnect (v : Json) : Startless E (fun _ => True) (disconnect E v) := by
  unfold disconnect
  cases arguments {} DisconnectArguments.decode v with
  | error c => exact .pure trivial
  | ok args =>
    refine (Startless.tell rfl).bind fun told _ => ?_
    cases told <;> exact .pure trivial

theorem startless_attach (v : Json) :
    Startless E (fun _ => True) (driveWith E (attachCalls v)) := by
  unfold attachCalls
  cases arguments {} AttachArguments.decode v with
  | error m => exact .pure trivial
  | ok args =>
    cases hpid : args.pid? with
    | none =>
      simp only [bind, Except.bind, hpid]
      exact .pure trivial
    | some pid =>
      simp only [bind, Except.bind, hpid]
      exact startless_drive (by simp [Call.target?]) _

/-- A request for anything else starts no program. -/
theorem startless_perform {c : Command} (h : c ≠ .launch) (v : Json) :
    Startless E (fun _ => True) (perform E preset v c) := by
  cases c with
  | launch => exact absurd rfl h
  | attach => exact startless_attach v
  | setBreakpoints => exact startless_setBreakpoints v
  | threads => exact startless_listThreads
  | disconnect => exact startless_disconnect v
  | setUp | configurationDone | resume | next | stepIn | stepOut | pause | terminate =>
    exact startless_drive (by simp [Call.target?]) _

theorem startless_handle (preset : Option LaunchTarget) {req : Request}
    (h : req.command ≠ "launch") :
    Startless E (fun _ => True) (handle E preset req) := by
  unfold handle
  cases hc : Command.ofName? req.command with
  | none => exact .pure trivial
  | some c =>
    refine startless_perform ?_ _
    rintro rfl
    exact h (Command.name_of_ofName? hc).symm

theorem launchCalls_mapError (preset : Option LaunchTarget) (req : Request) :
    (launchCalls preset req.arguments).mapError Complaint.message =
      (req.target preset).map fun t => [.launch t.program t.args] := by
  unfold launchCalls Request.target arguments
  cases argumentsOr {} LaunchArguments.decode req.arguments with
  | error m => rfl
  | ok args =>
    obtain ⟨program, args⟩ := args
    cases preset <;> cases program <;> rfl

theorem adds_drive (calls : List Call) (reply : Reply) (t : Talk σ) :
    t.Adds E (E.reached calls t.engine) (drive E calls reply t).2 := by
  have hadds := Talk.Adds.tellAll E calls t
  rw [drive_eq]
  generalize E.tellAll calls t = told at hadds
  obtain ⟨_ | _, t'⟩ := told <;> exact hadds

theorem handle_launch {req : Request} (h : req.command = "launch") :
    handle E preset req = driveWith E (launchCalls preset req.arguments) := by
  rw [handle, h, show Command.ofName? "launch" = some .launch from Command.ofName?_name .launch]
  rfl

theorem handle_of_target {req : Request} (h : req.command = "launch") {target : LaunchTarget}
    (htarget : req.target preset = .ok target) (t : Talk σ) :
    t.Adds E (E.starting target [] t.engine) (handle E preset req t).2 := by
  have hcalls := launchCalls_mapError preset req
  rw [htarget] at hcalls
  rw [handle_launch h]
  cases hlaunch : launchCalls preset req.arguments with
  | error c =>
    rw [hlaunch] at hcalls
    exact nomatch hcalls
  | ok calls =>
    rw [hlaunch] at hcalls
    obtain rfl := Except.ok.inj hcalls
    have hadds := adds_drive (E := E) [.launch target.program target.args] {} t
    rw [Engine.reached_singleton] at hadds
    rw [Engine.starting, ite_self]
    exact hadds

theorem handle_of_no_target {req : Request} (h : req.command = "launch") {reason : String}
    (htarget : req.target preset = .error reason) (t : Talk σ) :
    ∃ c, c.message = reason ∧ handle E preset req t = (.error c, t) := by
  have hcalls := launchCalls_mapError preset req
  rw [htarget] at hcalls
  rw [handle_launch h]
  cases hlaunch : launchCalls preset req.arguments with
  | error c =>
    rw [hlaunch] at hcalls
    exact ⟨c, Except.error.inj hcalls, rfl⟩
  | ok calls =>
    rw [hlaunch] at hcalls
    exact nomatch hcalls

end Handle

/-! ## Turns -/

section Turns

variable {E : Engine σ} {r : Run σ Desk}

theorem does_respond (request : Int) (command : String) (result : Except String (Option Json))
    (flow : Flow) (r : Run σ Desk) :
    Does (respond request command result flow) r []
      [frame (responseJson (r.scene.seq + 1) request command result)] flow (r.desk, r.engine) :=
  .wrote (Scene.gives_writeNumbered (fun seq => frame (responseJson seq request command result))
    r.scene) flow

theorem does_announceReady (r : Run σ Desk) :
    Does announceReady r [] [frame (eventJson (r.scene.seq + 1) "initialized" none)] .goOn
      (r.desk, r.engine) :=
  .wrote (Scene.gives_writeNumbered (fun seq => frame (eventJson seq "initialized" none)) r.scene)
    .goOn

theorem does_finish (req : Request) (reply : Reply) (r : Run σ Desk) :
    ∃ said, Does (finish req reply) r [] said (flowAfter (.ok reply)) (r.desk, r.engine) := by
  obtain ⟨body, after, warning⟩ := reply
  cases after with
  | nothing => exact ⟨_, does_respond _ _ _ .goOn r⟩
  | leave => exact ⟨_, does_respond _ _ _ .leave r⟩
  | announceReady =>
    exact (does_respond _ _ _ .goOn r).andThen (fun _ r' => ⟨_, does_announceReady r'⟩)
      fun _ => rfl

theorem does_conclude (req : Request) (outcome : Outcome) (r : Run σ Desk) :
    ∃ said, Does (conclude req outcome) r [] said (flowAfter outcome) (r.desk, r.engine) ∧
      ∀ c, outcome = .error c →
        ∃ seq, said = [frame (responseJson seq req.seq req.command (.error c.message))] := by
  cases outcome with
  | error c =>
    refine ⟨_, does_respond _ _ _ .goOn r, fun c' hc' => ?_⟩
    obtain rfl := Except.error.inj hc'
    exact ⟨_, rfl⟩
  | ok reply =>
    obtain ⟨body, after, warning⟩ := reply
    cases warning with
    | none =>
      obtain ⟨said, hdoes⟩ := does_finish req ⟨body, after, none⟩ r
      exact ⟨said, hdoes, nofun⟩
    | some text =>
      obtain ⟨said, hdoes⟩ := does_finish req ⟨body, after, some text⟩ (noted .warn text r)
      exact ⟨said, .logged hdoes, nofun⟩

theorem does_answer_of_none {m : Incoming} (hm : m.request? = none) (r : Run σ Desk) :
    ∃ said, Does (answer E m) r [] said .goOn (r.desk, r.engine) := by
  have hanswer : answer E m =
      (do warn ("dap: " ++ m.fault); respond 0 "" (.error m.fault) .goOn) :=
    funext fun r => answer_of_refused E hm r
  rw [hanswer]
  exact ⟨_, .logged (does_respond _ _ _ .goOn _)⟩

theorem does_answer_of_some {m : Incoming} {req : Request} (hm : m.request? = some req)
    {outcome : Outcome} {talk : Talk σ}
    (hhandle : handle E r.desk req { engine := r.engine } = (outcome, talk)) :
    ∃ said, Does (answer E m) r (talk.exchanges.map Exchange.call) said (flowAfter outcome)
        (r.desk, talk.engine) ∧
      ∀ c, outcome = .error c →
        ∃ seq, said = [frame (responseJson seq req.seq req.command (.error c.message))] := by
  have hanswer : answer E m = (do
      Run.onScene (Scene.logFrontEnd .debug
        ("dap <- " ++ Text.Decimal.renderInt req.seq ++ " " ++ req.command))
      obey E req) := funext fun r => answer_of_request E hm r
  have hobey : obey E req = Run.converse (fun preset => return (← handle E preset req, preset)) >>=
      conclude req := by
    unfold obey
    refine congrArg _ (funext fun outcome => ?_)
    cases outcome <;> rfl
  have htalk : (do return (← handle E r.desk req, r.desk) : StateM (Talk σ) (Outcome × Desk)).run
      { engine := r.engine } = ((outcome, r.desk), talk) := bind_of_eq hhandle
  obtain ⟨said, hdoes, hsaid⟩ := does_conclude req outcome (Run.conversed
    { r with scene := (Scene.logFrontEnd .debug
      ("dap <- " ++ Text.Decimal.renderInt req.seq ++ " " ++ req.command) r.scene).2 } r.desk talk)
  rw [hanswer, hobey]
  exact ⟨said, .logged (.conversed htalk hdoes), hsaid⟩

end Turns

variable {E : Engine σ} {preset : Option LaunchTarget}

/-- What a request does, once the client has the response to it. -/
theorem heeds_handle (preset : Option LaunchTarget) (past : List Incoming) {m : Incoming} {req : Request}
    (hm : m.request? = some req) (engine : σ) :
    ∃ called, Talk.Adds E { engine } called (handle E preset req { engine }).2 ∧
      ∀ said, (∀ c, (handle E preset req { engine }).1 = .error c →
          ∃ seq, said = [frame (responseJson seq req.seq req.command (.error c.message))]) →
        (starter preset).Heeds E past m engine called said := by
  have hwish : (starter preset).wish past m =
      if req.command = "launch" then some (req.target preset) else none := by
    simp only [starter, hm]
  by_cases hlaunch : req.command = "launch"
  · rw [if_pos hlaunch] at hwish
    cases htarget : req.target preset with
    | error reason =>
      rw [htarget] at hwish
      obtain ⟨c, rfl, hfails⟩ := handle_of_no_target (E := E) hlaunch htarget { engine }
      rw [hfails]
      refine ⟨[], .refl E _, fun said hsaid => ?_⟩
      obtain ⟨seq, hresponse⟩ := hsaid c rfl
      exact Starter.heeds_of_error hwish ⟨req, seq, hm, hresponse⟩
    | ok target =>
      rw [htarget] at hwish
      exact ⟨_, handle_of_target hlaunch htarget { engine }, fun _ _ => Starter.heeds_of_ok hwish⟩
  · rw [if_neg hlaunch] at hwish
    obtain ⟨called, hadds, hcalled, -⟩ :=
      startless_handle (E := E) preset hlaunch { engine }
    exact ⟨called, hadds, fun _ _ => Starter.heeds_of_none hwish hcalled⟩

/-- The answer to a message does what the message asks for. -/
theorem answer_heeds (past : List Incoming) (m : Incoming) {r : Run σ Desk}
    (hr : r.desk = preset) :
    ∃ called said flow desk,
      Does (answer E m) r called said flow (desk, E.after called r.engine) ∧ desk = preset ∧
        (starter preset).Heeds E past m r.engine called said ∧
        (flow = .leave → (starter preset).leaves m) := by
  subst hr
  cases hm : m.request? with
  | none =>
    obtain ⟨said, hdoes⟩ := does_answer_of_none (E := E) hm r
    have hwish : (starter r.desk).wish past m = none := by
      simp only [starter, hm]
    exact ⟨[], said, .goOn, r.desk, hdoes, rfl,
      Starter.heeds_of_none hwish fun _ hc => absurd hc List.not_mem_nil,
      fun hflow => Flow.noConfusion hflow⟩
  | some req =>
    obtain ⟨called, hadds, hheeds⟩ :=
      heeds_handle (E := E) r.desk past hm r.engine
    rcases hhandle : handle E r.desk req { engine := r.engine } with ⟨outcome, talk⟩
    rw [hhandle] at hadds hheeds
    obtain ⟨said, hdoes, hsaid⟩ := does_answer_of_some hm hhandle
    rw [hadds.calls_eq, hadds.engine] at hdoes
    refine ⟨called, said, _, r.desk, hdoes, rfl, hheeds said hsaid, fun hflow => ?_⟩
    obtain ⟨reply, rfl, hafter⟩ := flowAfter_eq_leave_iff.1 hflow
    obtain ⟨hcommand, args, hargs⟩ := leave_iff.1 ⟨reply, congrArg Prod.fst hhandle, hafter⟩
    exact ⟨req, args, hm, hcommand, hargs⟩

theorem loop_governed (E : Engine σ) (input : List Arrival) {r : Run σ Desk}
    (hr : r.desk = preset) :
    (starter preset).Governs E framing input r.engine r.scene.trace
      (loop E input r).2.scene.trace := by
  have hgreets : (frontEnd E).Greets [] := Scene.gives_nothing
  obtain ⟨turns, closing, hgrows, hturns⟩ :=
    FrontEnd.serve_starts (fun _ desk => desk = preset) hgreets
      (fun past m r hr => answer_heeds past m hr) (framing.outcomes_readings input) hr
  exact hturns.governs hgrows

end Dap
end DebugSession
