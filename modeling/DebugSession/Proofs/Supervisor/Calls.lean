/-
The calls of the process engine as equations: what each comes to in a state, and what it leaves as
it was.
-/
import DebugSession.Proofs.Scene
import DebugSession.Supervisor.Engine

namespace DebugSession
namespace Supervisor

variable {ω : Type}

/-! ## Calls one by one -/

theorem get_eq (s : State ω) : (get : StateM (State ω) (State ω)) s = (s, s) := rfl

/-- The state after a signal. -/
def State.sent (S : System ω) (s : State ω) (pid : UInt32) (signal : Signal) : State ω :=
  { s with system := (S.signal s.system pid signal).2 }.add
    [.signalled pid signal (S.signal s.system pid signal).1.isOk]

theorem send_eq (S : System ω) (pid : UInt32) (signal : Signal) (s : State ω) :
    send S pid signal s =
      ((S.signal s.system pid signal).1.mapError (.signal "kill"), s.sent S pid signal) := rfl

/-- The state after a report. -/
def State.reported (s : State ω) (e : Event) : State ω := if s.sink then s.add [.emitted e] else s

theorem attach_eq (S : System ω) (pid : UInt32) (s : State ω) :
    attach S pid s =
      if !s.ready then (.error .notInitialized, s)
      else if s.livePid?.isSome then (.error .alreadyRunning, s)
      else
        match checkPid S s pid with
        | .error e => (.error e, s)
        | .ok _ => (.ok (), { s with paused := false, debugee := .attached pid none }) := by
  simp only [attach, bind, StateT.bind, get, getThe, MonadStateOf.get, StateT.get, pure]
  split
  · rfl
  · split
    · rfl
    · cases checkPid S s pid <;> rfl

theorem start_eq (S : System ω) (program : String) (args : List String) (s : State ω) :
    start S program args s =
      match S.spawn s.system program args with
      | (.error e, system) => (.error (spawnError program e), { s with system })
      | (.ok pid, system) => (.ok (),
          ((({ s with system }.reported (.processStarted pid ((fileName? program).getD program))
            ).reported (.continued none)).addLaunch pid)) := by
  simp only [start, bind, StateT.bind, get, getThe, MonadStateOf.get, StateT.get, pure]
  rcases S.spawn s.system program args with ⟨_ | pid, system⟩ <;> rfl

theorem configurationDone_eq (S : System ω) (s : State ω) :
    configurationDone S s =
      if !s.ready then (.error .notInitialized, s)
      else
        match s.debugee with
        | .pending program args => start S program args { s with debugee := .none }
        | .attached pid none => (.ok (), s.addMonitor pid)
        | _ => (.ok (), s) := by
  simp only [configurationDone, bind, StateT.bind, get, getThe, MonadStateOf.get, StateT.get, pure]
  split
  · rfl
  · cases s.debugee with
    | attached pid monitor => cases monitor <;> rfl
    | _ => rfl

theorem launch_eq (S : System ω) (program : String) (args : List String) (s : State ω) :
    launch S program args s =
      if s.livePid?.isSome then (.error .alreadyRunning, { s with ready := true })
      else
        match resolve S { s with ready := true } program with
        | .error e => (.error e, { s with ready := true })
        | .ok program => (.ok (), { s with ready := true, debugee := .pending program args }) := by
  have hready : setReady s = ((), { s with ready := true }) := rfl
  have hlive : { s with ready := true }.livePid? = s.livePid? := rfl
  simp only [launch, hready, bind, StateT.bind, get, getThe, MonadStateOf.get, StateT.get, pure,
    hlive]
  split
  · rfl
  · cases resolve S { s with ready := true } program <;> rfl

theorem resume_eq (S : System ω) (s : State ω) :
    resume S s =
      match s.livePid? with
      | none => (.error .noProcess, s)
      | some pid =>
        match (S.signal s.system pid .cont).1 with
        | .error e => (.error (.signal "kill" e), s.sent S pid .cont)
        | .ok _ =>
          (.ok (), { s.sent S pid .cont with paused := false }.reported (.continued none)) := by
  rw [resume, bind_of_eq (get_eq s)]
  cases s.livePid? with
  | none => rfl
  | some pid =>
    simp only [bind_of_eq (send_eq S pid .cont s)]
    cases (S.signal s.system pid .cont).1 <;> rfl

theorem pause_eq (S : System ω) (s : State ω) :
    pause S s =
      match s.livePid? with
      | none => (.error .noProcess, s)
      | some pid =>
        match (S.signal s.system pid .stop).1 with
        | .error e => (.error (.signal "kill" e), s.sent S pid .stop)
        | .ok _ => (.ok (),
            { s.sent S pid .stop with paused := true }.reported (.stopped .pause (some pid))) := by
  rw [pause, bind_of_eq (get_eq s)]
  cases s.livePid? with
  | none => rfl
  | some pid =>
    simp only [bind_of_eq (send_eq S pid .stop s)]
    cases (S.signal s.system pid .stop).1 <;> rfl

/-- The state without the program, whose monitor is cancelled. -/
def State.givenUp (s : State ω) : State ω :=
  let s := match s.debugee with
    | .attached _ (some monitor) => s.cancelMonitor monitor
    | _ => s
  { s with debugee := .none }

theorem giveUp_eq (s : State ω) : giveUp s = ((), s.givenUp) := rfl

theorem farewell_eq (S : System ω) (pid : UInt32) (terminate : Bool) (s : State ω) :
    farewell S pid terminate s =
      if terminate then
        ((S.signal s.system pid .kill).1.mapError (.signal "kill"), s.sent S pid .kill)
      else if s.paused then
        ((S.signal s.system pid .cont).1.mapError (.signal "kill"), s.sent S pid .cont)
      else (.ok (), s) := by
  rw [farewell]
  cases terminate with
  | true => rfl
  | false =>
    rw [if_neg Bool.false_ne_true, if_neg Bool.false_ne_true, bind_of_eq (get_eq s)]
    cases s.paused <;> rfl

theorem disconnect_eq (S : System ω) (terminate : Bool) (s : State ω) :
    disconnect S terminate s =
      match s.livePid? with
      | none => (.ok (), { s with debugee := .none })
      | some pid =>
        match farewell S pid terminate s.givenUp with
        | (.error e, s') => (.error e, s')
        | (.ok _, s') => (.ok (), { s' with paused := false }) := by
  rw [disconnect, bind_of_eq (get_eq s)]
  cases s.livePid? with
  | none => rfl
  | some pid =>
    simp only [bind_of_eq (giveUp_eq s)]
    rcases hfarewell : farewell S pid terminate s.givenUp with ⟨_ | _, s'⟩ <;>
      rw [bind_of_eq hfarewell] <;> rfl

theorem release_eq (S : System ω) (s : State ω) :
    release S s = ((), { (match s.debugee with
      | .launched pid launch =>
        if !s.hasExited launch then s.givenUp.sent S pid .kill else s.givenUp
      | _ => s.givenUp) with redirected := false, sink := false }) := by
  rw [release, bind_of_eq (get_eq s), bind_of_eq (giveUp_eq s)]
  cases s.debugee with
  | launched pid launch => cases h : s.hasExited launch <;> simp only [h] <;> rfl
  | _ => rfl


/-! ## What calls leave alone -/

/-- All is as it was but the system, the breakpoints, what was done, and whether the engine is ready
and the program paused. -/
structure State.Keeps (s s' : State ω) : Prop where
  sink : s'.sink = s.sink
  redirected : s'.redirected = s.redirected
  debugee : s'.debugee = s.debugee
  launches : s'.launches = s.launches
  monitors : s'.monitors = s.monitors
  capture : s'.capture = s.capture

namespace State.Keeps

variable {s s' : State ω}

theorem refl (s : State ω) : s.Keeps s := ⟨rfl, rfl, rfl, rfl, rfl, rfl⟩

theorem reported (h : s.Keeps s') (e : Event) : s.Keeps (s'.reported e) := by
  rw [State.reported]
  split
  · exact ⟨h.sink, h.redirected, h.debugee, h.launches, h.monitors, h.capture⟩
  · exact h

theorem launches_grow (h : s.Keeps s') : s.launches <+: s'.launches :=
  h.launches ▸ List.prefix_rfl

end State.Keeps

theorem keeps_resume (S : System ω) (s : State ω) : s.Keeps (resume S s).2 := by
  rw [resume_eq]
  split
  · exact .refl s
  · next pid _ =>
    split
    · exact ⟨rfl, rfl, rfl, rfl, rfl, rfl⟩
    · have hsent : s.Keeps { s.sent S pid .cont with paused := false } :=
        ⟨rfl, rfl, rfl, rfl, rfl, rfl⟩
      exact hsent.reported _

theorem keeps_pause (S : System ω) (s : State ω) : s.Keeps (pause S s).2 := by
  rw [pause_eq]
  split
  · exact .refl s
  · next pid _ =>
    split
    · exact ⟨rfl, rfl, rfl, rfl, rfl, rfl⟩
    · have hsent : s.Keeps { s.sent S pid .stop with paused := true } :=
        ⟨rfl, rfl, rfl, rfl, rfl, rfl⟩
      exact hsent.reported _

theorem launches_start (S : System ω) (program : String) (args : List String) (s : State ω) :
    s.launches <+: (start S program args s).2.launches := by
  rw [start_eq]
  rcases S.spawn s.system program args with ⟨_ | pid, system⟩
  · exact List.prefix_rfl
  · have hspawned : s.Keeps { s with system } := ⟨rfl, rfl, rfl, rfl, rfl, rfl⟩
    have hreported := (hspawned.reported
      (.processStarted pid ((fileName? program).getD program))).reported (.continued none)
    exact hreported.launches_grow.trans (List.prefix_append _ _)

theorem launches_givenUp (s : State ω) : s.givenUp.launches = s.launches := by
  rw [State.givenUp]
  cases s.debugee with
  | attached pid monitor =>
    cases monitor with
    | none => rfl
    | some m =>
      simp only [State.cancelMonitor]
      cases s.monitors[m]? <;> rfl
  | _ => rfl

theorem launches_farewell (S : System ω) (pid : UInt32) (terminate : Bool) (s : State ω) :
    (farewell S pid terminate s).2.launches = s.launches := by
  rw [farewell_eq]
  split
  · rfl
  · split <;> rfl

theorem launches_disconnect (S : System ω) (terminate : Bool) (s : State ω) :
    (disconnect S terminate s).2.launches = s.launches := by
  rw [disconnect_eq]
  cases s.livePid? with
  | none => rfl
  | some pid =>
    have hleft := launches_farewell S pid terminate s.givenUp
    rw [launches_givenUp] at hleft
    rcases hfarewell : farewell S pid terminate s.givenUp with ⟨_ | _, s'⟩ <;>
      rw [hfarewell] at hleft <;> simp only [hfarewell] <;> exact hleft

theorem launches_release (S : System ω) (s : State ω) :
    (release S s).2.launches = s.launches := by
  rw [release_eq]
  cases s.debugee with
  | launched pid launch =>
    simp only
    split <;> exact launches_givenUp s
  | _ => exact launches_givenUp s

/-- A call starts a program at most. -/
theorem launches_perform (S : System ω) (c : Call) (s : State ω) :
    s.launches <+: (perform S c s).2.launches := by
  cases c with
  | setUp => exact List.prefix_rfl
  | attach pid =>
    show _ <+: (attach S pid s).2.launches
    rw [attach_eq]
    split
    · exact List.prefix_rfl
    · split
      · exact List.prefix_rfl
      · cases checkPid S s pid <;> exact List.prefix_rfl
  | configurationDone =>
    show _ <+: (configurationDone S s).2.launches
    rw [configurationDone_eq]
    split
    · exact List.prefix_rfl
    · split
      · next program args _ => exact launches_start S program args { s with debugee := .none }
      · exact List.prefix_rfl
      · exact List.prefix_rfl
  | launch program args =>
    show _ <+: (launch S program args s).2.launches
    rw [launch_eq]
    split
    · exact List.prefix_rfl
    · cases resolve S { s with ready := true } program <;> exact List.prefix_rfl
  | setBreakpoints file lines => exact List.prefix_rfl
  | threads => exact List.prefix_rfl
  | resume => exact (keeps_resume S s).launches_grow
  | pause => exact (keeps_pause S s).launches_grow
  | step kind => exact List.prefix_rfl
  | disconnect terminate => exact launches_disconnect S terminate s ▸ List.prefix_rfl

theorem launches_heed (S : System ω) (n : Notice) (s : State ω) :
    (heed S n s).2.launches = s.launches := by
  cases n with
  | bindSink => rfl
  | redirectOutput => rfl
  | release => exact launches_release S s

end Supervisor
end DebugSession
