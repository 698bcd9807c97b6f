/-
What the engine has in hand.  All that a call can do about it is listed once, together with the
signals that go with it; what holds in every run follows from this list and from what the steps
beside the engine leave alone.
-/
import DebugSession.Proofs.Supervisor.Attached

namespace DebugSession
namespace Supervisor

variable {ω : Type}

/-! ## The program in hand -/

/-- The program in hand, all that was started for it and for those before it, and the signals so
far. -/
@[ext]
structure Hand where
  debugee : Debugee
  paused : Bool
  launches : List Launch
  monitors : List Monitor
  signals : List Sent

def Hand.send (h : Hand) (pid : UInt32) (signal : Signal) (delivered : Bool) : Hand :=
  { h with signals := h.signals ++ [⟨pid, signal, delivered⟩] }

namespace State

def hand (s : State ω) : Hand where
  debugee := s.debugee
  paused := s.paused
  launches := s.launches
  monitors := s.monitors
  signals := s.signals

section Hands

variable {s : State ω}

@[simp]
theorem hand_debugee (s : State ω) : s.hand.debugee = s.debugee := rfl

theorem hand_sent (S : System ω) (s : State ω) (pid : UInt32) (signal : Signal) :
    (s.sent S pid signal).hand =
      s.hand.send pid signal (S.signal s.system pid signal).1.isOk := by
  have hsignals : (s.sent S pid signal).signals = _ :=
    signals_add { s with system := (S.signal s.system pid signal).2 } _
  exact Hand.ext rfl rfl rfl rfl hsignals

theorem hand_reported (s : State ω) (e : Event) : (s.reported e).hand = s.hand := by
  rw [reported]
  split
  · exact Hand.ext rfl rfl rfl rfl (signals_publish s [e])
  · rfl

theorem paused_givenUp (s : State ω) : s.givenUp.paused = s.paused := by
  rw [givenUp]
  cases s.debugee with
  | attached pid monitor =>
    cases monitor with
    | none => rfl
    | some m =>
      simp only [cancelMonitor]
      cases s.monitors[m]? <;> rfl
  | _ => rfl

theorem signals_givenUp (s : State ω) : s.givenUp.signals = s.signals := by
  rw [signals, (trace_givenUp s).1, signals]

theorem livePid?_eq_some_iff {pid : UInt32} : s.livePid? = some pid ↔
    (∃ monitor, s.debugee = .attached pid monitor) ∨
      ∃ n, s.debugee = .launched pid n ∧ s.hasExited n = false := by
  rw [livePid?]
  cases s.debugee with
  | launched other n =>
    simp only [reduceCtorEq, exists_false, false_or, Debugee.launched.injEq]
    constructor
    · intro h
      split at h
      · cases h
      · next hexited => exact ⟨n, ⟨Option.some.inj h, rfl⟩, Bool.eq_false_iff.2 hexited⟩
    · rintro ⟨m, ⟨rfl, rfl⟩, hexited⟩
      rw [hexited, if_neg Bool.false_ne_true]
  | _ => simp

end Hands

end State

/-! ## Calls -/

/-- All that a call can do about the program. -/
inductive Dealt (s : State ω) : Hand → Prop where
  | nothing : Dealt s s.hand
  | found (pid : UInt32) : s.livePid? = none →
    Dealt s { s.hand with debugee := .attached pid none, paused := false }
  | planned (program : String) (args : List String) : s.livePid? = none →
    Dealt s { s.hand with debugee := .pending program args }
  | started {program : String} {args : List String} (pid : UInt32) :
    s.debugee = .pending program args →
    Dealt s { s.hand with
      debugee := .launched pid s.launches.length
      paused := false
      launches := s.launches ++ [Launch.new pid s.sink s.redirected] }
  | failed {program : String} {args : List String} : s.debugee = .pending program args →
    Dealt s { s.hand with debugee := .none }
  | watched {pid : UInt32} : s.debugee = .attached pid none →
    Dealt s { s.hand with
      debugee := .attached pid (some s.monitors.length)
      monitors := s.monitors ++ [{ pid, sink := s.sink }] }
  | resumed {pid : UInt32} (delivered : Bool) : s.livePid? = some pid →
    Dealt s { s.hand.send pid .cont delivered with paused := s.paused && !delivered }
  | stopped {pid : UInt32} (delivered : Bool) : s.livePid? = some pid →
    Dealt s { s.hand.send pid .stop delivered with paused := s.paused || delivered }
  | dropped : s.livePid? = none → Dealt s { s.hand with debugee := .none }
  | killed {pid : UInt32} (delivered : Bool) : s.livePid? = some pid →
    Dealt s { s.givenUp.hand.send pid .kill delivered with paused := s.paused && !delivered }
  | parted {pid : UInt32} (delivered : Bool) : s.livePid? = some pid → s.paused = true →
    Dealt s { s.givenUp.hand.send pid .cont delivered with paused := !delivered }
  | left {pid : UInt32} : s.livePid? = some pid → s.paused = false → Dealt s s.givenUp.hand

section Calls

variable {s : State ω}

theorem Dealt.of_eq {h h' : Hand} (hdealt : Dealt s h) (heq : h' = h) : Dealt s h' := heq ▸ hdealt

theorem dealt_attach (S : System ω) (pid : UInt32) (s : State ω) :
    Dealt s (attach S pid s).2.hand := by
  rw [attach_eq]
  split
  · exact .nothing
  · split
    · exact .nothing
    · next hlive =>
      cases checkPid S s pid with
      | error e => exact .nothing
      | ok _ => exact .found pid (Option.not_isSome_iff_eq_none.1 hlive)

theorem dealt_configurationDone (S : System ω) (s : State ω) :
    Dealt s (configurationDone S s).2.hand := by
  rw [configurationDone_eq]
  split
  · exact .nothing
  · split
    · next program args hpending =>
      rw [start_eq]
      rcases S.spawn s.system program args with ⟨_ | pid, system⟩
      · exact .failed hpending
      · let t : State ω := { s with debugee := .none, system }
        let t' := (t.reported (.processStarted pid ((fileName? program).getD program))).reported
          (.continued none)
        -- the reports of the start come before the launch and leave the hand as it is
        have hhand : t'.hand = t.hand := (State.hand_reported _ _).trans (State.hand_reported _ _)
        have hmonitors : t'.monitors = s.monitors := congrArg Hand.monitors hhand
        have hsignals : t'.signals = s.signals := congrArg Hand.signals hhand
        have hkeeps : t.Keeps t' := ((State.Keeps.refl t).reported _).reported _
        refine (Dealt.started pid hpending).of_eq ?_
        show (t'.addLaunch pid).hand = _
        rw [State.addLaunch, hkeeps.launches, hkeeps.sink, hkeeps.redirected]
        exact Hand.ext rfl rfl rfl hmonitors hsignals
    · next hattached => exact .watched hattached
    · exact .nothing

theorem dealt_launch (S : System ω) (program : String) (args : List String) (s : State ω) :
    Dealt s (launch S program args s).2.hand := by
  rw [launch_eq]
  split
  · exact .nothing
  · next hlive =>
    cases resolve S { s with ready := true } program with
    | error e => exact .nothing
    | ok program => exact .planned program args (Option.not_isSome_iff_eq_none.1 hlive)

theorem dealt_resume (S : System ω) (s : State ω) : Dealt s (resume S s).2.hand := by
  rw [resume_eq]
  cases hlive : s.livePid? with
  | none => exact .nothing
  | some pid =>
    have hsent := State.hand_sent S s pid .cont
    simp only
    cases hsignal : (S.signal s.system pid .cont).1 with
    | error e =>
      rw [hsignal] at hsent
      refine (Dealt.resumed false hlive).of_eq (hsent.trans ?_)
      rw [Bool.not_false, Bool.and_true]
      rfl
    | ok _ =>
      rw [hsignal] at hsent
      refine (Dealt.resumed true hlive).of_eq ((State.hand_reported _ _).trans ?_)
      rw [Bool.not_true, Bool.and_false]
      exact congrArg (fun h : Hand => { h with paused := false }) hsent

theorem dealt_pause (S : System ω) (s : State ω) : Dealt s (pause S s).2.hand := by
  rw [pause_eq]
  cases hlive : s.livePid? with
  | none => exact .nothing
  | some pid =>
    have hsent := State.hand_sent S s pid .stop
    simp only
    cases hsignal : (S.signal s.system pid .stop).1 with
    | error e =>
      rw [hsignal] at hsent
      refine (Dealt.stopped false hlive).of_eq (hsent.trans ?_)
      rw [Bool.or_false]
      rfl
    | ok _ =>
      rw [hsignal] at hsent
      refine (Dealt.stopped true hlive).of_eq ((State.hand_reported _ _).trans ?_)
      rw [Bool.or_true]
      exact congrArg (fun h : Hand => { h with paused := true }) hsent

theorem dealt_disconnect (S : System ω) (terminate : Bool) (s : State ω) :
    Dealt s (disconnect S terminate s).2.hand := by
  have hpaused := s.paused_givenUp
  rw [disconnect_eq]
  cases hlive : s.livePid? with
  | none => exact .dropped hlive
  | some pid =>
    simp only [farewell_eq]
    cases terminate with
    | true =>
      have hsent := State.hand_sent S s.givenUp pid .kill
      simp only [if_true]
      cases hsignal : (S.signal s.givenUp.system pid .kill).1 with
      | error e =>
        rw [hsignal] at hsent
        refine (Dealt.killed false hlive).of_eq (hsent.trans ?_)
        rw [Bool.not_false, Bool.and_true, ← hpaused]
        rfl
      | ok _ =>
        rw [hsignal] at hsent
        refine (Dealt.killed true hlive).of_eq ?_
        rw [Bool.not_true, Bool.and_false]
        exact congrArg (fun h : Hand => { h with paused := false }) hsent
    | false =>
      have hsent := State.hand_sent S s.givenUp pid .cont
      rw [hpaused]
      simp only [Bool.false_eq_true, if_false]
      cases hstopped : s.paused with
      | true =>
        simp only [if_true]
        cases hsignal : (S.signal s.givenUp.system pid .cont).1 with
        | error e =>
          rw [hsignal] at hsent
          refine (Dealt.parted false hlive hstopped).of_eq (hsent.trans ?_)
          rw [Bool.not_false, ← hstopped, ← hpaused]
          rfl
        | ok _ =>
          rw [hsignal] at hsent
          refine (Dealt.parted true hlive hstopped).of_eq ?_
          exact congrArg (fun h : Hand => { h with paused := false }) hsent
      | false =>
        refine (Dealt.left hlive hstopped).of_eq ?_
        rw [State.hand, State.hand, hpaused, hstopped]
        rfl

theorem dealt_perform (S : System ω) (c : Call) (s : State ω) :
    Dealt s (perform S c s).2.hand := by
  cases c with
  | attach pid => exact dealt_attach S pid s
  | configurationDone => exact dealt_configurationDone S s
  | launch program args => exact dealt_launch S program args s
  | resume => exact dealt_resume S s
  | pause => exact dealt_pause S s
  | disconnect terminate => exact dealt_disconnect S terminate s
  | setUp | setBreakpoints | threads | step => exact .nothing

end Calls

/-! ## Notices -/

/-- All that letting go can do about the program. -/
inductive Released (s : State ω) : Hand → Prop where
  | killed {pid : UInt32} {n : Nat} (delivered : Bool) :
    s.debugee = .launched pid n → s.hasExited n = false →
    Released s (s.givenUp.hand.send pid .kill delivered)
  | left : (∀ pid n, s.debugee = .launched pid n → s.hasExited n = true) →
    Released s s.givenUp.hand

theorem released_release (S : System ω) (s : State ω) : Released s (release S s).2.hand := by
  rw [release_eq]
  cases hdebugee : s.debugee with
  | launched pid n =>
    have hsent := State.hand_sent S s.givenUp pid .kill
    simp only
    cases hexited : s.hasExited n with
    | true =>
      refine .left fun pid' n' heq => ?_
      rw [hdebugee] at heq
      obtain ⟨-, rfl⟩ := Debugee.launched.inj heq
      exact hexited
    | false =>
      have hkilled := Released.killed (S.signal s.givenUp.system pid .kill).1.isOk hdebugee hexited
      exact hsent ▸ hkilled
  | _ =>
    refine .left fun pid n heq => ?_
    rw [hdebugee] at heq
    exact nomatch heq

end Supervisor
end DebugSession
