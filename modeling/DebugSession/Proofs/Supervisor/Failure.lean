/-
Calls that fail.  Most leave the program, its monitor and the pause as they were, so that the same
call can be made again.  Two have given the program up by the time the system refuses, the start of
a program that waits and the farewell to one that runs; made again they succeed and do nothing
(`state_after_failure`).
-/
import DebugSession.Proofs.Supervisor.Hand

namespace DebugSession
namespace Supervisor

variable {ω : Type} {S : System ω} {s s' : State ω} {e : EngineError}

/-- Whether a call gives the program up before it asks the system. -/
def State.surrenders (s : State ω) : Call → Bool
  | .configurationDone =>
    match s.debugee with
    | .pending _ _ => s.ready
    | _ => false
  | .disconnect _ => s.livePid?.isSome
  | _ => false

/-! ## The state -/

/-- All is as it was but the system, what was done, and whether the engine is ready. -/
def State.Same (s s' : State ω) : Prop :=
  s' = { s with system := s'.system, ready := s'.ready, trace := s'.trace }

theorem attach_failed {pid : UInt32} (h : attach S pid s = (.error e, s')) : s' = s := by
  rw [attach_eq] at h
  split at h
  · exact (congrArg Prod.snd h).symm
  · split at h
    · exact (congrArg Prod.snd h).symm
    · split at h
      · exact (congrArg Prod.snd h).symm
      · cases congrArg Prod.fst h

theorem launch_failed {program : String} {args : List String}
    (h : launch S program args s = (.error e, s')) : s' = { s with ready := true } := by
  rw [launch_eq] at h
  split at h
  · exact (congrArg Prod.snd h).symm
  · split at h
    · exact (congrArg Prod.snd h).symm
    · cases congrArg Prod.fst h

theorem resume_failed (h : resume S s = (.error e, s')) : s.Same s' := by
  rw [resume_eq] at h
  split at h
  · obtain rfl := congrArg Prod.snd h
    exact rfl
  · next pid _ =>
    split at h
    · obtain rfl := congrArg Prod.snd h
      exact rfl
    · cases congrArg Prod.fst h

theorem pause_failed (h : pause S s = (.error e, s')) : s.Same s' := by
  rw [pause_eq] at h
  split at h
  · obtain rfl := congrArg Prod.snd h
    exact rfl
  · next pid _ =>
    split at h
    · obtain rfl := congrArg Prod.snd h
      exact rfl
    · cases congrArg Prod.fst h

/-- Only the start of a program that waits fails once the engine is ready. -/
theorem configurationDone_failed (h : configurationDone S s = (.error e, s')) :
    s.ready = false ∧ s' = s ∨
      s.ready = true ∧ (∃ program args, s.debugee = .pending program args) ∧
        s' = { s with debugee := .none, system := s'.system } := by
  rw [configurationDone_eq] at h
  split at h
  · next hready =>
    exact .inl ⟨by simpa using hready, (congrArg Prod.snd h).symm⟩
  · next hready =>
    right
    refine ⟨by simpa using hready, ?_⟩
    split at h
    · next program args hpending =>
      refine ⟨⟨program, args, hpending⟩, ?_⟩
      rw [start_eq] at h
      split at h
      · obtain rfl := congrArg Prod.snd h
        rfl
      · cases congrArg Prod.fst h
    · cases congrArg Prod.fst h
    · cases congrArg Prod.fst h

theorem disconnect_failed {terminate : Bool} (h : disconnect S terminate s = (.error e, s')) :
    s.livePid? ≠ none ∧ s' = { s.givenUp with system := s'.system, trace := s'.trace } := by
  rw [disconnect_eq] at h
  cases hlive : s.livePid? with
  | none =>
    rw [hlive] at h
    cases congrArg Prod.fst h
  | some pid =>
    refine ⟨Option.some_ne_none pid, ?_⟩
    have hfarewell : s' = (farewell S pid terminate s.givenUp).2 := by
      rw [hlive] at h
      simp only at h
      split at h
      · next hfarewell => rw [hfarewell, congrArg Prod.snd h]
      · cases congrArg Prod.fst h
    rw [farewell_eq] at hfarewell
    rw [hfarewell]
    split
    · rfl
    · split <;> rfl

/-- All that a call that fails can do. -/
theorem perform_failed {c : Call} (h : perform S c s = (.error e, s')) :
    s.surrenders c = false ∧ s.Same s' ∨
      s.surrenders c = true ∧ s.debugee ≠ .none ∧
        s' = { s.givenUp with system := s'.system, trace := s'.trace } := by
  cases c with
  | attach pid =>
    obtain rfl := attach_failed h
    exact .inl ⟨rfl, rfl⟩
  | launch program args =>
    obtain rfl := launch_failed h
    exact .inl ⟨rfl, rfl⟩
  | resume => exact .inl ⟨rfl, resume_failed h⟩
  | pause => exact .inl ⟨rfl, pause_failed h⟩
  | step kind =>
    obtain rfl := congrArg Prod.snd h
    exact .inl ⟨rfl, rfl⟩
  | configurationDone =>
    rcases configurationDone_failed h with ⟨hready, rfl⟩ | ⟨hready, ⟨program, args, hpending⟩, hs'⟩
    · left
      refine ⟨?_, rfl⟩
      rw [State.surrenders, hready]
      cases s'.debugee <;> rfl
    · right
      rw [State.surrenders, State.givenUp, hpending]
      refine ⟨hready, by simp, ?_⟩
      rw [hs']
  | disconnect terminate =>
    obtain ⟨hlive, hs'⟩ := disconnect_failed h
    refine .inr ⟨Option.isSome_iff_ne_none.2 hlive, ?_, hs'⟩
    intro hnone
    exact hlive (by rw [State.livePid?, hnone])
  | setUp | setBreakpoints | threads => cases congrArg Prod.fst h

/-! ## The same call again -/

theorem launch_outcome (S : System ω) (program : String) (args : List String) (s : State ω) :
    (launch S program args s).1 =
      if s.livePid?.isSome then .error .alreadyRunning
      else (resolve S s program).map fun _ => () := by
  rw [launch_eq]
  split
  · rfl
  · show _ = (resolve S { s with ready := true } program).map fun _ => ()
    cases resolve S { s with ready := true } program <;> rfl

theorem resume_outcome (S : System ω) (s : State ω) :
    (resume S s).1 =
      match s.livePid? with
      | none => .error .noProcess
      | some pid => (S.signal s.system pid .cont).1.mapError (.signal "kill") := by
  rw [resume_eq]
  cases s.livePid? with
  | none => rfl
  | some pid =>
    simp only
    cases (S.signal s.system pid .cont).1 <;> rfl

theorem pause_outcome (S : System ω) (s : State ω) :
    (pause S s).1 =
      match s.livePid? with
      | none => .error .noProcess
      | some pid => (S.signal s.system pid .stop).1.mapError (.signal "kill") := by
  rw [pause_eq]
  cases s.livePid? with
  | none => rfl
  | some pid =>
    simp only
    cases (S.signal s.system pid .stop).1 <;> rfl

/-- A call that gave nothing up comes to what it would have come to later. -/
theorem retry_of_same {c : Call} (h : perform S c s = (.error e, s'))
    (hs : s.surrenders c = false) (w : ω) :
    (perform S c { s' with system := w }).1 = (perform S c { s with system := w }).1 := by
  cases c with
  | attach pid =>
    obtain rfl := attach_failed h
    rfl
  | launch program args =>
    obtain rfl := launch_failed h
    show (launch S program args _).1 = (launch S program args _).1
    rw [launch_outcome, launch_outcome]
    rfl
  | resume =>
    have hsame : s.Same s' := resume_failed h
    show (resume S _).1 = (resume S _).1
    rw [resume_outcome, resume_outcome, hsame]
    rfl
  | pause =>
    have hsame : s.Same s' := pause_failed h
    show (pause S _).1 = (pause S _).1
    rw [pause_outcome, pause_outcome, hsame]
    rfl
  | step kind => rfl
  | configurationDone =>
    rcases configurationDone_failed h with ⟨-, rfl⟩ | ⟨hready, ⟨program, args, hpending⟩, -⟩
    · rfl
    · rw [State.surrenders, hpending, hready] at hs
      cases hs
  | disconnect terminate =>
    obtain ⟨hlive, -⟩ := disconnect_failed h
    exact absurd (Option.isNone_iff_eq_none.1 (by simpa [State.surrenders] using hs)) hlive
  | setUp | setBreakpoints | threads => cases congrArg Prod.fst h

theorem debugee_givenUp (s : State ω) : s.givenUp.debugee = .none := rfl

/-- A call that gave the program up finds none. -/
theorem retry_of_surrenders {c : Call} (h : perform S c s = (.error e, s'))
    (hs : s.surrenders c = true) (w : ω) :
    ∃ answer, perform S c { s' with system := w } = (.ok answer, { s' with system := w }) := by
  cases c with
  | configurationDone =>
    rcases configurationDone_failed h with ⟨hready, rfl⟩ | ⟨hready, -, hs'⟩
    · -- a call that came too early gave nothing up
      rw [State.surrenders, hready] at hs
      cases hdebugee : s'.debugee <;> rw [hdebugee] at hs <;> cases hs
    · refine ⟨(), ?_⟩
      show configurationDone S { s' with system := w } = _
      rw [configurationDone_eq, hs', hready]
      rfl
  | disconnect terminate =>
    obtain ⟨-, hs'⟩ := disconnect_failed h
    have hlive : State.livePid? { s' with system := w } = none := by
      rw [hs']
      rfl
    refine ⟨(), ?_⟩
    show disconnect S terminate { s' with system := w } = _
    rw [disconnect_eq, hlive, hs']
    rfl
  | setUp | attach | launch | setBreakpoints | threads | resume | pause | step => cases hs

/-- A call that fails leaves the program, its monitor and the pause alone unless it gave the program
up first.  If it did not, then made again, whatever the system is by then, it comes to what it would
have come to without the failure; if it did, it succeeds and does nothing. -/
theorem state_after_failure (S : System ω) {c : Call} {s s' : State ω} {e : EngineError}
    (h : perform S c s = (.error e, s')) :
    s'.paused = s.paused ∧
      (s'.debugee = s.debugee ∧ s'.monitors = s.monitors ↔ s.surrenders c = false) ∧
      (s.surrenders c = false →
        s' = { s with system := s'.system, ready := s'.ready, trace := s'.trace } ∧
        ∀ w, (perform S c { s' with system := w }).1 = (perform S c { s with system := w }).1) ∧
      (s.surrenders c = true →
        s' = { s.givenUp with system := s'.system, trace := s'.trace } ∧ s'.debugee = .none ∧
        ∀ w, ∃ answer,
          perform S c { s' with system := w } = (.ok answer, { s' with system := w })) := by
  rcases perform_failed h with ⟨hkept, hsame⟩ | ⟨hlost, hdebugee, hs'⟩
  · rw [hkept]
    refine ⟨?_, ⟨fun _ => rfl, fun _ => ?_⟩, fun _ => ⟨hsame, retry_of_same h hkept⟩,
      fun hlost => absurd hlost Bool.false_ne_true⟩
    · rw [hsame]
    · rw [hsame]
      exact ⟨rfl, rfl⟩
  · have hpaused : s'.paused = s.paused := by
      rw [hs']
      exact s.paused_givenUp
    have hnone : s'.debugee = .none := by
      rw [hs']
      exact debugee_givenUp s
    rw [hlost]
    refine ⟨hpaused, ⟨fun hsame => ?_, fun hkept => absurd hkept.symm Bool.false_ne_true⟩,
      fun hkept => absurd hkept.symm Bool.false_ne_true,
      fun _ => ⟨hs', hnone, retry_of_surrenders h hlost⟩⟩
    exact absurd (hsame.1.symm.trans hnone) hdebugee

/-- A pause fails while the process cannot be signalled, and goes through when it can. -/
theorem state_after_failure_pause :
    let absent : State Bool := { found with system := false }
    let failed := (perform single .pause absent).2
    perform single .pause absent = (.error (.signal "kill" .srch), failed) ∧
      absent.surrenders .pause = false ∧
      failed.debugee = .attached 7 none ∧ failed.paused = false ∧
      (perform single .pause { failed with system := true }).1 = .ok () := by
  intro absent failed
  have hfailed : perform single .pause absent = (.error (.signal "kill" .srch), failed) := rfl
  obtain ⟨hpaused, hsame, hretry, -⟩ := state_after_failure single hfailed
  refine ⟨hfailed, rfl, (hsame.2 rfl).1, hpaused, ?_⟩
  exact ((hretry rfl).2 true).trans rfl

/-- A program that cannot be started is not waiting any more, and the end of the configuration then
succeeds; nor is a process that cannot be killed in hand any more, or watched. -/
theorem program_lost_by_failure :
    let waiting := ({ system := true } : State Bool).occur single (.called (.launch "/tmp" ["x"]))
    let unstarted := waiting.occur single (.called .configurationDone)
    let watched := ({ system := true } : State Bool).occurAll single
      [.called .setUp, .called (.attach 7), .called .configurationDone, .passed false]
    let dropped := watched.occur single (.called (.disconnect true))
    (waiting.debugee = .pending "/tmp" ["x"] ∧
      (perform single .configurationDone waiting).1 = .error (.spawn "/tmp" "") ∧
      unstarted.debugee = .none ∧ (perform single .configurationDone unstarted).1 = .ok ()) ∧
    (watched.debugee = .attached 7 (some 0) ∧
      (watched.monitors.map Monitor.cancelled) = [false] ∧
      (perform single (.disconnect true) watched).1 = .error (.signal "kill" .srch) ∧
      dropped.debugee = .none ∧ dropped.monitors.map Monitor.cancelled = [true]) :=
  ⟨⟨rfl, rfl, rfl, rfl⟩, rfl, rfl, rfl, rfl, rfl⟩

end Supervisor
end DebugSession
