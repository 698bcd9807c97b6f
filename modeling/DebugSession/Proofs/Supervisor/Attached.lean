/-
How long the engine takes a process that it attached to for its program: until it is let go of, also
after its monitor found it gone and said so.
-/
import DebugSession.Proofs.Supervisor.Direct

namespace DebugSession
namespace Supervisor

variable {ω : Type}

/-! ## With a process and without -/

/-- The engine takes a process for its program: calls about the program are about this process, and
there is no place for another one. -/
structure Holds (S : System ω) (s : State ω) (pid : UInt32) : Prop where
  threads : threads s = [{ id := pid, name := "main", running := !s.paused }]
  resume : ∃ ds, (resume S s).2.trace =
    s.trace ++ .signalled pid .cont (S.signal s.system pid .cont).1.isOk :: ds
  pause : ∃ ds, (pause S s).2.trace =
    s.trace ++ .signalled pid .stop (S.signal s.system pid .stop).1.isOk :: ds
  terminate : (disconnect S true s).1 =
      (S.signal s.system pid .kill).1.mapError (.signal "kill") ∧
    (disconnect S true s).2.trace =
      s.trace ++ [.signalled pid .kill (S.signal s.system pid .kill).1.isOk]
  launch : ∀ program args, (launch S program args s).1 = .error .alreadyRunning
  attach : s.ready = true → ∀ other, (attach S other s).1 = .error .alreadyRunning

section Calls

variable {s : State ω} {pid : UInt32}

theorem trace_reported (s : State ω) (e : Event) : ∃ ds, (s.reported e).trace = s.trace ++ ds := by
  rw [State.reported]
  split
  · exact ⟨_, rfl⟩
  · exact ⟨[], (List.append_nil _).symm⟩

theorem trace_givenUp (s : State ω) : s.givenUp.trace = s.trace ∧ s.givenUp.system = s.system := by
  rw [State.givenUp]
  cases s.debugee with
  | attached pid monitor =>
    cases monitor with
    | none => exact ⟨rfl, rfl⟩
    | some m =>
      simp only [State.cancelMonitor]
      cases s.monitors[m]? <;> exact ⟨rfl, rfl⟩
  | _ => exact ⟨rfl, rfl⟩

theorem holds_of_livePid (S : System ω) (h : s.livePid? = some pid) : Holds S s pid where
  threads := by rw [threads, h]
  resume := by
    rw [resume_eq, h]
    simp only
    split
    · exact ⟨[], rfl⟩
    · obtain ⟨ds, hds⟩ := trace_reported { s.sent S pid .cont with paused := false }
        (.continued none)
      exact ⟨ds, hds.trans (List.append_assoc _ _ _)⟩
  pause := by
    rw [pause_eq, h]
    simp only
    split
    · exact ⟨[], rfl⟩
    · obtain ⟨ds, hds⟩ := trace_reported { s.sent S pid .stop with paused := true }
        (.stopped .pause (some pid))
      exact ⟨ds, hds.trans (List.append_assoc _ _ _)⟩
  terminate := by
    obtain ⟨htrace, hsystem⟩ := trace_givenUp s
    rw [disconnect_eq, h]
    simp only [farewell_eq, if_true, hsystem]
    cases hsignal : (S.signal s.system pid .kill).1
    all_goals
      refine ⟨rfl, ?_⟩
      simp only [State.sent, State.add, htrace, hsystem, hsignal]
      rfl
  launch program args := by rw [launch_eq, h, if_pos (by rfl)]
  attach hready other := by
    rw [attach_eq, hready, h]
    rfl

end Calls

/-! ## A process that was attached to -/

/-- The engine is about to let go of its program. -/
def Occurrence.letsGo : Occurrence ω → Bool
  | .called (.disconnect _) => true
  | .told .release => true
  | _ => false

/-- The engine is attached to a process, which this monitor watches. -/
structure Attached (s : State ω) (pid : UInt32) (k : Nat) (m : Monitor) : Prop where
  debugee : s.debugee = .attached pid (some k)
  monitor : s.monitors[k]? = some m

namespace Attached

variable {s s' : State ω} {pid : UInt32} {k : Nat} {m : Monitor}

theorem livePid (h : Attached s pid k m) : s.livePid? = some pid := by
  rw [State.livePid?, h.debugee]

theorem of_eq (h : Attached s pid k m) (hdebugee : s'.debugee = s.debugee)
    (hmonitors : s'.monitors = s.monitors) : Attached s' pid k m :=
  ⟨hdebugee.trans h.debugee, hmonitors ▸ h.monitor⟩

theorem perform (S : System ω) (h : Attached s pid k m) {c : Call}
    (hc : ∀ terminate, c ≠ .disconnect terminate) : Attached (perform S c s).2 pid k m := by
  cases c with
  | setUp => exact h.of_eq rfl rfl
  | attach other =>
    show Attached (attach S other s).2 pid k m
    rw [attach_eq, h.livePid]
    split <;> exact h
  | configurationDone =>
    show Attached (configurationDone S s).2 pid k m
    rw [configurationDone_eq, h.debugee]
    split <;> exact h
  | launch program args =>
    show Attached (launch S program args s).2 pid k m
    rw [launch_eq, h.livePid]
    exact h.of_eq rfl rfl
  | setBreakpoints file lines => exact h.of_eq rfl rfl
  | threads => exact h
  | resume => exact h.of_eq (keeps_resume S s).debugee (keeps_resume S s).monitors
  | pause => exact h.of_eq (keeps_pause S s).debugee (keeps_pause S s).monitors
  | step kind => exact h
  | disconnect terminate => exact absurd rfl (hc terminate)

theorem step (S : System ω) (h : Attached s pid k m) {step : Step}
    (hstep : step ≠ .watch k) : Attached (s.step S step) pid k m := by
  have htaken := taken_step S s step
  refine ⟨htaken.debugee.trans h.debugee, ?_⟩
  cases htaken with
  | launch _ _ _ _ hs' =>
    rw [hs']
    exact h.monitor
  | @monitor n other present hwatch _ _ hs' =>
    rw [hs']
    show (s.monitors.set n (other.round present).2)[k]? = some m
    rw [List.getElem?_set_ne fun hnk => hstep (hwatch.trans (congrArg _ hnk)), h.monitor]
  | capture _ hs' =>
    rw [hs']
    exact h.monitor

/-- The monitor takes a look, and says so if the process is gone. -/
theorem watch (S : System ω) (h : Attached s pid k m) :
    Attached (s.step S (.watch k)) pid k (m.round (s.isPresent S m.pid)).2 ∧
      s.shows S (.stepped (.watch k)) = (m.round (s.isPresent S m.pid)).1 := by
  obtain ⟨hk, -⟩ := List.getElem?_eq_some_iff.1 h.monitor
  have hwatches : s.step S (.watch k) =
      (s.setMonitor k (m.round (s.isPresent S m.pid)).2).publish
        (m.round (s.isPresent S m.pid)).1 := by
    rw [State.step, State.watches, h.monitor]
  have hoccur : s.occur S (.stepped (.watch k)) = s.step S (.watch k) := rfl
  rw [State.shows, hoccur, hwatches]
  refine ⟨⟨h.debugee, List.getElem?_set_self hk⟩, ?_⟩
  rw [State.publish, State.add, State.setMonitor, List.drop_left, eventsOf_map_emitted]

theorem occur (S : System ω) (h : Attached s pid k m) {o : Occurrence ω} (ho : o.letsGo = false)
    (hwatch : o ≠ .stepped (.watch k)) : Attached (s.occur S o) pid k m := by
  cases o with
  | called c =>
    refine h.perform S fun terminate hc => ?_
    rw [hc] at ho
    exact nomatch ho
  | told n =>
    cases n with
    | release => exact nomatch ho
    | _ => exact h.of_eq rfl rfl
  | stepped step => exact h.step S fun hstep => hwatch (congrArg _ hstep)
  | passed system => exact h.of_eq rfl rfl

end Attached

/-- The looks of a monitor. -/
def looks (k : Nat) : Occurrence ω → Bool
  | .stepped (.watch n) => n = k
  | _ => false

/-- What a monitor said so far. -/
def Monitor.said (m : Monitor) : List Event := if m.done && m.sink then [.terminated] else []

theorem Monitor.said_round (m : Monitor) (present : Bool) :
    m.said ++ (m.round present).1 = (m.round present).2.said := by
  rw [round]
  split
  · exact List.append_nil _
  · next h =>
    simp only [Bool.or_eq_true, not_or, Bool.not_eq_true] at h
    simp only [said, h.1.2, Bool.false_and, Bool.true_and]
    rfl

theorem Monitor.round_same (m : Monitor) (present : Bool) :
    (m.round present).2.pid = m.pid ∧ (m.round present).2.cancelled = m.cancelled ∧
      (m.round present).2.sink = m.sink := by
  rw [round]
  split <;> exact ⟨rfl, rfl, rfl⟩

/-- As long as the engine does not let go, it stays attached, whatever its monitor says. -/
theorem Attached.occurAll (S : System ω) {s : State ω} {pid : UInt32} {k : Nat} {m : Monitor}
    (h : Attached s pid k m) {later : List (Occurrence ω)}
    (hlater : ∀ o ∈ later, o.letsGo = false) :
    ∃ m', Attached (s.occurAll S later) pid k m' ∧
      (m'.pid = m.pid ∧ m'.cancelled = m.cancelled ∧ m'.sink = m.sink) ∧
      m.said ++ s.shown S (looks k) later = m'.said := by
  induction later generalizing s m with
  | nil => exact ⟨m, h, ⟨rfl, rfl, rfl⟩, List.append_nil _⟩
  | cons o later ih =>
    have ho := hlater o List.mem_cons_self
    have hrest : ∀ o ∈ later, o.letsGo = false := fun o hmem =>
      hlater o (List.mem_cons_of_mem _ hmem)
    by_cases hwatch : o = .stepped (.watch k)
    · subst hwatch
      obtain ⟨hnext, hshows⟩ := h.watch S
      obtain ⟨m', hm', ⟨hpid, hcancelled, hsink⟩, hsaid⟩ := ih hnext hrest
      obtain ⟨hpid', hcancelled', hsink'⟩ := m.round_same (s.isPresent S m.pid)
      refine ⟨m', hm', ⟨hpid.trans hpid', hcancelled.trans hcancelled', hsink.trans hsink'⟩, ?_⟩
      have hlook : looks k (.stepped (.watch k) : Occurrence ω) = true := decide_eq_true rfl
      rw [State.shown, hlook, if_pos rfl, hshows, ← List.append_assoc, m.said_round]
      exact hsaid
    · obtain ⟨m', hm', hsame, hsaid⟩ := ih (h.occur S ho hwatch) hrest
      have hlook : looks k o = false := by
        cases o with
        | stepped step =>
          cases step with
          | watch n => exact decide_eq_false fun hn => hwatch (hn ▸ rfl)
          | _ => rfl
        | _ => rfl
      refine ⟨m', hm', hsame, ?_⟩
      rw [State.shown, hlook, if_neg Bool.false_ne_true]
      exact hsaid

/-- A process that the engine is attached to, whatever calls are made, steps are taken and things
pass, as long as the engine is not told to let go.  Its monitor says at most once that it is gone.
The engine goes on to take it for its program: it lists it, signals its number, and refuses any
other program. -/
theorem held_after_terminated (S : System ω) {s : State ω} {pid : UInt32} (hready : s.ready = true)
    (hdebugee : s.debugee = .attached pid none) {later : List (Occurrence ω)}
    (hlater : ∀ o ∈ later, o.letsGo = false) :
    let k := s.monitors.length
    let watched := s.occur S (.called .configurationDone)
    (∃ m, (watched.occurAll S later).monitors[k]? = some m ∧ m.pid = pid ∧ m.cancelled = false ∧
      watched.shown S (looks k) later = if m.done && s.sink then [.terminated] else []) ∧
      Holds S (watched.occurAll S later) pid := by
  intro k watched
  have hwatched : watched = s.addMonitor pid := by
    show (configurationDone S s).2 = _
    rw [configurationDone_eq, hready, hdebugee]
    rfl
  have hattached : Attached watched pid k { pid, sink := s.sink } := by
    rw [hwatched]
    exact ⟨rfl, List.getElem?_concat_length⟩
  obtain ⟨m, hm, ⟨hpid, hcancelled, hsink⟩, hsaid⟩ := hattached.occurAll S hlater
  refine ⟨⟨m, hm.monitor, hpid, hcancelled, ?_⟩, holds_of_livePid S hm.livePid⟩
  rw [← show m.sink = s.sink from hsink]
  exact hsaid

/-- An operating system with one process, which may be there or not. -/
def single : System Bool where
  probe present _ := if present then .ok () else .error .srch
  signal present _ _ := (if present then .ok () else .error .srch, present)
  spawn present _ _ := (.error (.start ""), present)
  pathExists _ _ := true
  which _ _ := .error ""

/-- An engine that is attached to the process. -/
def found : State Bool where
  system := true
  sink := true
  ready := true
  debugee := .attached 7 none

/-- The process goes, and its monitor looks after it. -/
def vanishing : List (Occurrence Bool) := [.passed false, .stepped (.watch 0)]

theorem held_after_terminated_vanishing :
    found.ready = true ∧ found.debugee = .attached 7 none ∧
      (∀ o ∈ vanishing, o.letsGo = false) ∧
      Holds single
        ((found.occur single (.called .configurationDone)).occurAll single vanishing) 7 := by
  have hlater : ∀ o ∈ vanishing, o.letsGo = false := by
    intro o ho
    rcases List.mem_cons.1 ho with rfl | ho
    · rfl
    · rw [List.mem_singleton.1 ho]
      rfl
  exact ⟨rfl, rfl, hlater, (held_after_terminated single (s := found) rfl rfl hlater).2⟩

/-- The process goes, and the monitor says so; the engine lists it all the same, fails to signal it,
and refuses a new program.  When its number belongs to another process, that one is killed. -/
theorem terminated_but_held :
    let gone := ({ system := true, sink := true } : State Bool).occurAll single
      ([.called .setUp, .called (.attach 7), .called .configurationDone] ++ vanishing)
    eventsOf gone.trace = [.terminated] ∧
      threads gone = [{ id := 7, name := "main", running := true }] ∧
      (resume single gone).1 = .error (.signal "kill" .srch) ∧
      (launch single "/bin/true" [] gone).1 = .error .alreadyRunning ∧
      (disconnect single true (gone.occur single (.passed true))).2.trace =
        [.emitted .terminated, .signalled 7 .kill true] := by
  refine ⟨?_, ?_, rfl, rfl, ?_⟩ <;> decide +kernel

end Supervisor
end DebugSession
