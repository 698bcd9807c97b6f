/-
What the steps beside the engine can do, listed once: a reader or the waiter of a launch goes on, a
monitor looks, or a forwarder goes on, which is about the capture alone.  A launch never goes back,
and no step sends a signal.
-/
import DebugSession.Proofs.Supervisor.Calls
import DebugSession.Supervisor.Occurrence

namespace DebugSession
namespace Supervisor

variable {ω : Type}

/-! ## Launches -/

namespace WaiterPhase

/-- The readers were found done. -/
def Joined : WaiterPhase → Prop
  | .waiting => False
  | .reaped _ => False
  | _ => True

/-- The end is announced, or nothing comes before its announcement any more. -/
def Ended : WaiterPhase → Prop
  | .ended _ => True
  | .announced => True
  | .over => True
  | _ => False

theorem Ended.joined {w : WaiterPhase} (h : w.Ended) : w.Joined := by
  cases w <;> first | exact h | exact trivial

end WaiterPhase

/-- The flag that the engine goes by says whether the program counts as ended. -/
def Launch.Flagged (l : Launch) : Prop := l.exited = true ↔ l.waiter.Ended

/-- A launch, and what becomes of it with time. -/
structure Launch.Onward (l l' : Launch) : Prop where
  pid : l'.pid = l.pid
  reaped : l.waiter ≠ .waiting → l'.waiter ≠ .waiting
  ended : l.waiter.Ended → l'.waiter.Ended
  flagged : l.Flagged → l'.Flagged

namespace Launch.Onward

variable {l l' l'' : Launch}

theorem refl (l : Launch) : l.Onward l := ⟨rfl, id, id, id⟩

theorem trans (h : l.Onward l') (h' : l'.Onward l'') : l.Onward l'' :=
  ⟨h'.pid.trans h.pid, h'.reaped ∘ h.reaped, h'.ended ∘ h.ended, h'.flagged ∘ h.flagged⟩

/-- What a reader does leaves the waiter alone. -/
theorem setReader (l : Launch) (r : Reader) (channel : Channel) :
    l.Onward (l.setReader r channel) := by
  cases channel <;> exact ⟨rfl, id, id, id⟩

theorem reap (h : l.waiter = .waiting) (code : Int) :
    l.Onward { l with waiter := .reaped code } where
  pid := rfl
  reaped _ := nofun
  ended hended := by rw [h] at hended; exact hended
  flagged hflag := by rw [Flagged, h] at hflag; exact hflag

/-- The program counts as ended from the setting of its flag on. -/
theorem setExited (l : Launch) (code : Int) :
    l.Onward { l with waiter := .ended code, exited := true } :=
  ⟨rfl, fun _ => nofun, fun _ => trivial, fun _ => ⟨fun _ => trivial, fun _ => rfl⟩⟩

theorem await {c : Option Redirect.Capture} {es : List Event} (h : l.await c = some (es, l')) :
    l.Onward l' := by
  unfold Launch.await at h
  cases hw : l.waiter with
  | reaped code =>
    simp only [hw] at h
    split at h
    · obtain ⟨-, rfl⟩ := Prod.mk.inj (Option.some.inj h)
      refine ⟨rfl, fun _ => nofun, fun hended => ?_, fun hflag => ?_⟩
      · rw [hw] at hended
        exact hended
      · rw [Flagged, hw] at hflag
        exact hflag
    · exact nomatch h
  | joined code =>
    simp only [hw] at h
    split at h
    · exact nomatch h
    · obtain ⟨-, rfl⟩ := Prod.mk.inj (Option.some.inj h)
      exact setExited l code
  | ended code =>
    simp only [hw] at h
    obtain ⟨-, rfl⟩ := Prod.mk.inj (Option.some.inj h)
    refine ⟨rfl, fun _ => nofun, fun _ => trivial, fun hflag => ?_⟩
    rw [Flagged, hw] at hflag
    exact hflag
  | announced =>
    simp only [hw] at h
    obtain ⟨-, rfl⟩ := Prod.mk.inj (Option.some.inj h)
    refine ⟨rfl, fun _ => nofun, fun _ => trivial, fun hflag => ?_⟩
    rw [Flagged, hw] at hflag
    exact hflag
  | _ =>
    rw [hw] at h
    exact nomatch h

end Launch.Onward

/-- Only a waiter that waits for the output of a redirected program goes on when its time is up. -/
theorem Launch.expire_eq_some {l l' : Launch} (h : l.expire = some l') :
    ∃ code, l.waiter = .joined code ∧ l.redirected = true ∧
      l' = { l with waiter := .ended code, exited := true } := by
  unfold Launch.expire at h
  cases hw : l.waiter with
  | joined code =>
    simp only [hw] at h
    split at h
    · next hredirected => exact ⟨code, rfl, hredirected, (Option.some.inj h).symm⟩
    · exact nomatch h
  | _ =>
    rw [hw] at h
    exact nomatch h

/-! ## Signals -/

structure Sent where
  pid : UInt32
  signal : Signal
  delivered : Bool
deriving Repr, DecidableEq

def Deed.sent? : Deed → Option Sent
  | .signalled pid signal delivered => some ⟨pid, signal, delivered⟩
  | _ => none

namespace State

def signals (s : State ω) : List Sent := s.trace.filterMap Deed.sent?

theorem signals_add (s : State ω) (ds : List Deed) :
    (s.add ds).signals = s.signals ++ ds.filterMap Deed.sent? := List.filterMap_append

theorem sent?_emitted (es : List Event) : (es.map Deed.emitted).filterMap Deed.sent? = [] := by
  rw [List.filterMap_map]
  exact List.filterMap_eq_nil_iff.2 fun _ _ => rfl

theorem signals_publish (s : State ω) (es : List Event) : (s.publish es).signals = s.signals := by
  rw [publish, signals_add, sent?_emitted, List.append_nil]

end State

/-! ## Steps -/

/-- What a step can do to a state. -/
inductive Taken (s s' : State ω) (step : Step) : Prop where
  /-- A reader or the waiter of a launch goes on. -/
  | launch {n : Nat} {l l' : Launch} : step.launch? = some n → s.launches[n]? = some l →
    l.Onward l' → s'.signals = s.signals →
    s' = { s with
      launches := s.launches.set n l', capture := s'.capture, trace := s'.trace } →
    Taken s s' step
  | monitor {k : Nat} {m : Monitor} (present : Bool) : step = .watch k →
    s.monitors[k]? = some m → s'.signals = s.signals →
    s' = { s with monitors := s.monitors.set k (m.round present).2, trace := s'.trace } →
    Taken s s' step
  /-- A forwarder goes on, or nothing happens. -/
  | capture : s'.signals = s.signals → s' = { s with capture := s'.capture, trace := s'.trace } →
    Taken s s' step

theorem taken_step (S : System ω) (s : State ω) (step : Step) : Taken s (s.step S step) step := by
  cases step with
  | read n channel what =>
    rw [State.step, State.reads]
    split
    · next l hl =>
      simp only
      split
      · exact .launch rfl hl (.setReader l _ channel) (State.signals_publish _ _) rfl
      · exact .capture rfl rfl
    · exact .capture rfl rfl
  | store n channel count =>
    rw [State.step, State.stores]
    split
    · next l c hl _ =>
      split
      · exact .launch rfl hl (.setReader l _ channel) rfl rfl
      · exact .capture rfl rfl
    · exact .capture rfl rfl
  | lose n channel =>
    rw [State.step, State.loses]
    split
    · next l hl =>
      split
      · exact .launch rfl hl (.setReader l _ channel) rfl rfl
      · exact .capture rfl rfl
    · exact .capture rfl rfl
  | forward channel count =>
    rw [State.step, State.forwards]
    split
    · simp only
      split
      · exact .capture rfl rfl
      · exact .capture (State.signals_publish _ _) rfl
    · exact .capture rfl rfl
  | finish channel =>
    rw [State.step, State.finishes]
    split
    · simp only
      split
      · exact .capture (State.signals_publish _ _) rfl
      · exact .capture rfl rfl
    · exact .capture rfl rfl
  | reap n code =>
    rw [State.step, State.reaps]
    split
    · next l hl =>
      split
      · next hwaiting =>
        exact .launch rfl hl (.reap hwaiting code)
          ((State.signals_add _ _).trans (List.append_nil _)) rfl
      · exact .capture rfl rfl
    · exact .capture rfl rfl
  | await n =>
    rw [State.step, State.awaits]
    split
    · next l hl =>
      split
      · next hawait => exact .launch rfl hl (.await hawait) (State.signals_publish _ _) rfl
      · exact .capture rfl rfl
    · exact .capture rfl rfl
  | expire n =>
    rw [State.step, State.expires]
    split
    · next l hl =>
      split
      · next l' hexpire =>
        obtain ⟨code, -, -, rfl⟩ := Launch.expire_eq_some hexpire
        exact .launch rfl hl (.setExited l code) rfl rfl
      · exact .capture rfl rfl
    · exact .capture rfl rfl
  | watch k =>
    rw [State.step, State.watches]
    split
    · next m hm => exact .monitor _ rfl hm (State.signals_publish _ _) rfl
    · exact .capture rfl rfl

section Steps

variable {s s' : State ω} {step : Step} {n : Nat} {l : Launch}

theorem Taken.signals (h : Taken s s' step) : s'.signals = s.signals := by
  cases h with
  | launch _ _ _ hsignals => exact hsignals
  | monitor _ _ _ hsignals => exact hsignals
  | capture hsignals => exact hsignals

/-- What is in hand and what is booked is up to the calls. -/
theorem Taken.untouched (h : Taken s s' step) : s' = { s with
    launches := s'.launches, monitors := s'.monitors, capture := s'.capture, trace := s'.trace } := by
  cases h with
  | launch _ _ _ _ hs' => rw [hs']
  | monitor _ _ _ _ hs' => rw [hs']
  | capture _ hs' => rw [hs']

theorem Taken.debugee (h : Taken s s' step) : s'.debugee = s.debugee := by rw [h.untouched]

theorem Taken.paused (h : Taken s s' step) : s'.paused = s.paused := by rw [h.untouched]

theorem Taken.ready (h : Taken s s' step) : s'.ready = s.ready := by rw [h.untouched]

theorem Taken.store (h : Taken s s' step) : s'.store = s.store := by rw [h.untouched]

theorem Taken.length_launches (h : Taken s s' step) : s'.launches.length = s.launches.length := by
  cases h with
  | launch _ _ _ _ hs' => rw [hs', List.length_set]
  | monitor _ _ _ _ hs' => rw [hs']
  | capture _ hs' => rw [hs']

/-- A launch is as it was, unless the step is its own. -/
theorem Taken.launch_other (h : Taken s s' step) (hl : s.launches[n]? = some l)
    (hstep : step.launch? ≠ some n) : s'.launches[n]? = some l := by
  cases h with
  | launch hm _ _ _ hs' =>
    rw [hs']
    show (s.launches.set _ _)[n]? = some l
    rw [List.getElem?_set_ne fun hmn => hstep (hm.trans (congrArg some hmn)), hl]
  | monitor _ _ _ _ hs' =>
    rw [hs']
    exact hl
  | capture _ hs' =>
    rw [hs']
    exact hl

/-- Whatever step is taken, a launch goes on or is as it was. -/
theorem Taken.onward (h : Taken s s' step) (hl : s.launches[n]? = some l) :
    ∃ l', s'.launches[n]? = some l' ∧ l.Onward l' := by
  by_cases hstep : step.launch? = some n
  · cases h with
    | @launch m old new hm hold honward _ hs' =>
      obtain rfl := Option.some.inj (hm.symm.trans hstep)
      obtain rfl := Option.some.inj (hold.symm.trans hl)
      obtain ⟨hlt, -⟩ := List.getElem?_eq_some_iff.1 hl
      refine ⟨new, ?_, honward⟩
      rw [hs']
      exact List.getElem?_set_self hlt
    | monitor _ hwatch _ _ _ =>
      rw [hwatch] at hstep
      exact nomatch hstep
    | capture _ hs' =>
      refine ⟨l, ?_, .refl l⟩
      rw [hs']
      exact hl
  · exact ⟨l, h.launch_other hl hstep, .refl l⟩

end Steps

/-! ## All that can happen -/

section Occurrences

variable {s : State ω} {n : Nat} {l : Launch}

/-- Calls and notices leave the launches before them as they are. -/
theorem launch_occur_other (S : System ω) (h : s.launches[n]? = some l) {o : Occurrence ω}
    (ho : o.stepOf? n = none) : (s.occur S o).launches[n]? = some l := by
  have hprefix : ∀ {later : List Launch}, s.launches <+: later → later[n]? = some l := by
    rintro later ⟨rest, rfl⟩
    obtain ⟨hn, -⟩ := List.getElem?_eq_some_iff.1 h
    rw [List.getElem?_append_left hn, h]
  cases o with
  | called c => exact hprefix (launches_perform S c s)
  | told notice => exact hprefix (launches_heed S notice s ▸ List.prefix_rfl)
  | stepped step =>
    refine (taken_step S s step).launch_other h fun hstep => ?_
    rw [Occurrence.stepOf?, if_pos hstep] at ho
    cases ho
  | passed system => exact h

theorem onward_occur (S : System ω) (h : s.launches[n]? = some l) (o : Occurrence ω) :
    ∃ l', (s.occur S o).launches[n]? = some l' ∧ l.Onward l' := by
  cases ho : Occurrence.stepOf? n o with
  | none => exact ⟨l, launch_occur_other S h ho, .refl l⟩
  | some step =>
    obtain ⟨rfl, -⟩ := Occurrence.eq_stepped_of_stepOf ho
    exact (taken_step S s step).onward h

theorem onward_occurAll (S : System ω) (h : s.launches[n]? = some l)
    (later : List (Occurrence ω)) :
    ∃ l', (s.occurAll S later).launches[n]? = some l' ∧ l.Onward l' := by
  induction later generalizing s l with
  | nil => exact ⟨l, h, .refl l⟩
  | cons o later ih =>
    obtain ⟨l', hl', honward⟩ := onward_occur S h o
    obtain ⟨l'', hl'', honward'⟩ := ih hl'
    exact ⟨l'', hl'', honward.trans honward'⟩

end Occurrences

end Supervisor
end DebugSession
