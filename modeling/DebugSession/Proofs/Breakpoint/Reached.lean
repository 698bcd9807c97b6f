/-
What a book over the process engine can come to.  Changes are made in any order, and between them
anything else may happen to the engine: other calls, and what runs beside it.  Only requests for
breakpoints touch the store (`store_occur`), so book and engine stay in step (`Reached.inStep`).
-/
import DebugSession.Proofs.Breakpoint.Changes
import DebugSession.Proofs.Supervisor.Steps

namespace DebugSession
namespace Supervisor

variable {ω : Type}

/-! ## The store -/

@[simp] theorem State.store_reported (s : State ω) (e : Event) :
    (s.reported e).store = s.store := by
  rw [State.reported]
  split <;> rfl

@[simp] theorem State.store_sent (S : System ω) (s : State ω) (pid : UInt32) (signal : Signal) :
    (s.sent S pid signal).store = s.store := rfl

@[simp] theorem State.store_givenUp (s : State ω) : s.givenUp.store = s.store := by
  rw [State.givenUp]
  cases s.debugee with
  | attached pid monitor =>
    cases monitor with
    | none => rfl
    | some m =>
      simp only [State.cancelMonitor]
      cases s.monitors[m]? <;> rfl
  | _ => rfl

theorem store_start (S : System ω) (program : String) (args : List String) (s : State ω) :
    (start S program args s).2.store = s.store := by
  rw [start_eq]
  rcases S.spawn s.system program args with ⟨_ | pid, system⟩
  · rfl
  · show ((State.reported _ _).reported _).store = _
    simp

theorem store_disconnect (S : System ω) (terminate : Bool) (s : State ω) :
    (disconnect S terminate s).2.store = s.store := by
  rw [disconnect_eq]
  cases s.livePid? with
  | none => rfl
  | some pid =>
    have hfarewell : (farewell S pid terminate s.givenUp).2.store = s.store := by
      rw [farewell_eq]
      split
      · simp
      · split <;> simp
    rcases hresult : farewell S pid terminate s.givenUp with ⟨_ | _, s'⟩ <;>
      rw [hresult] at hfarewell <;> simp only [hresult] <;> exact hfarewell

/-- Calls that are no requests for breakpoints leave the store alone. -/
theorem store_perform (S : System ω) (s : State ω) {c : Call}
    (hc : ∀ file lines, c ≠ .setBreakpoints file lines) : (perform S c s).2.store = s.store := by
  cases c with
  | setUp => rfl
  | attach pid =>
    show (attach S pid s).2.store = _
    rw [attach_eq]
    split
    · rfl
    · split
      · rfl
      · cases checkPid S s pid <;> rfl
  | configurationDone =>
    show (configurationDone S s).2.store = _
    rw [configurationDone_eq]
    split
    · rfl
    · split
      · next program args _ => exact store_start S program args { s with debugee := .none }
      · rfl
      · rfl
  | launch program args =>
    show (launch S program args s).2.store = _
    rw [launch_eq]
    split
    · rfl
    · cases resolve S { s with ready := true } program <;> rfl
  | setBreakpoints file lines => exact absurd rfl (hc file lines)
  | threads => rfl
  | resume =>
    show (resume S s).2.store = _
    rw [resume_eq]
    split
    · rfl
    · split <;> simp
  | pause =>
    show (pause S s).2.store = _
    rw [pause_eq]
    split
    · rfl
    · split <;> simp
  | step kind => rfl
  | disconnect terminate => exact store_disconnect S terminate s

theorem store_heed (S : System ω) (n : Notice) (s : State ω) : (heed S n s).2.store = s.store := by
  cases n with
  | bindSink => rfl
  | redirectOutput => rfl
  | release =>
    show (release S s).2.store = _
    rw [release_eq]
    cases s.debugee with
    | launched pid launch =>
      simp only
      split <;> simp
    | _ => simp

/-- Only requests for breakpoints touch the store. -/
theorem store_occur (S : System ω) (s : State ω) {o : Occurrence ω}
    (ho : ∀ file lines, o ≠ .called (.setBreakpoints file lines)) :
    (s.occur S o).store = s.store := by
  cases o with
  | called c => exact store_perform S s fun file lines hc => ho file lines (congrArg _ hc)
  | told n => exact store_heed S n s
  | stepped step => exact (taken_step S s step).store
  | passed system => rfl

end Supervisor

namespace Breakpoint
namespace Book

open Supervisor (Occurrence System State)

variable {ω : Type}

/-! ## Books and engines -/

/-- The book and the process engine after a change. -/
def Change.over (S : System ω) (c : Change) (b : Book) (s : State ω) : Book × State ω :=
  let made := c.make (Supervisor.engine S) b { engine := s }
  (made.1.2, made.2.engine)

/-- A book and a process engine that can come together.  The book starts empty over an engine that
was just made; then it is changed, and anything else happens to the engine.  The numbers of the
engine are 32 bits wide; a change with which they would start over is left out. -/
inductive Reached (S : System ω) : Book → State ω → Prop where
  | start (w : ω) : Reached S {} { system := w }
  | changed {b : Book} {s : State ω} (c : Change) (h : Reached S b s)
    (hnumbers : s.store.lastId ≤ (c.over S b s).2.store.lastId) :
    Reached S (c.over S b s).1 (c.over S b s).2
  | happened {b : Book} {s : State ω} (o : Occurrence ω) (h : Reached S b s)
    (ho : ∀ file lines, o ≠ .called (.setBreakpoints file lines)) : Reached S b (s.occur S o)

theorem Reached.inStep {S : System ω} {b : Book} {s : State ω} (h : Reached S b s) :
    InStep b s.store := by
  induction h with
  | start w => exact inStep_empty
  | changed c _ hnumbers ih => exact (InStep.make (t := { engine := _ }) ih S hnumbers).2
  | happened o _ ho ih =>
    rw [Supervisor.store_occur S _ ho]
    exact ih

end Book
end Breakpoint
end DebugSession
