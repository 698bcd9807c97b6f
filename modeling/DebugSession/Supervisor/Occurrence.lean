/-
All that can happen to a process engine, in whatever order: it is called or told something, what
runs beside it takes a step, or the system changes by itself.
-/
import DebugSession.Supervisor.Schedule

namespace DebugSession
namespace Supervisor

inductive Occurrence (ω : Type) where
  | called (c : Call)
  | told (n : Notice)
  | stepped (step : Step)
  /-- Processes come and go without the engine. -/
  | passed (system : ω)

variable {ω : Type}

/-- The launch whose reader or waiter takes a step. -/
def Step.launch? : Step → Option Nat
  | .read n _ _ => some n
  | .store n _ _ => some n
  | .lose n _ => some n
  | .reap n _ => some n
  | .await n => some n
  | .expire n => some n
  | .forward _ _ => none
  | .finish _ => none
  | .watch _ => none

namespace Occurrence

/-- The step of a launch, none if an occurrence is something else. -/
def stepOf? (n : Nat) : Occurrence ω → Option Step
  | .stepped step => if step.launch? = some n then some step else none
  | _ => none

theorem eq_stepped_of_stepOf {n : Nat} {o : Occurrence ω} {step : Step}
    (h : o.stepOf? n = some step) : o = .stepped step ∧ step.launch? = some n := by
  cases o with
  | stepped other =>
    rw [stepOf?] at h
    split at h
    · next hother =>
      obtain rfl := Option.some.inj h
      exact ⟨rfl, hother⟩
    · exact nomatch h
  | _ => exact nomatch h

/-- The steps of a launch among what happens. -/
def stepsOf (n : Nat) (all : List (Occurrence ω)) : List Step := all.filterMap (stepOf? n)

theorem stepsOf_append (n : Nat) (a b : List (Occurrence ω)) :
    stepsOf n (a ++ b) = stepsOf n a ++ stepsOf n b := List.filterMap_append

end Occurrence

namespace State

def occur (S : System ω) (s : State ω) : Occurrence ω → State ω
  | .called c => (perform S c s).2
  | .told n => (heed S n s).2
  | .stepped step => s.step S step
  | .passed system => { s with system }

def occurAll (S : System ω) (s : State ω) (all : List (Occurrence ω)) : State ω :=
  all.foldl (occur S) s

/-- The events that show with an occurrence. -/
def shows (S : System ω) (s : State ω) (o : Occurrence ω) : List Event :=
  eventsOf ((s.occur S o).trace.drop s.trace.length)

/-- The events that show with the occurrences that are `mine`, whatever else happens. -/
def shown (S : System ω) (mine : Occurrence ω → Bool) (s : State ω) :
    List (Occurrence ω) → List Event
  | [] => []
  | o :: later => (if mine o then s.shows S o else []) ++ (s.occur S o).shown S mine later

end State
end Supervisor
end DebugSession
