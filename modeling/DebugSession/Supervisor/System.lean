/-
What the process engine asks of the operating system.
-/
import DebugSession.EngineError

namespace DebugSession
namespace Supervisor

inductive Signal where
  | kill
  | stop
  | cont
deriving Repr, DecidableEq, Inhabited

inductive SpawnFailure where
  /-- No pipe could be made for its output. -/
  | pipe (text : String)
  | start (text : String)
deriving Repr, DecidableEq, Inhabited

/-- An operating system with states of type `ω`. -/
structure System (ω : Type) where
  /-- Looks whether a process can be signalled. -/
  probe : ω → UInt32 → Except Errno Unit
  signal : ω → UInt32 → Signal → Except Errno Unit × ω
  /-- Starts a program; the answer is its process. -/
  spawn : ω → String → List String → Except SpawnFailure UInt32 × ω
  pathExists : ω → String → Bool
  which : ω → String → Except String String

end Supervisor
end DebugSession
