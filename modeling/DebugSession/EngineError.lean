/-
Why an engine refuses a call or fails at it.
-/
import DebugSession.Text.Decimal

namespace DebugSession

open Text.Decimal (render)

/-- Errors that the system reports for a signal. -/
inductive Errno where
  | perm
  | srch
  | inval
deriving Repr, DecidableEq, Inhabited

namespace Errno

def message : Errno → String
  | perm => "EPERM: Operation not permitted"
  | srch => "ESRCH: No such process"
  | inval => "EINVAL: Invalid argument"

end Errno

inductive EngineError where
  | notInitialized
  | processNotFound (pid : UInt32)
  | alreadyRunning
  | noProcess
  | noLaunchTarget
  | unsupported (operation : String)
  /-- The program could not be started, for the reason in `cause`. -/
  | spawn (program cause : String)
  | signal (operation : String) (errno : Errno)
  | io (text : String)
deriving Repr, DecidableEq, Inhabited

namespace EngineError

/-- A name of the error that does not change with its wording. -/
def code : EngineError → String
  | notInitialized => "E_NOT_INITIALIZED"
  | processNotFound _ => "E_PROCESS_NOT_FOUND"
  | alreadyRunning => "E_ALREADY_RUNNING"
  | noProcess => "E_NO_PROCESS"
  | noLaunchTarget => "E_NO_LAUNCH_TARGET"
  | unsupported _ => "E_NOT_SUPPORTED"
  | spawn _ _ => "E_SPAWN"
  | signal _ _ => "E_SIGNAL"
  | io _ => "E_IO"

def message : EngineError → String
  | notInitialized => "engine is not initialized"
  | processNotFound pid => "process " ++ render pid.toNat ++ " not found"
  | alreadyRunning => "debugee already run"
  | noProcess => "no debugee process"
  | noLaunchTarget => "nothing to launch, program is not set"
  | unsupported operation => "operation `" ++ operation ++ "` is not supported by this engine"
  | spawn program cause => "spawn `" ++ program ++ "`: " ++ cause
  | signal operation errno => operation ++ " syscall error: " ++ errno.message
  | io text => text

/-- The message with the messages of its causes behind it.  Only a failed start has a cause of its
own. -/
def chain : EngineError → String
  | spawn program cause => message (spawn program cause) ++ ": " ++ cause
  | e => e.message

end EngineError
end DebugSession
