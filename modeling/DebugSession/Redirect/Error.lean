/-
Why a redirect server does not start or run.
-/
import DebugSession.Text.Decimal

namespace DebugSession
namespace Redirect

inductive Error where
  | bind (port : UInt16) (cause : String)
  | pipe (cause : String)
  | spawn (cause : String)
  | accept (cause : String)
deriving Repr, DecidableEq, Inhabited

namespace Error

def message : Error → String
  | bind port cause =>
    "bind redirect server on port " ++ Text.Decimal.render port.toNat ++ ": " ++ cause
  | pipe cause => "create capture pipe: " ++ cause
  | spawn cause => "spawn redirect thread: " ++ cause
  | accept cause => "accept redirect client: " ++ cause

end Error
end Redirect
end DebugSession
