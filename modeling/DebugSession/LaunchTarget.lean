/-
The program that a session starts.
-/

namespace DebugSession

structure LaunchTarget where
  program : String
  args : List String
deriving Repr, DecidableEq, Inhabited

end DebugSession
