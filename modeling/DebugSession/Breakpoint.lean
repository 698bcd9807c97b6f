/-
Breakpoints as the engine knows them.
-/

namespace DebugSession

structure Breakpoint where
  id : UInt32
  verified : Bool
  file : String
  line : UInt32
  /-- Why the breakpoint is not verified. -/
  message : Option String
deriving Repr, DecidableEq, Inhabited

end DebugSession
