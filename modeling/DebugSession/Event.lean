/-
What the engine reports about the program it debugs.
-/
import DebugSession.Breakpoint
import DebugSession.Text.Decimal

namespace DebugSession

open Text.Decimal (render)

/-- The standard stream of the program that a text comes from. -/
inductive Channel where
  | stdout
  | stderr
deriving Repr, DecidableEq, Inhabited

inductive StopReason where
  | entry
  | breakpoint (id : UInt32)
  | step
  | pause
  | signal (name : String)
  | exception (text : String)
deriving Repr, DecidableEq, Inhabited

namespace StopReason

def text : StopReason → String
  | entry => "entry point"
  | breakpoint id => "breakpoint " ++ render id.toNat
  | step => "step"
  | pause => "pause"
  | signal name => "signal " ++ name
  | exception text => "exception: " ++ text

end StopReason

structure ThreadInfo where
  id : UInt32
  name : String
  running : Bool
deriving Repr, DecidableEq, Inhabited

inductive StepKind where
  | over
  | into
  | out
deriving Repr, DecidableEq, Inhabited

inductive Event where
  | processStarted (pid : UInt32) (name : String)
  | stopped (reason : StopReason) (thread : Option UInt32)
  | continued (thread : Option UInt32)
  | breakpointChanged (breakpoint : Breakpoint)
  | output (channel : Channel) (text : String)
  | exited (code : Int)
  | terminated
deriving Repr, DecidableEq, Inhabited

end DebugSession
