/-
The state of the process engine and of all that runs beside it.
-/
import DebugSession.Breakpoint.Store
import DebugSession.Supervisor.Launch
import DebugSession.Supervisor.System

namespace DebugSession
namespace Supervisor

/-- The program that the engine has in hand. -/
inductive Debugee where
  | none
  /-- Waits for the end of the configuration. -/
  | pending (program : String) (args : List String)
  /-- Started by the engine, in the launch with this number. -/
  | launched (pid : UInt32) (launch : Nat)
  /-- Found running, and perhaps watched by the monitor with this number. -/
  | attached (pid : UInt32) (monitor : Option Nat)
deriving Repr, DecidableEq, Inhabited

/-- What the engine and its helpers do to the world. -/
inductive Deed where
  | emitted (e : Event)
  | signalled (pid : UInt32) (signal : Signal) (delivered : Bool)
  /-- The end of a process was taken note of, so that its number is free again. -/
  | reaped (pid : UInt32)
deriving Repr, DecidableEq, Inhabited

structure State (ω : Type) where
  system : ω
  /-- Whether events of the engine have somewhere to go. -/
  sink : Bool := false
  /-- Whether the engine has the capture of a redirect server. -/
  redirected : Bool := false
  ready : Bool := false
  paused : Bool := false
  debugee : Debugee := .none
  store : Breakpoint.Store := {}
  launches : List Launch := []
  monitors : List Monitor := []
  /-- The capture of the redirect server, if there is one. -/
  capture : Option Redirect.Capture := none
  trace : List Deed := []

namespace State

variable {ω : Type}

def add (s : State ω) (ds : List Deed) : State ω := { s with trace := s.trace ++ ds }

def setLaunch (s : State ω) (n : Nat) (l : Launch) : State ω :=
  { s with launches := s.launches.set n l }

def setMonitor (s : State ω) (n : Nat) (m : Monitor) : State ω :=
  { s with monitors := s.monitors.set n m }

def cancelMonitor (s : State ω) (n : Nat) : State ω :=
  match s.monitors[n]? with
  | some m => s.setMonitor n { m with cancelled := true }
  | Option.none => s

/-- The state with a program that was just started in hand. -/
def addLaunch (s : State ω) (pid : UInt32) : State ω :=
  { s with
    paused := false
    debugee := .launched pid s.launches.length
    launches := s.launches ++ [Launch.new pid s.sink s.redirected] }

/-- The state with a monitor for the process that was attached to. -/
def addMonitor (s : State ω) (pid : UInt32) : State ω :=
  { s with
    debugee := .attached pid (some s.monitors.length)
    monitors := s.monitors ++ [{ pid, sink := s.sink }] }

/-- Whether a launch was announced to have ended. -/
def hasExited (s : State ω) (launch : Nat) : Bool :=
  match s.launches[launch]? with
  | some l => l.exited
  | Option.none => true

/-- The process that the engine takes for alive. -/
def livePid? (s : State ω) : Option UInt32 :=
  match s.debugee with
  | .launched pid launch => if s.hasExited launch then Option.none else some pid
  | .attached pid _ => some pid
  | _ => Option.none

end State
end Supervisor
end DebugSession
