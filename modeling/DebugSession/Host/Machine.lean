/-
A small machine: it runs a few programs, and its processes can be signalled.
-/
import DebugSession.Host.Files
import DebugSession.Host.Shell
import DebugSession.Supervisor.System

namespace DebugSession
namespace Host

open Supervisor (Signal SpawnFailure System)

/-- What is left of a process. -/
inductive Life where
  | running
  | killed
  /-- Nobody waits for its end any more. -/
  | gone
deriving Repr, DecidableEq, Inhabited

structure Child where
  pid : UInt32
  plan : Plan
  life : Life := .running
deriving Repr, DecidableEq, Inhabited

structure Machine where
  children : List Child := []
deriving Repr, DecidableEq, Inhabited

namespace Machine

/-- The first number of a process that the machine starts. -/
def firstPid : UInt32 := 5000001

def nextPid (m : Machine) : UInt32 := firstPid + UInt32.ofNat m.children.length

def child? (m : Machine) (pid : UInt32) : Option Child := m.children.find? fun c => c.pid == pid

def setLife (m : Machine) (pid : UInt32) (life : Life) : Machine :=
  { m with children := m.children.map fun c => if c.pid = pid then { c with life } else c }

/-- The first process of the machine is always there. -/
def isPresent (m : Machine) (pid : UInt32) : Bool :=
  pid = 1 || (m.child? pid).any fun c => c.life != .gone

def probe (m : Machine) (pid : UInt32) : Except Errno Unit :=
  if m.isPresent pid then .ok () else .error .srch

def signal (m : Machine) (pid : UInt32) (s : Signal) : Except Errno Unit × Machine :=
  match m.probe pid with
  | .error e => (.error e, m)
  | .ok _ =>
    match s, m.child? pid with
    | .kill, some c => (.ok (), if c.life = .running then m.setLife pid .killed else m)
    | _, _ => (.ok (), m)

/-- The name of a program in its directory. -/
def baseName (path : String) : String := (resolvePath path).getLast?.getD ""

/-- What the shell does with its arguments. -/
def shellPlan (program : String) (pid : Nat) : List String → Plan
  | "-c" :: script :: name :: args => Shell.plan name args pid script
  | ["-c", script] => Shell.plan program [] pid script
  | file :: _ =>
    { stderr := Text.Utf8.encode (program ++ ": 0: cannot open " ++ file ++ ": No such file\n"),
      ending := .code 2 }
  | [] => {}

def sleepPlan (program : String) : List String → Plan
  | duration :: _ => if Shell.isShort duration then {} else { ending := .never }
  | [] =>
    { stderr := Text.Utf8.encode (program ++ ": missing operand\nTry '" ++ program ++
        " --help' for more information.\n"),
      ending := .code 1 }

def plan (program : String) (args : List String) (pid : Nat) : Plan :=
  match baseName program with
  | "sh" => shellPlan program pid args
  | "dash" => shellPlan program pid args
  | "sleep" => sleepPlan program args
  | "false" => { ending := .code 1 }
  | "echo" => { stdout := echo false args }
  | _ => {}

/-- Starts a program that is there and can be run. -/
def spawn (m : Machine) (program : String) (args : List String) :
    Except SpawnFailure UInt32 × Machine :=
  match lookup? program with
  | some .program =>
    let pid := m.nextPid
    (.ok pid, { children := m.children ++ [{ pid, plan := plan program args pid.toNat }] })
  | some _ => (.error (.start permissionDenied), m)
  | none => (.error (.start noSuchFile), m)

def notFound : String := "cannot find binary path"

def which (_ : Machine) (program : String) : Except String String :=
  match findProgram? program with
  | some path => .ok path
  | none => .error notFound

def system : System Machine where
  probe := probe
  signal := signal
  spawn := spawn
  pathExists _ path := (lookup? path).isSome
  which := which

/-- The code with which the waiter of a process learns of its end, none if it goes on. -/
def endOf (c : Child) : Option Int :=
  match c.life, c.plan.ending with
  | .running, .code n => some n
  | .running, .signal n => some (128 + n)
  | .running, .never => none
  | _, _ => some 137

end Machine
end Host
end DebugSession
