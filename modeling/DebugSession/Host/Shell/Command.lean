/-
The commands of the shell, one at a time.
-/
import DebugSession.Host.Filter
import DebugSession.Host.Plan
import DebugSession.Host.Shell.Expansion

namespace DebugSession
namespace Host
namespace Shell

open Text (Bytes)

/-- What a command comes to: its output, the frame after it with its status, and an end of the whole
script. -/
structure Outcome where
  stdout : Bytes := []
  stderr : Bytes := []
  frame : Frame
  ending : Option Ending := none
  /-- It takes a while, in which its streams are open. -/
  holds : Bool := false
  /-- What it leaves in the background takes a while. -/
  lingers : Bool := false

namespace Outcome

def status (frame : Frame) (n : Nat) : Outcome := { frame := { frame with status := n } }

def ofBool (frame : Frame) (b : Bool) : Outcome := status frame (if b then 0 else 1)

def ends (frame : Frame) (e : Ending) : Outcome := { frame, ending := some e }

end Outcome

def signalNames : List (String × Nat) :=
  [("HUP", 1), ("INT", 2), ("QUIT", 3), ("ILL", 4), ("TRAP", 5), ("ABRT", 6), ("BUS", 7),
    ("FPE", 8), ("KILL", 9), ("USR1", 10), ("SEGV", 11), ("USR2", 12), ("PIPE", 13),
    ("ALRM", 14), ("TERM", 15)]

/-- A signal given by its number or its name. -/
def signal? (s : String) : Option Nat :=
  match Text.Decimal.parse 65 s.toList with
  | .ok n => some n
  | .error _ => signalNames.lookup s

/-- Signals that do not end a program. -/
def isHarmless (n : Nat) : Bool := [0, 17, 18, 23, 28].contains n

/-- Sleeps that are over before anybody waits for them. -/
def isShort (duration : String) : Bool :=
  Text.Decimal.value (duration.toList.takeWhile Text.Decimal.isDigit) < 5

def killSelf (frame : Frame) (signal target : String) : Outcome :=
  if target ≠ Text.Decimal.render frame.pid then .status frame 1
  else
    match signal? signal with
    | none => .status frame 1
    | some n =>
      if isHarmless n || frame.ignored.contains n then .status frame 0
      else .ends frame (.signal n)

/-- From now on these signals have no effect; nothing is immune to a kill. -/
def ignore (frame : Frame) (signals : List String) : Outcome :=
  let numbers := (signals.filterMap signal?).filter fun n => n != 9
  .status { frame with ignored := numbers ++ frame.ignored } 0

def exitWith (frame : Frame) : List String → Outcome
  | [] => .ends frame (.code frame.status)
  | arg :: _ =>
    match Text.Decimal.parse 0x80000000 arg.toList with
    | .ok n => .ends frame (.code (n % 256))
    | .error _ => .ends frame (.code 2)

/-- Compares the numbers that two texts hold. -/
def compare? (op a b : String) : Option Bool := do
  let number := fun (s : String) => match s.toList with
    | '-' :: ds => (Text.Decimal.scan 0x8000000000000000 0 ds).toOption.map fun n => -(n : Int)
    | ds => (Text.Decimal.scan 0x8000000000000000 0 ds).toOption.map fun n => (n : Int)
  let a ← number a
  let b ← number b
  match op with
  | "-eq" => some (a = b)
  | "-ne" => some (a ≠ b)
  | "-lt" => some (a < b)
  | "-le" => some (a ≤ b)
  | "-gt" => some (b < a)
  | "-ge" => some (b ≤ a)
  | _ => none

/-- Whether a condition holds, none if it cannot be understood. -/
def test? : List String → Option Bool
  | [] => some false
  | [s] => some (!s.isEmpty)
  | ["!", s] => some s.isEmpty
  | ["-n", s] => some (!s.isEmpty)
  | ["-z", s] => some s.isEmpty
  | [a, "=", b] => some (a = b)
  | [a, "!=", b] => some (a ≠ b)
  | [a, op, b] => compare? op a b
  | _ => none

def runTest (frame : Frame) (args : List String) : Outcome :=
  match test? args with
  | some b => .ofBool frame b
  | none => .status frame 2

/-- Puts the next line of the input into a variable. -/
def readLine (frame : Frame) (name : String) : Outcome :=
  let line := frame.input.takeWhile (· != 0x0A)
  let rest := frame.input.dropWhile (· != 0x0A)
  let frame := { frame with input := rest.drop 1 }.setVariable name (Text.Utf8.lossy line)
  .ofBool frame (!rest.isEmpty)

/-- The name of a program without the directories of programs in front of it. -/
def programName (name : String) : String :=
  match ["/usr/bin/", "/bin/"].find? fun d => d.toList.isPrefixOf name.toList with
  | some d => String.ofList (name.toList.drop d.length)
  | none => name

def writes (frame : Frame) (bytes : Bytes) : Outcome :=
  { stdout := bytes, frame := { frame with status := 0 } }

/-- Runs a command whose name stands for no program of its own. -/
def runProgram (frame : Frame) (name : String) (args : List String) : Outcome :=
  match filter? (programName name) args frame.input with
  | some bytes => { writes frame bytes with frame := { frame with status := 0, input := [] } }
  | none =>
    { stderr := Text.Utf8.encode (frame.name ++ ": 1: " ++ name ++ ": not found\n"),
      frame := { frame with status := 127 } }

def runCommand (frame : Frame) (words : List String) : Outcome :=
  match words with
  | [] => .status frame 0
  | ":" :: _ => .status frame 0
  | "exit" :: args => exitWith frame args
  | "test" :: args => runTest frame args
  | "[" :: args =>
    if args.getLast? = some "]" then runTest frame args.dropLast else .status frame 2
  | "read" :: args => readLine frame ((args.filter (· != "-r")).head?.getD "REPLY")
  | ["kill", "-s", signal, target] => killSelf frame signal target
  | ["kill", signal, target] => killSelf frame (String.ofList (signal.toList.drop 1)) target
  | ["kill", target] => killSelf frame "TERM" target
  | "trap" :: "" :: signals => ignore frame signals
  | "shift" :: _ => .status { frame with args := frame.args.drop 1 } 0
  | name :: args =>
    match programName name with
    | "true" => .status frame 0
    | "set" => .status frame 0
    | "trap" => .status frame 0
    | "wait" => .status frame 0
    | "false" => .status frame 1
    | "echo" => writes frame (echo true args)
    | "sleep" =>
      if args.head?.all isShort then { Outcome.status frame 0 with holds := true }
      else .ends frame .never
    | _ => runProgram frame name args

end Shell
end Host
end DebugSession
