/-
A small shell: it runs a script in one go.
-/
import DebugSession.Host.Shell.Command
import DebugSession.Host.Shell.Script

namespace DebugSession
namespace Host
namespace Shell

open Text (Bytes)

/-- Where a stream goes. -/
inductive Destination where
  | stdout
  | stderr
  | nowhere
deriving Repr, DecidableEq, Inhabited

/-- Where the two output streams go, and what the input is. -/
structure Streams where
  first : Destination := .stdout
  second : Destination := .stderr
  input : Option Bytes := none

namespace Streams

def get (s : Streams) (stream : Nat) : Destination :=
  match stream with
  | 1 => s.first
  | 2 => s.second
  | _ => .nowhere

def set (s : Streams) (stream : Nat) (d : Destination) : Streams :=
  match stream with
  | 1 => { s with first := d }
  | 2 => { s with second := d }
  | _ => s

/-- Takes a redirection into account; what is written to files is lost. -/
def redirect (expandFile : Word → String) (s : Streams) : Redirection → Streams
  | .duplicate stream target => s.set stream (s.get target)
  | .write stream _ => s.set stream .nowhere
  | .read file => { s with input := some ((contents? (expandFile file)).getD []) }

/-- What goes to a destination. -/
def collect (s : Streams) (o : Outcome) (d : Destination) : Bytes :=
  (if s.first = d then o.stdout else []) ++ (if s.second = d then o.stderr else [])

def apply (s : Streams) (o : Outcome) : Outcome :=
  { o with
    stdout := s.collect o .stdout
    stderr := s.collect o .stderr
    holds := o.holds && (s.first != .nowhere || s.second != .nowhere) }

end Streams

namespace Outcome

/-- Goes on after an outcome, unless the script is at its end. -/
def andThen (o : Outcome) (next : Frame → Outcome) : Outcome :=
  if o.ending.isSome then o
  else
    let later := next o.frame
    { later with
      stdout := o.stdout ++ later.stdout
      stderr := o.stderr ++ later.stderr
      holds := o.holds || later.holds
      lingers := o.lingers || later.lingers }

/-- The status with which a script ends that cannot change the one around it. -/
def apart (frame : Frame) (o : Outcome) : Outcome :=
  match o.ending with
  | some (.code n) => { o with frame := { frame with status := n }, ending := none }
  | some _ => o
  | none => { o with frame := { frame with status := o.frame.status, input := o.frame.input } }

/-- What is left in the background. -/
def behind (frame : Frame) (o : Outcome) : Outcome :=
  { o.apart frame with holds := false, lingers := o.holds || o.lingers }

def negate (o : Outcome) : Outcome :=
  { o with frame := { o.frame with status := if o.frame.status = 0 then 1 else 0 } }

/-- The output as a text for the words of a script, without the ends of its last lines. -/
def captured (o : Outcome) : String :=
  Text.Utf8.lossy (Text.dropLastWhile (· == 0x0A) o.stdout)

end Outcome

/-- Runs a script that takes at most so many steps inside one another.  One that takes more does not
end for a long time. -/
def run : Nat → Frame → Script → Outcome
  | 0, frame, _ => .ends frame .never
  | fuel + 1, frame, script =>
    let capture := fun text => match Script.parse text with
      | some s => (run fuel frame s).captured
      | none => ""
    match script with
    | .nothing => .status frame frame.status
    | .simple assignments words =>
      let frame := assignments.foldl
        (fun f (name, w) => f.setVariable name (expandWhole capture f w)) frame
      match words.flatMap (expand capture frame) with
      | "exec" :: command =>
        if command.isEmpty then .status frame 0
        else (runCommand frame command).andThen fun f => .ends f (.code f.status)
      | command => runCommand frame command
    | .redirected s rs =>
      let streams := rs.foldl (Streams.redirect (expandWhole capture frame)) {}
      streams.apply (run fuel { frame with input := streams.input.getD frame.input } s)
    | .next a b => (run fuel frame a).andThen fun f => run fuel f b
    | .onSuccess a b =>
      (run fuel frame a).andThen fun f => if f.status = 0 then run fuel f b else .status f f.status
    | .onFailure a b =>
      (run fuel frame a).andThen fun f => if f.status = 0 then .status f 0 else run fuel f b
    | .pipe a b =>
      let first := (run fuel frame a).apart frame
      if first.ending.isSome then first
      else
        let second := (run fuel { frame with input := first.stdout } b).apart frame
        { second with
          stderr := first.stderr ++ second.stderr
          holds := first.holds || second.holds
          lingers := first.lingers || second.lingers }
    | .negated s =>
      let o := run fuel frame s
      if o.ending.isSome then o else o.negate
    | .apart s => (run fuel frame s).apart frame
    | .background s => (run fuel frame s).behind frame
    | .loop succeeds condition body =>
      (run fuel frame condition).andThen fun f =>
        if (f.status == 0) != succeeds then .status f 0
        else (run fuel f body).andThen fun f => run fuel f (.loop succeeds condition body)
    | .forEach name words body =>
      runEach (run fuel) name body (words.flatMap (expand capture frame)) frame
    | .choice condition yes no =>
      (run fuel frame condition).andThen fun f =>
        if f.status = 0 then run fuel f yes else run fuel { f with status := 0 } no
where
  /-- Runs a script once for each value of a variable. -/
  runEach (run : Frame → Script → Outcome) (name : String) (body : Script) :
      List String → Frame → Outcome
    | [], frame => .status frame frame.status
    | value :: values, frame =>
      (run (frame.setVariable name value) body).andThen fun f => runEach run name body values f

/-- How many steps of a script may stand inside one another. -/
def greatestDepth : Nat := 20000

def plan (name : String) (args : List String) (pid : Nat) (script : String) : Plan :=
  match Script.parse script.toList with
  | none => { stderr := Text.Utf8.encode (name ++ ": 1: Syntax error\n"), ending := .code 2 }
  | some s =>
    let o := run greatestDepth { name, args, pid } s
    { stdout := o.stdout, stderr := o.stderr, ending := o.ending.getD (.code o.frame.status),
      lingers := o.lingers }

end Shell
end Host
end DebugSession
