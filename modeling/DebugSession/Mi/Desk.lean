/-
What the machine interface does with a command: it drives the engine and keeps the program to start
and the breakpoint list.
-/
import DebugSession.Breakpoint.Book
import DebugSession.LaunchTarget
import DebugSession.Mi.Command
import DebugSession.Mi.Record

namespace DebugSession
namespace Mi

open Breakpoint (Book)

inductive Complaint where
  | noProgram
  | missingPath
  | missingPid
  | badPid (fault : Text.Decimal.Fault)
  | missingLocation
  | badLocation (text : String)
  | missingNumber
  | badNumber (text : String) (fault : Text.Decimal.Fault)
  | book (c : Book.Complaint)
  | engine (e : EngineError)
  | unknownCommand (name : String)
deriving Repr, DecidableEq, Inhabited

namespace Complaint

def message : Complaint → String
  | noProgram => "No executable specified, use -file-exec-and-symbols"
  | missingPath => "Missing executable path"
  | missingPid => "Missing process id"
  | badPid fault => "Invalid process id: " ++ fault.message
  | missingLocation => "Missing breakpoint location"
  | badLocation text => "Unknown breakpoint location format: " ++ text
  | missingNumber => "Missing breakpoint number"
  | badNumber text fault => "Invalid breakpoint number: " ++ text ++ ": " ++ fault.message
  | book c => c.message
  | engine e => e.chain
  | unknownCommand name => "Unknown command: " ++ name

end Complaint

structure Desk where
  /-- The program of the session's configuration. -/
  preset : Option LaunchTarget := none
  program : Option String := none
  args : Option (List String) := none
  book : Book := {}
deriving Repr, DecidableEq, Inhabited

namespace Desk

/-- The program to start.  The configured arguments belong to the configured program only. -/
def launchTarget? (d : Desk) : Option LaunchTarget := do
  let program ← d.program <|> d.preset.map LaunchTarget.program
  let args := match d.args, d.program, d.preset with
    | some args, _, _ => args
    | none, none, some preset => preset.args
    | _, _, _ => []
  return { program, args }

def splitAtLastColon (s : String) : Option (String × String) :=
  let reversed := s.toList.reverse
  match reversed.dropWhile (· ≠ ':') with
  | [] => none
  | _ :: front =>
    some (String.ofList front.reverse, String.ofList (reversed.takeWhile (· ≠ ':')).reverse)

/-- A file and a line with a colon between them. -/
def location? (s : String) : Option (String × UInt32) := do
  let (file, line) ← splitAtLastColon s
  let line ← (Text.Decimal.parseU32 line).toOption
  return (file, line)

def isOption (arg : String) : Bool := arg.toList.head? == some '-'

variable {σ : Type}

/-- What a command comes to, and the new state. -/
abbrev Outcome := Except Complaint Reply × Desk

/-- Makes calls that all have to succeed. -/
def drive (E : Engine σ) (d : Desk) (calls : List Call) (reply : Reply) :
    StateM (Talk σ) Outcome := do
  match ← E.tellAll calls with
  | .ok _ => return (.ok reply, d)
  | .error e => return (.error (.engine e), d)

def setProgram (d : Desk) : List String → Outcome
  | [] => (.error .missingPath, d)
  | path :: _ => (.ok (.done []), { d with program := some path })

def run (E : Engine σ) (d : Desk) : StateM (Talk σ) Outcome :=
  match d.launchTarget? with
  | none => return (.error .noProgram, d)
  | some t => d.drive E [.launch t.program t.args, .configurationDone] .running

def attach (E : Engine σ) (d : Desk) : List String → StateM (Talk σ) Outcome
  | [] => return (.error .missingPid, d)
  | arg :: _ =>
    match Text.Decimal.parseU32 arg with
    | .error fault => return (.error (.badPid fault), d)
    | .ok pid => d.drive E [.setUp, .attach pid, .configurationDone] (.done [])

/-- Options are accepted and have no effect. -/
def insertBreakpoint (E : Engine σ) (d : Desk) (args : List String) : StateM (Talk σ) Outcome :=
  match args.find? fun arg => !isOption arg with
  | none => return (.error .missingLocation, d)
  | some arg =>
    match location? arg with
    | none => return (.error (.badLocation arg), d)
    | some (file, line) => do
      let (result, book) ← d.book.insert E file line
      match result with
      | .ok bp => return (.ok (.done [("bkpt", breakpointValue bp)]), { d with book })
      | .error c => return (.error (.book c), { d with book })

/-- Deletes breakpoints one after the other up to the first that cannot be deleted. -/
def deleteAll (E : Engine σ) : List String → Book →
    StateM (Talk σ) (Except Complaint Unit × Book)
  | [], book => return (.ok (), book)
  | arg :: args, book =>
    match Text.Decimal.parseU32 arg with
    | .error fault => return (.error (.badNumber arg fault), book)
    | .ok id => do
      let (result, book) ← book.remove E id
      match result with
      | .ok _ => deleteAll E args book
      | .error c => return (.error (.book c), book)

def deleteBreakpoints (E : Engine σ) (d : Desk) (args : List String) : StateM (Talk σ) Outcome := do
  if args.isEmpty then return (.error .missingNumber, d)
  let (result, book) ← deleteAll E args d.book
  return (result.map fun _ => .done [], { d with book })

def breakpointTable (book : Book) : Reply :=
  .done [("BreakpointTable", .tuple
    [("nr_rows", .text (Text.Decimal.render book.entries.length)),
      ("body", .list (book.entries.map fun bp => ("bkpt", breakpointValue bp)))])]

def listThreads (E : Engine σ) (d : Desk) : StateM (Talk σ) Outcome := do
  match ← E.ask .threads with
  | .ok threads => return (.ok (.done [("threads", .values (List.map threadValue threads))]), d)
  | .error e => return (.error (.engine e), d)

def perform (E : Engine σ) (d : Desk) (op : Operation) (args : List String) :
    StateM (Talk σ) Outcome :=
  match op with
  | .setProgram => return d.setProgram args
  | .setArguments => return (.ok (.done []), { d with args := some args })
  | .run => d.run E
  | .attach => d.attach E args
  | .resume => d.drive E [.resume] .running
  | .pause => d.drive E [.pause] (.done [])
  | .next => d.drive E [.step .over] .running
  | .step => d.drive E [.step .into] .running
  | .finish => d.drive E [.step .out] .running
  | .insertBreakpoint => d.insertBreakpoint E args
  | .deleteBreakpoints => d.deleteBreakpoints E args
  | .listBreakpoints => return (.ok (breakpointTable d.book), d)
  | .listThreads => d.listThreads E
  | .exit => d.drive E [.disconnect true] .exit

def handle (E : Engine σ) (d : Desk) (cmd : Command) : StateM (Talk σ) Outcome :=
  match Operation.ofName? cmd.operation with
  | some op => d.perform E op cmd.args
  | none => return (.error (.unknownCommand cmd.operation), d)

end Desk
end Mi
end DebugSession
