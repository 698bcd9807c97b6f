/-
What the command line does with a command: it drives the engine and keeps the program to start and
the breakpoint list.
-/
import DebugSession.Breakpoint.Book
import DebugSession.Cli.Command
import DebugSession.Cli.Text
import DebugSession.LaunchTarget

namespace DebugSession
namespace Cli

open Breakpoint (Book)

inductive Complaint where
  | noProgram
  | unknownTopic (name : String)
  | book (c : Book.Complaint)
  | engine (e : EngineError)
deriving Repr, DecidableEq, Inhabited

namespace Complaint

def message : Complaint → String
  | noProgram => "no program to run, use `file <path>`"
  | unknownTopic name => "unknown command `" ++ name ++ "`, type help for list of commands"
  | book c => c.message
  | engine e => e.chain

end Complaint

inductive Reply where
  | text (s : String)
  | silent
  | quit
deriving Repr, DecidableEq, Inhabited

structure Desk where
  /-- The program of the session's configuration. -/
  preset : Option LaunchTarget := none
  /-- The program that the user chose. -/
  chosen : Option LaunchTarget := none
  book : Book := {}
deriving Repr, DecidableEq, Inhabited

namespace Desk

def launchTarget? (d : Desk) : Option LaunchTarget := d.chosen <|> d.preset

variable {σ : Type}

/-- What a command comes to, and the new state. -/
abbrev Outcome := Except Complaint Reply × Desk

/-- Makes calls that all have to succeed. -/
def drive (E : Engine σ) (d : Desk) (calls : List Call) (reply : Reply) :
    StateM (Talk σ) Outcome := do
  match ← E.tellAll calls with
  | .ok _ => return (.ok reply, d)
  | .error e => return (.error (.engine e), d)

def run (E : Engine σ) (d : Desk) : StateM (Talk σ) Outcome :=
  match d.launchTarget? with
  | none => return (.error .noProgram, d)
  | some t => d.drive E [.launch t.program t.args, .configurationDone] .silent

def addBreakpoint (E : Engine σ) (d : Desk) (file : String) (line : UInt32) :
    StateM (Talk σ) Outcome := do
  let (result, book) ← d.book.insert E file line
  let d := { d with book }
  match result with
  | .ok bp => return (.ok (.text (breakpointLine bp)), d)
  | .error c => return (.error (.book c), d)

def removeBreakpoint (E : Engine σ) (d : Desk) (id : UInt32) : StateM (Talk σ) Outcome := do
  let (result, book) ← d.book.remove E id
  let d := { d with book }
  match result with
  | .ok bp => return (.ok (.text (removedLine bp)), d)
  | .error c => return (.error (.book c), d)

def breakpointList (book : Book) : Reply :=
  if book.entries.isEmpty then .text "No breakpoints"
  else .text (lines (book.entries.map breakpointLine))

def listThreads (E : Engine σ) (d : Desk) : StateM (Talk σ) Outcome := do
  match ← E.ask .threads with
  | .ok threads => return (.ok (.text (lines (List.map threadLine threads))), d)
  | .error e => return (.error (.engine e), d)

def help (topic : Option String) : Except Complaint Reply :=
  match helpText? topic with
  | some text => .ok (.text text)
  | none => .error (.unknownTopic (topic.getD ""))

def handle (E : Engine σ) (d : Desk) : Command → StateM (Talk σ) Outcome
  | .file program args =>
    return (.ok (.text ("Program set to " ++ program)), { d with chosen := some { program, args } })
  | .run => d.run E
  | .attach pid =>
    d.drive E [.setUp, .attach pid, .configurationDone]
      (.text ("Attached to process " ++ Text.Decimal.render pid.toNat))
  | .resume => d.drive E [.resume] .silent
  | .next => d.drive E [.step .over] .silent
  | .step => d.drive E [.step .into] .silent
  | .finish => d.drive E [.step .out] .silent
  | .interrupt => d.drive E [.pause] .silent
  | .breakAdd file line => d.addBreakpoint E file line
  | .breakRemove id => d.removeBreakpoint E id
  | .breakInfo => return (.ok (breakpointList d.book), d)
  | .threadInfo => d.listThreads E
  | .help topic => return (help topic, d)
  | .quit => d.drive E [.disconnect true] .quit

end Desk
end Cli
end DebugSession
