/-
The breakpoint list of a line oriented front end.  The engine replaces breakpoints file by file, so
every change sends all lines of the file it touches, and the book takes over what the engine
answers.
-/
import DebugSession.Engine

namespace DebugSession
namespace Breakpoint

open Text.Decimal (render)

/-- Breakpoints in the order of their numbers. -/
structure Book where
  entries : List Breakpoint := []
deriving Repr, DecidableEq, Inhabited

namespace Book

/-- Why the book cannot be changed as asked. -/
inductive Complaint where
  | engine (e : EngineError)
  /-- The engine answered without a breakpoint at this place. -/
  | rejected (file : String) (line : UInt32)
  | unknownNumber (id : UInt32)
deriving Repr, DecidableEq, Inhabited

namespace Complaint

def message : Complaint → String
  | engine e => e.chain
  | rejected file line => "engine rejected breakpoint at " ++ file ++ ":" ++ render line.toNat
  | unknownNumber id => "no breakpoint number " ++ render id.toNat

end Complaint

/-- The lines of a file that have a breakpoint. -/
def linesOf (b : Book) (file : String) : List UInt32 :=
  (b.entries.filter fun bp => bp.file == file).map Breakpoint.line

/-- The book with the breakpoints of a file replaced. -/
def replaceFile (b : Book) (file : String) (updated : List Breakpoint) : Book :=
  let others := b.entries.filter fun bp => bp.file != file
  ⟨(others ++ updated).mergeSort fun x y => x.id ≤ y.id⟩

def find? (b : Book) (id : UInt32) : Option Breakpoint := b.entries.find? fun bp => bp.id == id

def findAt? (b : Book) (file : String) (line : UInt32) : Option Breakpoint :=
  b.entries.find? fun bp => bp.file == file && bp.line == line

variable {σ : Type}

/-- Sends the lines of a file to the engine.  The book changes only if the engine answers. -/
def sync (E : Engine σ) (b : Book) (file : String) (lines : List UInt32) :
    StateM (Talk σ) (Except Complaint Book) := do
  match ← E.ask (.setBreakpoints file lines) with
  | .ok updated => return .ok (b.replaceFile file updated)
  | .error e => return .error (.engine e)

/-- Adds a breakpoint; the answer is the engine's view of it. -/
def insert (E : Engine σ) (b : Book) (file : String) (line : UInt32) :
    StateM (Talk σ) (Except Complaint Breakpoint × Book) := do
  match ← b.sync E file (b.linesOf file ++ [line]) with
  | .error e => return (.error e, b)
  | .ok b =>
    match b.findAt? file line with
    | some bp => return (.ok bp, b)
    | none => return (.error (.rejected file line), b)

/-- Takes a breakpoint off; the answer is what it was. -/
def remove (E : Engine σ) (b : Book) (id : UInt32) :
    StateM (Talk σ) (Except Complaint Breakpoint × Book) := do
  match b.find? id with
  | none => return (.error (.unknownNumber id), b)
  | some bp =>
    let lines := (b.linesOf bp.file).filter fun line => line != bp.line
    match ← b.sync E bp.file lines with
    | .error e => return (.error e, b)
    | .ok b => return (.ok bp, b)

end Book
end Breakpoint
end DebugSession
