/-
Input lines of the machine interface: `[token]-operation [arg ...]`.
-/
import DebugSession.Mi.Quoted
import DebugSession.Text.Blank
import DebugSession.Text.Decimal

namespace DebugSession
namespace Mi

open Text (isBlank)
open Text.Decimal (isDigit numeral)

structure Command where
  token : Option UInt64
  operation : String
  args : List String
deriving Repr, DecidableEq, Inhabited

namespace Command

/-- A token that is there has to fit a word. -/
def readToken (cs : List Char) : Option (Option UInt64 × List Char) :=
  match numeral cs with
  | ([], rest) => some (none, rest)
  | (ds, rest) =>
    let n := Text.Decimal.value ds
    if n < UInt64.size then some (some (UInt64.ofNat n), rest) else none

def isOperationChar (c : Char) : Bool := c.isAlphanum || c == '-' || c == '_'

def readOperation : List Char → Option (List Char × List Char)
  | '-' :: rest =>
    match rest.takeWhile isOperationChar with
    | [] => none
    | name => some (name, rest.dropWhile isOperationChar)
  | _ => none

/-- Where a reader of arguments stands: between two, or in one whose last character comes first. -/
inductive Place where
  | between
  | bare (held : List Char)
  | quoted (held : List Char)

/-- The arguments in the rest of a line.  One ends where the next character cannot belong to it,
white space or not. -/
def readArgs : Place → List Char → Option (List (List Char))
  | .between, [] => some []
  | .between, c :: cs =>
    if isBlank c then readArgs .between cs
    else if c = '"' then readArgs (.quoted []) cs
    else readArgs (.bare [c]) cs
  | .bare held, [] => some [held.reverse]
  | .bare held, c :: cs =>
    if isBlank c then (held.reverse :: ·) <$> readArgs .between cs
    else if c = '"' then (held.reverse :: ·) <$> readArgs (.quoted []) cs
    else readArgs (.bare (c :: held)) cs
  | .quoted _, [] => none
  | .quoted held, '"' :: cs => (held.reverse :: ·) <$> readArgs .between cs
  | .quoted held, '\\' :: e :: cs =>
    match Quoted.unescapeChar e with
    | some c => readArgs (.quoted (c :: held)) cs
    | none => none
  | .quoted _, ['\\'] => none
  | .quoted held, c :: cs => readArgs (.quoted (c :: held)) cs

/-- Reads a line, none if it has not the form of one. -/
def parse (line : String) : Option Command := do
  let (token, rest) ← readToken (Text.trimBlank line.toList)
  let (name, rest) ← readOperation rest
  let args ← readArgs .between rest
  return { token, operation := String.ofList name, args := args.map String.ofList }

/-- The digits at the start of a line, which mark its answer even if the line cannot be read. -/
def leadingDigits (line : String) : String :=
  String.ofList ((Text.skipBlank line.toList).takeWhile isDigit)

end Command

inductive Operation where
  | setProgram
  | setArguments
  | run
  | attach
  | resume
  | pause
  | next
  | step
  | finish
  | insertBreakpoint
  | deleteBreakpoints
  | listBreakpoints
  | listThreads
  | exit
deriving Repr, DecidableEq, Inhabited

namespace Operation

def all : List Operation :=
  [setProgram, setArguments, run, attach, resume, pause, next, step, finish, insertBreakpoint,
    deleteBreakpoints, listBreakpoints, listThreads, exit]

def name : Operation → String
  | setProgram => "file-exec-and-symbols"
  | setArguments => "exec-arguments"
  | run => "exec-run"
  | attach => "target-attach"
  | resume => "exec-continue"
  | pause => "exec-interrupt"
  | next => "exec-next"
  | step => "exec-step"
  | finish => "exec-finish"
  | insertBreakpoint => "break-insert"
  | deleteBreakpoints => "break-delete"
  | listBreakpoints => "break-list"
  | listThreads => "thread-info"
  | exit => "gdb-exit"

def ofName? (s : String) : Option Operation := all.find? fun op => op.name == s

theorem ofName?_name (op : Operation) : ofName? op.name = some op := by
  cases op <;> decide

end Operation
end Mi
end DebugSession
