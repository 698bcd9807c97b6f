/-
Log records and their levels.
-/
import DebugSession.Text.Blank

namespace DebugSession
namespace Log

inductive Level where
  | error
  | warn
  | info
  | debug
  | trace
deriving Repr, DecidableEq, Inhabited

namespace Level

/-- Higher ranks are more detailed. -/
def rank : Level → Nat
  | error => 1
  | warn => 2
  | info => 3
  | debug => 4
  | trace => 5

def name : Level → String
  | error => "ERROR"
  | warn => "WARN"
  | info => "INFO"
  | debug => "DEBUG"
  | trace => "TRACE"

end Level

/-- The most detailed level that passes, none if nothing does. -/
abbrev Filter := Option Level

namespace Filter

def rank (f : Filter) : Nat := (f.map Level.rank).getD 0

def name (f : Filter) : String := (f.map Level.name).getD "OFF"

/-- Whether records of a level pass. -/
def allows (f : Filter) (l : Level) : Bool := l.rank ≤ f.rank

/-- The less strict of two filters. -/
def join (f g : Filter) : Filter := if f.rank ≤ g.rank then g else f

end Filter

structure Record where
  level : Level
  target : String
  /-- The part of the program that wrote the record. -/
  origin : Option String := none
  text : String
deriving Repr, DecidableEq, Inhabited

namespace Record

/-- The line of a record in an engine log. -/
def line (r : Record) : String :=
  let origin := match r.origin with
    | some origin => origin ++ " "
    | none => ""
  "[" ++ r.level.name ++ "] " ++ origin ++ r.text ++ "\n"

end Record
end Log
end DebugSession
