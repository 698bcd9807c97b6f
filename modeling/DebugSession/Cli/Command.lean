/-
Commands of the command line.  A command is tried word by word against each form in turn; the words
of a form may be spelled without white space behind them.
-/
import DebugSession.Text.Blank
import DebugSession.Text.Decimal
import DebugSession.Text.Identifier

namespace DebugSession
namespace Cli

open Text (isBlank skipBlank trimBlank)
open Text.Identifier (Alphabet)

inductive Command where
  | file (program : String) (args : List String)
  | run
  | attach (pid : UInt32)
  | resume
  | next
  | step
  | finish
  | interrupt
  | breakAdd (file : String) (line : UInt32)
  | breakRemove (id : UInt32)
  | breakInfo
  | threadInfo
  | help (topic : Option String)
  | quit
deriving Repr, DecidableEq, Inhabited

namespace Command

inductive Fault where
  | empty
  /-- A number is too large where nothing but a number can stand. -/
  | tooLarge (digits : String)
  | malformed
deriving Repr, DecidableEq, Inhabited

namespace Fault

def message : Fault → String
  | empty => "type help for list of commands"
  | tooLarge digits => "invalid number " ++ digits ++ ": " ++ Text.Decimal.Fault.tooLarge.message
  | malformed => "<syntax error>"

end Fault

end Command

/-- What a form makes of a text. -/
inductive Attempt (α : Type) where
  | matched (a : α) (rest : List Char)
  | failed
  | tooLarge (digits : List Char)
deriving Repr

namespace Attempt

variable {α β : Type}

def map (f : α → β) : Attempt α → Attempt β
  | matched a rest => matched (f a) rest
  | failed => failed
  | tooLarge digits => tooLarge digits

/-- The rest has to be used up. -/
def atEnd : Attempt α → Attempt α
  | matched a [] => matched a []
  | matched _ _ => failed
  | a => a

/-- A number that is too large counts as any other failure. -/
def lenient : Attempt α → Attempt α
  | tooLarge _ => failed
  | a => a

/-- The first attempt unless it fails. -/
def orElse (a : Attempt α) (b : Unit → Attempt α) : Attempt α :=
  match a with
  | failed => b ()
  | a => a

end Attempt

namespace Form

/-- A word with white space around it: what follows them. -/
def word? (w : String) (cs : List Char) : Option (List Char) :=
  let cs := skipBlank cs
  if w.toList.isPrefixOf cs then some (skipBlank (cs.drop w.length)) else none

/-- One of two spellings of a word, the first if both stand there. -/
def spelled? (long short : String) (cs : List Char) : Option (List Char) :=
  word? long cs <|> word? short cs

/-- A form that is one word. -/
def constant (c : Command) (rest : Option (List Char)) : Attempt Command :=
  match rest with
  | some rest => .matched c rest
  | none => .failed

/-- A number that fits a word of 32 bits, with the white space before it. -/
def number (cs : List Char) : Attempt UInt32 :=
  match Text.Decimal.numeral (skipBlank cs) with
  | ([], _) => .failed
  | (ds, rest) =>
    let n := Text.Decimal.value ds
    if n < UInt32.size then .matched (UInt32.ofNat n) (skipBlank rest) else .tooLarge ds

/-- The words of a text, as white space separates them; `held` is the word so far, the last
character first. -/
def words (held : List Char) : List Char → List String
  | [] => if held.isEmpty then [] else [String.ofList held.reverse]
  | c :: cs =>
    if isBlank c then
      if held.isEmpty then words [] cs else String.ofList held.reverse :: words [] cs
    else words (c :: held) cs

def file (cs : List Char) : Attempt Command :=
  match word? "file" cs with
  | none => .failed
  | some rest =>
    match words [] rest with
    | [] => .failed
    | program :: args => .matched (.file program args) []

def attach (cs : List Char) : Attempt Command :=
  match word? "attach" cs with
  | none => .failed
  | some rest => (number rest).map .attach

/-- A file and a line with a colon between them.  The line follows its colon at once. -/
def location (cs : List Char) : Attempt Command :=
  let cs := skipBlank cs
  match cs.takeWhile (· ≠ ':'), cs.dropWhile (· ≠ ':') with
  | [], _ => .failed
  | _, [] => .failed
  | file, _ :: rest =>
    if rest.head?.any isBlank then .failed
    else (number rest).map fun line => .breakAdd (String.ofList (trimBlank file)) line

def breakRemove (cs : List Char) : Attempt Command :=
  match word? "remove" cs with
  | none => .failed
  | some rest => (number rest).lenient.map .breakRemove

/-- The forms of a breakpoint command.  The first that matches is kept, even if more follows. -/
def breakpoint (cs : List Char) : Attempt Command :=
  match spelled? "break" "b" cs with
  | none => .failed
  | some rest =>
    (breakRemove rest).orElse fun _ =>
      (constant .breakInfo (word? "info" rest)).orElse fun _ => location rest

def threadInfo (cs : List Char) : Attempt Command :=
  constant .threadInfo (word? "thread" cs >>= word? "info")

def help (X : Alphabet) (cs : List Char) : Attempt Command :=
  match spelled? "help" "h" cs with
  | none => .failed
  | some rest =>
    match X.scan rest with
    | some (topic, rest) => .matched (.help (some (String.ofList topic))) (skipBlank rest)
    | none => .matched (.help none) (skipBlank rest)

/-- The forms in the order in which they are tried. -/
def forms (X : Alphabet) : List (List Char → Attempt Command) :=
  [file,
    fun cs => constant .run (spelled? "run" "r" cs),
    attach,
    fun cs => constant .resume (spelled? "continue" "c" cs),
    fun cs => constant .next (spelled? "next" "n" cs),
    fun cs => constant .step (spelled? "step" "s" cs),
    fun cs => constant .finish (word? "finish" cs),
    fun cs => constant .interrupt (spelled? "interrupt" "pause" cs),
    breakpoint,
    threadInfo,
    help X,
    fun cs => constant .quit (spelled? "quit" "q" cs)]

/-- The first form that matches a text to its end. -/
def firstMatch (cs : List Char) : List (List Char → Attempt Command) → Attempt Command
  | [] => .failed
  | form :: forms => (form cs).atEnd.orElse fun _ => firstMatch cs forms

end Form

/-- Reads a line in which identifiers are made of the characters of `X`. -/
def Command.parseOver (X : Alphabet) (line : String) : Except Command.Fault Command :=
  match Form.firstMatch line.toList (Form.forms X) with
  | .matched c _ => .ok c
  | .tooLarge digits => .error (.tooLarge (String.ofList digits))
  | .failed => .error (if line.isEmpty then .empty else .malformed)

def Command.parse (line : String) : Except Command.Fault Command := parseOver .unicode line

end Cli
end DebugSession
