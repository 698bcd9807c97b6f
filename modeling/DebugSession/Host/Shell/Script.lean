/-
The structure of a shell script: commands, lists and pipelines of them, loops and choices.
-/
import DebugSession.Host.Shell.Word

namespace DebugSession
namespace Host
namespace Shell

inductive Redirection where
  /-- A stream goes where another goes. -/
  | duplicate (stream target : Nat)
  | write (stream : Nat) (file : Word)
  | read (file : Word)
deriving Repr, DecidableEq, Inhabited

inductive Script where
  | nothing
  /-- A command with the variables that are set before it. -/
  | simple (assignments : List (String × Word)) (words : List Word)
  | redirected (s : Script) (rs : List Redirection)
  | next (first second : Script)
  | onSuccess (first second : Script)
  | onFailure (first second : Script)
  | pipe (first second : Script)
  | negated (s : Script)
  /-- A script that cannot change the variables around it. -/
  | apart (s : Script)
  /-- A script that nobody waits for. -/
  | background (s : Script)
  /-- Repeats `body` as long as `condition` succeeds, or as long as it fails. -/
  | loop (succeeds : Bool) (condition body : Script)
  | forEach (name : String) (words : List Word) (body : Script)
  | choice (condition yes no : Script)
deriving Repr, Inhabited

namespace Script

abbrev Parser (α : Type) := List Token → Option (α × List Token)

/-- The word at the front without quotations, and the rest. -/
def leading? : List Token → Option (String × List Token)
  | .word w :: ts => w.plain?.map fun s => (s, ts)
  | _ => none

/-- Words that end the list before them. -/
def closers : List String := ["\x7d", "do", "done", "then", "else", "elif", "fi"]

def isClosed (ts : List Token) : Bool :=
  match ts with
  | [] => true
  | .closeParen :: _ => true
  | ts => (leading? ts).any fun l => closers.contains l.1

def skipSeparators (ts : List Token) : List Token := ts.dropWhile (· == .separator)

def expect (s : String) (ts : List Token) : Option (List Token) :=
  match leading? ts with
  | some (t, rest) => if t = s then some rest else none
  | none => none

/-- The redirections at the front. -/
def redirections : List Token → List Redirection × List Token
  | .duplicate stream target :: ts =>
    let (rs, ts) := redirections ts
    (.duplicate stream target :: rs, ts)
  | .write stream :: .word w :: ts =>
    let (rs, ts) := redirections ts
    (.write stream w :: rs, ts)
  | .read :: .word w :: ts =>
    let (rs, ts) := redirections ts
    (.read w :: rs, ts)
  | ts => ([], ts)

def withRedirections (s : Script) (rs : List Redirection) : Script :=
  if rs.isEmpty then s else .redirected s rs

/-- A name, an equals sign and a value in one word. -/
def assignment? (w : Word) : Option (String × Word) :=
  let name := w.takeWhile fun
    | .plain c => isNameChar c
    | _ => false
  match Word.plain? name, w.drop name.length with
  | some s, .plain '=' :: value =>
    if s.isEmpty || s.toList.head?.any Text.Decimal.isDigit then none else some (s, value)
  | _, _ => none

/-- A simple command at work. -/
structure Simple where
  assignments : List (String × Word) := []
  words : List Word := []
  redirections : List Redirection := []

namespace Simple

def addWord (s : Simple) (w : Word) : Simple :=
  match s.words, assignment? w with
  | [], some a => { s with assignments := s.assignments ++ [a] }
  | _, _ => { s with words := s.words ++ [w] }

def addRedirection (s : Simple) (r : Redirection) : Simple :=
  { s with redirections := s.redirections ++ [r] }

def isEmpty (s : Simple) : Bool :=
  s.assignments.isEmpty && s.words.isEmpty && s.redirections.isEmpty

def script (s : Simple) : Script :=
  withRedirections (.simple s.assignments s.words) s.redirections

def parse (s : Simple) : List Token → Simple × List Token
  | .word w :: ts => (s.addWord w).parse ts
  | .duplicate stream target :: ts => (s.addRedirection (.duplicate stream target)).parse ts
  | .write stream :: .word w :: ts => (s.addRedirection (.write stream w)).parse ts
  | .read :: .word w :: ts => (s.addRedirection (.read w)).parse ts
  | ts => (s, ts)

end Simple

/-- The words of a loop over words: those up to the end of its line. -/
def loopWords (ts : List Token) : List Word × List Token :=
  (ts.takeWhile (· != .separator) |>.filterMap fun
      | .word w => some w
      | _ => none,
    ts.dropWhile (· != .separator))

mutual

/-- Commands up to the end or to what closes them. -/
def list : Nat → Parser Script
  | 0, _ => none
  | fuel + 1, ts =>
    let ts := skipSeparators ts
    if isClosed ts then some (.nothing, ts)
    else do
      let (first, ts) ← chain fuel ts
      match ts with
      | .separator :: ts => do
        let (second, ts) ← list fuel ts
        return (.next first second, ts)
      | .background :: ts => do
        let (second, ts) ← list fuel ts
        return (.next (.background first) second, ts)
      | ts => return (first, ts)

/-- Pipelines of which each runs by how the one before it ended. -/
def chain : Nat → Parser Script
  | 0, _ => none
  | fuel + 1, ts => do
    let (first, ts) ← pipeline fuel ts
    chainAfter fuel first ts

def chainAfter : Nat → Script → Parser Script
  | 0, _, _ => none
  | fuel + 1, first, ts =>
    match ts with
    | .onSuccess :: ts => do
      let (second, ts) ← pipeline fuel (skipSeparators ts)
      chainAfter fuel (.onSuccess first second) ts
    | .onFailure :: ts => do
      let (second, ts) ← pipeline fuel (skipSeparators ts)
      chainAfter fuel (.onFailure first second) ts
    | ts => some (first, ts)

def pipeline : Nat → Parser Script
  | 0, _ => none
  | fuel + 1, ts =>
    match expect "!" ts with
    | some ts => do
      let (s, ts) ← pipeline fuel ts
      return (.negated s, ts)
    | none => do
      let (first, ts) ← command fuel ts
      match ts with
      | .pipe :: ts => do
        let (second, ts) ← pipeline fuel (skipSeparators ts)
        return (.pipe first second, ts)
      | ts => return (first, ts)

def command : Nat → Parser Script
  | 0, _ => none
  | fuel + 1, ts =>
    match ts with
    | .openParen :: ts => do
      let (s, ts) ← list fuel ts
      match ts with
      | .closeParen :: ts =>
        let (rs, ts) := redirections ts
        return (withRedirections (.apart s) rs, ts)
      | _ => none
    | ts =>
      match compound fuel ts with
      | some (s, ts) =>
        let (rs, ts) := redirections ts
        some (withRedirections s rs, ts)
      | none =>
        if isClosed ts then none
        else
          let (s, ts) := Simple.parse {} ts
          if s.isEmpty then none else some (s.script, ts)

/-- A command that begins with a reserved word. -/
def compound : Nat → Parser Script
  | 0, _ => none
  | fuel + 1, ts => do
    let (word, ts) ← leading? ts
    match word with
    | "\x7b" =>
      let (s, ts) ← list fuel ts
      return (s, ← expect "\x7d" ts)
    | "while" => loopFrom fuel true ts
    | "until" => loopFrom fuel false ts
    | "for" =>
      let (name, ts) ← leading? ts
      let (words, ts) := match expect "in" ts with
        | some ts => loopWords ts
        | none => ([[.parameter "@" true]], ts)
      let (body, ts) ← list fuel (← expect "do" (skipSeparators ts))
      return (.forEach name words body, ← expect "done" ts)
    | "if" => choiceFrom fuel ts
    | _ => none

def loopFrom : Nat → Bool → Parser Script
  | 0, _, _ => none
  | fuel + 1, succeeds, ts => do
    let (condition, ts) ← list fuel ts
    let (body, ts) ← list fuel (← expect "do" ts)
    return (.loop succeeds condition body, ← expect "done" ts)

def choiceFrom : Nat → Parser Script
  | 0, _ => none
  | fuel + 1, ts => do
    let (condition, ts) ← list fuel ts
    let (yes, ts) ← list fuel (← expect "then" ts)
    let (word, ts) ← leading? ts
    match word with
    | "fi" => return (.choice condition yes .nothing, ts)
    | "elif" =>
      let (no, ts) ← choiceFrom fuel ts
      return (.choice condition yes no, ts)
    | "else" =>
      let (no, ts) ← list fuel ts
      return (.choice condition yes no, ← expect "fi" ts)
    | _ => none

end

/-- Reads a script, none if it has not the form of one. -/
def parse (text : List Char) : Option Script :=
  let ts := tokens 0 .none [] text
  match list (8 * ts.length + 8) ts with
  | some (s, []) => some s
  | _ => none

end Script
end Shell
end Host
end DebugSession
