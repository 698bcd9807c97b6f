/-
The words and operators of a shell script.  A word is a list of pieces, some of which stand for
texts that are only known when a command runs.
-/
import DebugSession.Text.Blank
import DebugSession.Text.Decimal

namespace DebugSession
namespace Host
namespace Shell

inductive Piece where
  | plain (c : Char)
  /-- A quotation: even an empty one makes a word. -/
  | quote
  | parameter (name : String) (quoted : Bool)
  /-- The value of an expression. -/
  | value (expression : List Char) (quoted : Bool)
  /-- What a script writes. -/
  | output (script : List Char) (quoted : Bool)
deriving Repr, DecidableEq, Inhabited

abbrev Word := List Piece

/-- The text of a word without quotations and parameters. -/
def Word.plain? (w : Word) : Option String :=
  String.ofList <$> w.mapM fun
    | .plain c => some c
    | _ => none

inductive Token where
  | word (w : Word)
  | separator
  | background
  | onSuccess
  | onFailure
  | pipe
  | openParen
  | closeParen
  /-- A stream goes where another goes. -/
  | duplicate (stream target : Nat)
  /-- A stream goes to the file that the next word names. -/
  | write (stream : Nat)
  /-- Input comes from the file that the next word names. -/
  | read
deriving Repr, DecidableEq, Inhabited

inductive Quoting where
  | none
  | single
  | double
deriving Repr, DecidableEq, Inhabited

/-- The characters up to the parenthesis that closes an open one. -/
def untilClosed (depth : Nat) : List Char → List Char
  | [] => []
  | c :: cs =>
    if c = '(' then c :: untilClosed (depth + 1) cs
    else if c = ')' then
      match depth with
      | 0 => []
      | depth + 1 => c :: untilClosed depth cs
    else c :: untilClosed depth cs

def isNameChar (c : Char) : Bool := c.isAlphanum || c == '_'

/-- Parameters whose names are marks. -/
def isSpecial (c : Char) : Bool := ['@', '*', '#', '?', '$'].contains c

/-- What an opening parenthesis begins: a script whose output counts, or in a second pair of
parentheses an expression. -/
def substitution (inner : List Char) (quoted : Bool) : Piece :=
  match inner with
  | '(' :: body => if inner.getLast? = some ')' then .value body.dropLast quoted
      else .output inner quoted
  | _ => .output inner quoted

/-- What stands after a dollar sign, and the number of characters it takes. -/
def dollar? (cs : List Char) (quoted : Bool) : Option (Piece × Nat) :=
  match cs with
  | [] => none
  | '(' :: rest =>
    let inner := untilClosed 0 rest
    some (substitution inner quoted, inner.length + 2)
  | '\x7b' :: rest =>
    let name := rest.takeWhile (· ≠ '\x7d')
    some (.parameter (String.ofList name) quoted, name.length + 2)
  | c :: _ =>
    if isSpecial c || Text.Decimal.isDigit c then some (.parameter (String.singleton c) quoted, 1)
    else
      match cs.takeWhile isNameChar with
      | [] => none
      | name => some (.parameter (String.ofList name) quoted, name.length)

/-- An operator at the front, and the number of characters it takes after the first; `stream` is
the stream that a redirection is about. -/
def operator? (stream : Nat) : List Char → Option (Token × Nat)
  | '\n' :: _ => some (.separator, 0)
  | ';' :: _ => some (.separator, 0)
  | '&' :: '&' :: _ => some (.onSuccess, 1)
  | '&' :: _ => some (.background, 0)
  | '|' :: '|' :: _ => some (.onFailure, 1)
  | '|' :: _ => some (.pipe, 0)
  | '(' :: _ => some (.openParen, 0)
  | ')' :: _ => some (.closeParen, 0)
  | '>' :: '&' :: d :: _ => some (.duplicate stream (Text.Decimal.digitValue d), 2)
  | '>' :: '>' :: _ => some (.write stream, 1)
  | '>' :: _ => some (.write stream, 0)
  | '<' :: _ => some (.read, 0)
  | _ => none

def flush (held : Word) : List Token := if held.isEmpty then [] else [.word held.reverse]

/-- The stream that a redirection is about: a digit that stands right before it, and is no word
then. -/
def streamBefore (next : Char) (held : Word) : Option Nat :=
  match held with
  | [.plain c] =>
    if (next = '>' || next = '<') && Text.Decimal.isDigit c then some (Text.Decimal.digitValue c)
    else none
  | _ => none

/-- Characters that keep their meaning after a backslash in a double quotation. -/
def isEscapable (c : Char) : Bool := ['$', '"', '\\'].contains c

/-- The tokens of a script; `held` are the pieces of the word so far, the last one first, and `skip`
characters belong to what was read before. -/
def tokens (skip : Nat) (q : Quoting) (held : Word) : List Char → List Token
  | [] => flush held
  | c :: cs =>
    match skip, q with
    | skip + 1, q => tokens skip q held cs
    | 0, .single =>
      if c = '\'' then tokens 0 .none held cs else tokens 0 .single (.plain c :: held) cs
    | 0, .double =>
      if c = '"' then tokens 0 .none held cs
      else if c = '\\' then
        match cs.head? with
        | some d => if isEscapable d then tokens 1 .double (.plain d :: held) cs
            else tokens 0 .double (.plain c :: held) cs
        | none => tokens 0 .double (.plain c :: held) cs
      else if c = '$' then
        match dollar? cs true with
        | some (piece, n) => tokens n .double (piece :: held) cs
        | none => tokens 0 .double (.plain c :: held) cs
      else tokens 0 .double (.plain c :: held) cs
    | 0, .none =>
      if c = '\'' then tokens 0 .single (.quote :: held) cs
      else if c = '"' then tokens 0 .double (.quote :: held) cs
      else if c = '\\' then
        match cs.head? with
        | some d => tokens 1 .none (.plain d :: .quote :: held) cs
        | none => tokens 0 .none (.plain c :: held) cs
      else if c = '$' then
        match dollar? cs false with
        | some (piece, n) => tokens n .none (piece :: held) cs
        | none => tokens 0 .none (.plain c :: held) cs
      else if c = '#' && held.isEmpty then tokens (cs.takeWhile (· ≠ '\n')).length .none [] cs
      else
        let stream := streamBefore c held
        match operator? (stream.getD 1) (c :: cs) with
        | some (token, n) =>
          (if stream.isSome then [] else flush held) ++ token :: tokens n .none [] cs
        | none =>
          if Text.isBlank c then flush held ++ tokens 0 .none [] cs
          else tokens 0 .none (.plain c :: held) cs

end Shell
end Host
end DebugSession
