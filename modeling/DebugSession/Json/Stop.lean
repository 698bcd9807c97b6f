/-
Why the reading of a JSON text stops, and where.
-/
import DebugSession.Text.Utf8

namespace DebugSession
namespace Json

open Text (Bytes)

inductive Cause where
  | eofList
  | eofObject
  | eofString
  | eofValue
  | expectedColon
  | expectedListCommaOrEnd
  | expectedObjectCommaOrEnd
  | expectedIdent
  | expectedValue
  | invalidEscape
  | invalidNumber
  | numberOutOfRange
  | invalidUnicode
  | controlCharacter
  | keyMustBeString
  | loneSurrogate
  | trailingComma
  | trailingCharacters
  | unexpectedEndOfHexEscape
  | recursionLimit
deriving Repr, DecidableEq, Inhabited

namespace Cause

def message : Cause → String
  | eofList => "EOF while parsing a list"
  | eofObject => "EOF while parsing an object"
  | eofString => "EOF while parsing a string"
  | eofValue => "EOF while parsing a value"
  | expectedColon => "expected `:`"
  | expectedListCommaOrEnd => "expected `,` or `]`"
  | expectedObjectCommaOrEnd => "expected `,` or `\x7d`"
  | expectedIdent => "expected ident"
  | expectedValue => "expected value"
  | invalidEscape => "invalid escape"
  | invalidNumber => "invalid number"
  | numberOutOfRange => "number out of range"
  | invalidUnicode => "invalid unicode code point"
  | controlCharacter =>
    "control character (\\u0000-\\u001F) found while parsing a string"
  | keyMustBeString => "key must be a string"
  | loneSurrogate => "lone leading surrogate in hex escape"
  | trailingComma => "trailing comma"
  | trailingCharacters => "trailing characters"
  | unexpectedEndOfHexEscape => "unexpected end of hex escape"
  | recursionLimit => "recursion limit exceeded"

end Cause

/-- A cause, and the number of bytes that follow the place it is reported at. -/
structure Stop where
  cause : Cause
  left : Nat
deriving Repr, DecidableEq, Inhabited

/-- Reads something off the front of a text and hands back the rest. -/
abbrev Reader (α : Type) := Bytes → Except Stop (α × Bytes)

/-- Stops before the rest. -/
def stopHere {α : Type} (cause : Cause) (rest : Bytes) : Except Stop α :=
  .error ⟨cause, rest.length⟩

/-- Stops after the first byte of the rest, if there is one. -/
def stopNext {α : Type} (cause : Cause) (rest : Bytes) : Except Stop α :=
  .error ⟨cause, rest.length - 1⟩

/-- A byte as the character with that code. -/
def ascii (b : UInt8) : Char := Char.ofNat b.toNat

/-- A cause with its line and column, both counted from one; the column counts bytes. -/
structure Fault where
  cause : Cause
  line : Nat
  column : Nat
deriving Repr, DecidableEq, Inhabited

namespace Fault

def message (f : Fault) : String :=
  s!"{f.cause.message} at line {f.line} column {f.column}"

end Fault

/-- The place in `text` that a stop names. -/
def Stop.locate (text : Bytes) (s : Stop) : Fault :=
  let before := text.take (text.length - s.left)
  let isBreak := fun b => ascii b == '\n'
  ⟨s.cause, before.countP isBreak + 1, (before.reverse.takeWhile fun b => !isBreak b).length⟩

end Json
end DebugSession
