/-
Reading a JSON text.  Of several faults the first from the left is reported.
-/
import DebugSession.Json.Number

namespace DebugSession
namespace Json

open Text (Bytes)

def isSpace (b : UInt8) : Bool :=
  let c := ascii b
  c = ' ' || c = '\n' || c = '\t' || c = '\r'

def skipSpace (rest : Bytes) : Bytes := rest.dropWhile isSpace

/-- The letters of a word after its first one. -/
def word (value : Json) : List Char → Reader Json
  | [], rest => .ok (value, rest)
  | c :: cs, rest =>
    match rest with
    | [] => stopHere .eofValue []
    | b :: rest => if ascii b = c then word value cs rest else stopHere .expectedIdent rest

namespace Str

def hexValue? (b : UInt8) : Option Nat :=
  let c := ascii b
  if '0' ≤ c && c ≤ '9' then some (c.toNat - '0'.toNat)
  else if 'a' ≤ c && c ≤ 'f' then some (c.toNat - 'a'.toNat + 10)
  else if 'A' ≤ c && c ≤ 'F' then some (c.toNat - 'A'.toNat + 10)
  else none

/-- The four hexadecimal digits of an escape. -/
def hexUnit : Reader Nat
  | a :: b :: c :: d :: rest =>
    match hexValue? a, hexValue? b, hexValue? c, hexValue? d with
    | some a, some b, some c, some d => .ok (((a * 16 + b) * 16 + c) * 16 + d, rest)
    | _, _, _, _ => stopHere .invalidEscape rest
  | _ => stopHere .eofString []

def isLeadingSurrogate (n : Nat) : Bool := 0xD800 ≤ n && n ≤ 0xDBFF
def isTrailingSurrogate (n : Nat) : Bool := 0xDC00 ≤ n && n ≤ 0xDFFF

/-- The trailing surrogate that has to follow a leading one, after its backslash and `u`. -/
def trailingUnit : Reader Nat
  | [] => stopHere .eofString []
  | b :: rest =>
    if ascii b ≠ '\\' then stopHere .unexpectedEndOfHexEscape rest
    else
      match rest with
      | [] => stopHere .eofString []
      | u :: rest => if ascii u = 'u' then hexUnit rest
          else stopHere .unexpectedEndOfHexEscape rest

/-- The character of an escape that began with a backslash and `u`, and the number of bytes it
takes after these. -/
def unicodeEscape (rest : Bytes) : Except Stop (Char × Nat) := do
  let (n, rest) ← hexUnit rest
  if isTrailingSurrogate n then stopHere .loneSurrogate rest
  else if isLeadingSurrogate n then do
    let (m, rest) ← trailingUnit rest
    if isTrailingSurrogate m then
      .ok (Char.ofNat ((n - 0xD800) * 0x400 + (m - 0xDC00) + 0x10000), 10)
    else stopHere .loneSurrogate rest
  else .ok (Char.ofNat n, 4)

/-- The character of an escape, and the number of bytes it takes after the backslash. -/
def escape : Bytes → Except Stop (Char × Nat)
  | [] => stopHere .eofString []
  | b :: rest =>
    match ascii b with
    | '"' => .ok ('"', 1)
    | '\\' => .ok ('\\', 1)
    | '/' => .ok ('/', 1)
    | 'b' => .ok ('\x08', 1)
    | 'f' => .ok ('\x0c', 1)
    | 'n' => .ok ('\n', 1)
    | 'r' => .ok ('\r', 1)
    | 't' => .ok ('\t', 1)
    | 'u' => (fun (c, n) => (c, n + 1)) <$> unicodeEscape rest
    | _ => stopHere .invalidEscape rest

/-- A piece of a string: bytes as they stand, with the rest of the text after them, or an escaped
character. -/
inductive Piece where
  | plain (bytes after : Bytes)
  | escaped (c : Char)

/-- The characters of a piece.  Bytes that are not UTF-8 are reported after the first of them. -/
def Piece.chars : Piece → Except Stop (List Char)
  | plain bytes after =>
    match Text.Utf8.decode bytes with
    | .ok s => .ok s.toList
    | .error fault => .error ⟨.invalidUnicode, bytes.length + after.length - fault.validUpTo - 1⟩
  | escaped c => .ok [c]

/-- The bytes of a piece that ends before `rest`, put in front of the pieces to come. -/
def close (run : Bytes) (rest : Bytes) (pieces : List Piece) : List Piece :=
  if run.isEmpty then pieces else .plain run.reverse rest :: pieces

/-- The pieces of a string up to its closing quote.  `skip` bytes belong to an escape that is
already read, `run` holds the bytes since the last escape, the last one first. -/
def pieces (skip : Nat) (run : Bytes) : Bytes → Except Stop (List Piece × Bytes)
  | [] => stopHere .eofString []
  | b :: rest =>
    match skip with
    | skip + 1 => pieces skip run rest
    | 0 =>
      if ascii b = '"' then .ok (close run (b :: rest) [], rest)
      else if ascii b = '\\' then do
        let (c, taken) ← escape rest
        let (later, after) ← pieces taken [] rest
        .ok (close run (b :: rest) (.escaped c :: later), after)
      else if b < 0x20 then stopHere .controlCharacter rest
      else pieces 0 (b :: run) rest

/-- The rest of a string whose opening quote is taken. -/
def read (rest : Bytes) : Except Stop (String × Bytes) := do
  let (found, after) ← pieces 0 [] rest
  let text ← found.mapM Piece.chars
  .ok (String.ofList text.flatten, after)

end Str

/-- The items of an array up to its closing bracket.  Each takes at least one byte, so that
`fuel` above the length of the text is never used up. -/
def items (element : Reader Json) : Nat → Bool → Reader (List Json)
  | 0, _, _ => stopHere .eofList []
  | fuel + 1, first, rest =>
    let next := fun rest => do
      let (v, rest) ← element rest
      let (vs, rest) ← items element fuel false rest
      .ok (v :: vs, rest)
    match skipSpace rest with
    | [] => stopNext .eofList []
    | b :: rest =>
      if ascii b = ']' then .ok ([], rest)
      else if first then next (b :: rest)
      else if ascii b = ',' then
        match skipSpace rest with
        | [] => stopNext .eofValue []
        | c :: rest =>
          if ascii c = ']' then stopNext .trailingComma (c :: rest) else next (c :: rest)
      else stopNext .expectedListCommaOrEnd (b :: rest)

def colon (rest : Bytes) : Except Stop Bytes :=
  match skipSpace rest with
  | [] => stopNext .eofObject []
  | b :: rest => if ascii b = ':' then .ok rest else stopNext .expectedColon (b :: rest)

/-- The members of an object up to its closing brace. -/
def members (element : Reader Json) : Nat → Bool → Reader (List (String × Json))
  | 0, _, _ => stopHere .eofObject []
  | fuel + 1, first, rest =>
    let next := fun rest => do
      let (key, rest) ← Str.read rest
      let rest ← colon rest
      let (v, rest) ← element rest
      let (more, rest) ← members element fuel false rest
      .ok ((key, v) :: more, rest)
    match skipSpace rest with
    | [] => stopNext .eofObject []
    | b :: rest =>
      if ascii b = '\x7d' then .ok ([], rest)
      else if first then
        if ascii b = '"' then next rest else stopNext .keyMustBeString (b :: rest)
      else if ascii b = ',' then
        match skipSpace rest with
        | [] => stopNext .eofValue []
        | c :: rest =>
          if ascii c = '"' then next rest
          else if ascii c = '\x7d' then stopNext .trailingComma (c :: rest)
          else stopNext .keyMustBeString (c :: rest)
      else stopNext .expectedObjectCommaOrEnd (b :: rest)

/-- A value in which at most `depth` arrays and objects stand inside one another. -/
def value (depth : Nat) (rest : Bytes) : Except Stop (Json × Bytes) :=
  match skipSpace rest with
  | [] => stopNext .eofValue []
  | b :: rest =>
    match ascii b with
    | 'n' => word .null ['u', 'l', 'l'] rest
    | 't' => word (.bool true) ['r', 'u', 'e'] rest
    | 'f' => word (.bool false) ['a', 'l', 's', 'e'] rest
    | '-' => Number.unsigned true rest
    | '"' => do
      let (s, rest) ← Str.read rest
      .ok (.string s, rest)
    | '[' =>
      match depth with
      | 0 => stopNext .recursionLimit (b :: rest)
      | depth + 1 => do
        let (vs, rest) ← items (value depth) (rest.length + 1) true rest
        .ok (.array vs, rest)
    | '\x7b' =>
      match depth with
      | 0 => stopNext .recursionLimit (b :: rest)
      | depth + 1 => do
        let (ms, rest) ← members (value depth) (rest.length + 1) true rest
        .ok (sorted ms, rest)
    | _ => if Number.isDigit b then Number.unsigned false (b :: rest)
        else stopNext .expectedValue (b :: rest)

/-- The number of arrays and objects that may stand inside one another. -/
def greatestDepth : Nat := 127

/-- Reads a text that holds one value and white space around it. -/
def parse (text : Bytes) : Except Fault Json :=
  let result := do
    let (v, rest) ← value greatestDepth text
    match skipSpace rest with
    | [] => .ok v
    | b :: rest => stopNext .trailingCharacters (b :: rest)
  result.mapError (Stop.locate text)

end Json
end DebugSession
