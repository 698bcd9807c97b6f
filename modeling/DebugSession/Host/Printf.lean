/-
The output of `printf` and `echo` in the shell, as bytes.
-/
import DebugSession.Text.Decimal
import DebugSession.Text.Utf8

namespace DebugSession
namespace Host

open Text (Bytes)

def isOctal (c : Char) : Bool := '0' ≤ c && c ≤ '7'

/-- The byte of octal digits. -/
def octalByte (ds : List Char) : UInt8 :=
  UInt8.ofNat (ds.foldl (fun n d => 8 * n + Text.Decimal.digitValue d) 0)

/-- The byte of an escape with a letter, none if the letter makes no escape. -/
def escapeByte? : Char → Option UInt8
  | 'a' => some 0x07
  | 'b' => some 0x08
  | 't' => some 0x09
  | 'n' => some 0x0A
  | 'v' => some 0x0B
  | 'f' => some 0x0C
  | 'r' => some 0x0D
  | '\\' => some 0x5C
  | '"' => some 0x22
  | _ => none

/-- The bytes of an escape whose backslash is taken, and the number of characters it takes. -/
def escape (cs : List Char) : Bytes × Nat :=
  match cs with
  | [] => ([0x5C], 0)
  | c :: _ =>
    let ds := (cs.take 3).takeWhile isOctal
    if !ds.isEmpty then ([octalByte ds], ds.length)
    else
      match escapeByte? c with
      | some b => ([b], 1)
      | none => (0x5C :: String.utf8EncodeChar c, 1)

/-- How an argument is laid out. -/
structure Layout where
  left : Bool := false
  zero : Bool := false
  width : Nat := 0
  /-- The number of bytes that are shown at most. -/
  limit : Option Nat := none
deriving Repr, DecidableEq, Inhabited

namespace Layout

def pad (l : Layout) (bytes : Bytes) : Bytes :=
  let fill := l.width - bytes.length
  if l.left then bytes ++ List.replicate fill 0x20
  else List.replicate fill (if l.zero then 0x30 else 0x20) ++ bytes

def render (l : Layout) (bytes : Bytes) : Bytes :=
  l.pad (match l.limit with
    | some n => bytes.take n
    | none => bytes)

end Layout

/-- What an argument is shown as. -/
inductive Conversion where
  | text
  /-- A text whose escapes are replaced. -/
  | escaped
  | character
  | number
deriving Repr, DecidableEq, Inhabited

def conversion? : Char → Option Conversion
  | 's' => some .text
  | 'b' => some .escaped
  | 'c' => some .character
  | 'd' => some .number
  | 'i' => some .number
  | 'u' => some .number
  | _ => none

/-- A piece of a format: bytes, or a place for an argument. -/
inductive FormatPiece where
  | bytes (bs : Bytes)
  | argument (c : Conversion) (l : Layout)
deriving Repr, DecidableEq, Inhabited

/-- What stands after a percent sign, and the number of characters it takes. -/
def directive? (cs : List Char) : Option (FormatPiece × Nat) := do
  let flags := cs.takeWhile fun c => c == '-' || c == '0'
  let cs' := cs.drop flags.length
  let width := cs'.takeWhile Text.Decimal.isDigit
  let cs' := cs'.drop width.length
  let (limit, cs') := match cs' with
    | '.' :: rest =>
      let ds := rest.takeWhile Text.Decimal.isDigit
      (some (Text.Decimal.value ds), rest.drop ds.length)
    | rest => (none, rest)
  let conversion ← cs'.head?.bind conversion?
  let layout : Layout := { left := flags.contains '-', zero := flags.contains '0', limit }
  return (.argument conversion { layout with width := Text.Decimal.value width },
    cs.length - cs'.length + 1)

/-- The pieces of a format; `skip` characters belong to the piece before. -/
def formatPieces (skip : Nat) : List Char → List FormatPiece
  | [] => []
  | c :: cs =>
    match skip with
    | skip + 1 => formatPieces skip cs
    | 0 =>
      if c = '\\' then
        let (bs, n) := escape cs
        .bytes bs :: formatPieces n cs
      else if c = '%' then
        match directive? cs with
        | some (piece, n) => piece :: formatPieces n cs
        | none =>
          if cs.head? = some '%' then .bytes [0x25] :: formatPieces 1 cs
          else .bytes [0x25] :: formatPieces 0 cs
      else .bytes (String.utf8EncodeChar c) :: formatPieces 0 cs

/-- A text with its escapes replaced; `skip` characters belong to the escape before. -/
def unescape (skip : Nat) : List Char → Bytes
  | [] => []
  | c :: cs =>
    match skip with
    | skip + 1 => unescape skip cs
    | 0 =>
      if c = '\\' then
        let (bs, n) := escape cs
        bs ++ unescape n cs
      else String.utf8EncodeChar c ++ unescape 0 cs

/-- The bytes of an argument, which may be missing. -/
def Conversion.bytes (c : Conversion) (arg : Option String) : Bytes :=
  match c with
  | .text => Text.Utf8.encode (arg.getD "")
  | .escaped => unescape 0 (arg.getD "").toList
  | .character => (Text.Utf8.encode (arg.getD "")).take 1
  | .number => Text.Utf8.encode (arg.getD "0")

/-- One pass over a format: its output and the arguments that are left. -/
def formatOnce : List FormatPiece → List String → Bytes × List String
  | [], args => ([], args)
  | .bytes bs :: pieces, args =>
    let (out, rest) := formatOnce pieces args
    (bs ++ out, rest)
  | .argument c l :: pieces, args =>
    let (out, rest) := formatOnce pieces (args.drop 1)
    (l.render (c.bytes args.head?) ++ out, rest)

/-- Passes over a format until no argument is left, at most `passes` of them. -/
def formatAll (pieces : List FormatPiece) : Nat → List String → Bytes
  | 0, _ => []
  | passes + 1, args =>
    match formatOnce pieces args with
    | (out, []) => out
    | (out, rest) => if rest.length < args.length then out ++ formatAll pieces passes rest else out

def printf : List String → Bytes
  | [] => []
  | format :: args => formatAll (formatPieces 0 format.toList) (args.length + 1) args

/-- The output of `echo`, which may replace escapes. -/
def echo (escapes : Bool) (args : List String) : Bytes :=
  let (newline, args) : Bytes × List String := match args with
    | "-n" :: args => ([], args)
    | args => ([0x0A], args)
  let text := " ".intercalate args
  (if escapes then unescape 0 text.toList else Text.Utf8.encode text) ++ newline

end Host
end DebugSession
