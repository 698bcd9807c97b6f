/-
UTF-8.  A byte string falls into segments: characters, and runs of bytes that begin a character
and do not complete one.  Reading leniently puts one U+FFFD in the place of each such run, reading
strictly reports the first of them.
-/

namespace DebugSession
namespace Text

abbrev Bytes := List UInt8

namespace Utf8

/-- U+FFFD, which stands for bytes that are no character. -/
def replacement : Char := '\uFFFD'

/-- The six payload bits of a continuation byte. -/
def payload (b : UInt8) : Nat := b.toNat % 0x40

def isAscii (b : UInt8) : Bool := b < 0x80

/-- Bytes that may only continue a character. -/
def isContinuation (b : UInt8) : Bool := 0x80 ≤ b && b ≤ 0xBF

/-- Lead bytes of two, three and four byte characters.  C0, C1 and everything above F4 would
start an overlong form or a value beyond U+10FFFF. -/
def isLead2 (b : UInt8) : Bool := 0xC2 ≤ b && b ≤ 0xDF
def isLead3 (b : UInt8) : Bool := 0xE0 ≤ b && b ≤ 0xEF
def isLead4 (b : UInt8) : Bool := 0xF0 ≤ b && b ≤ 0xF4

/-- The second byte of a three byte character: after E0 it excludes overlong forms, after ED it
excludes surrogates. -/
def isSecondOf3 (lead b : UInt8) : Bool :=
  if lead = 0xE0 then 0xA0 ≤ b && b ≤ 0xBF
  else if lead = 0xED then 0x80 ≤ b && b ≤ 0x9F
  else isContinuation b

/-- The second byte of a four byte character: after F0 it excludes overlong forms, after F4 it
excludes values beyond U+10FFFF. -/
def isSecondOf4 (lead b : UInt8) : Bool :=
  if lead = 0xF0 then 0x90 ≤ b && b ≤ 0xBF
  else if lead = 0xF4 then 0x80 ≤ b && b ≤ 0x8F
  else isContinuation b

def charOf2 (a b : UInt8) : Char := Char.ofNat (a.toNat % 0x20 * 0x40 + payload b)

def charOf3 (a b c : UInt8) : Char :=
  Char.ofNat (a.toNat % 0x10 * 0x1000 + payload b * 0x40 + payload c)

def charOf4 (a b c d : UInt8) : Char :=
  Char.ofNat (a.toNat % 0x08 * 0x40000 + payload b * 0x1000 + payload c * 0x40 + payload d)

inductive Segment where
  | char (c : Char)
  /-- As many bytes as can begin a character, at least one, before a byte that does not go on
  with it. -/
  | broken (length : Nat)
  /-- Bytes that begin a character which the end of the string cuts off. -/
  | cut (length : Nat)
deriving Repr, DecidableEq, Inhabited

namespace Segment

/-- The character a lenient reader shows. -/
def lossy : Segment → Char
  | char c => c
  | broken _ => replacement
  | cut _ => replacement

end Segment

/-- The segments of a byte string, from left to right. -/
def segments : Bytes → List Segment
  | [] => []
  | a :: rest =>
    if isAscii a then .char (Char.ofNat a.toNat) :: segments rest
    else if isLead2 a then
      match rest with
      | [] => [.cut 1]
      | b :: rest =>
        if isContinuation b then .char (charOf2 a b) :: segments rest
        else .broken 1 :: segments (b :: rest)
    else if isLead3 a then
      match rest with
      | [] => [.cut 1]
      | b :: rest =>
        if isSecondOf3 a b then
          match rest with
          | [] => [.cut 2]
          | c :: rest =>
            if isContinuation c then .char (charOf3 a b c) :: segments rest
            else .broken 2 :: segments (c :: rest)
        else .broken 1 :: segments (b :: rest)
    else if isLead4 a then
      match rest with
      | [] => [.cut 1]
      | b :: rest =>
        if isSecondOf4 a b then
          match rest with
          | [] => [.cut 2]
          | c :: rest =>
            if isContinuation c then
              match rest with
              | [] => [.cut 3]
              | d :: rest =>
                if isContinuation d then .char (charOf4 a b c d) :: segments rest
                else .broken 3 :: segments (d :: rest)
            else .broken 2 :: segments (c :: rest)
        else .broken 1 :: segments (b :: rest)
    else .broken 1 :: segments rest

/-- The text of a byte string, with one U+FFFD for each segment that is no character. -/
def lossy (bytes : Bytes) : String :=
  String.ofList ((segments bytes).map Segment.lossy)

/-- Why a byte string is not UTF-8. -/
structure Fault where
  /-- The number of bytes before the faulty segment. -/
  validUpTo : Nat
  /-- The length of the faulty segment, none if the end of the string cuts it off. -/
  length : Option Nat
deriving Repr, DecidableEq, Inhabited

namespace Fault

def message (f : Fault) : String :=
  match f.length with
  | some n => s!"invalid utf-8 sequence of {n} bytes from index {f.validUpTo}"
  | none => s!"incomplete utf-8 byte sequence from index {f.validUpTo}"

end Fault

/-- The characters of segments that all are characters, or the first fault; `start` bytes came
before them. -/
def chars (start : Nat) : List Segment → Except Fault (List Char)
  | [] => .ok []
  | .char c :: rest => (c :: ·) <$> chars (start + c.utf8Size) rest
  | .broken n :: _ => .error ⟨start, some n⟩
  | .cut _ :: _ => .error ⟨start, none⟩

/-- The text of a byte string that is UTF-8. -/
def decode (bytes : Bytes) : Except Fault String :=
  String.ofList <$> chars 0 (segments bytes)

def encode (text : String) : Bytes :=
  text.toList.flatMap String.utf8EncodeChar

end Utf8
end Text
end DebugSession
