/-
JSON numbers.  An integer that fits a 64 bit word stays exact.  Any other number keeps at most as
many leading digits as fit 64 bits and is scaled by a power of ten in binary floating point.
-/
import DebugSession.Json.Basic
import DebugSession.Json.Stop

namespace DebugSession
namespace Json
namespace Number

open Text (Bytes)

def isDigit (b : UInt8) : Bool := Text.Decimal.isDigit (ascii b)

def digit (b : UInt8) : Nat := Text.Decimal.digitValue (ascii b)

def startsWithDigit (rest : Bytes) : Bool := rest.head?.any isDigit

/-- Takes digits as long as the value stays below `2 ^ 64`: the value, how many digits were taken
and the rest. -/
def takeDigits (value count : Nat) : Bytes → Nat × Nat × Bytes
  | [] => (value, count, [])
  | b :: rest =>
    if isDigit b && 10 * value + digit b < UInt64.size then
      takeDigits (10 * value + digit b) (count + 1) rest
    else (value, count, b :: rest)

/-- The power of ten as a double. -/
def pow10 (n : Nat) : Double := (Double.ofNat (Nat.pow 10 n)).getD (Double.zero false)

/-- The greatest power of ten that is a double. -/
def greatestPower : Nat := 308

/-- `x` divided by `10 ^ n`, in steps of at most the greatest power of ten. -/
def shrink (x : Double) (n : Nat) : Double :=
  if n ≤ greatestPower then (x.div (pow10 n)).getD x
  else if x.significand = 0 then x
  else shrink ((x.div (pow10 greatestPower)).getD x) (n - greatestPower)
termination_by n
decreasing_by simp only [greatestPower] at *; omega

/-- `significand * 10 ^ exponent` as a double, none if it is too great. -/
def scale (significand : Nat) (exponent : Int) : Option Double :=
  match Double.ofNat significand with
  | none => none
  | some x =>
    if exponent < 0 then some (shrink x exponent.natAbs)
    else if exponent ≤ greatestPower then x.mul (pow10 exponent.toNat)
    else if significand = 0 then some x
    else none

def scaled (negative : Bool) (significand : Nat) (exponent : Int) : Reader Json := fun rest =>
  match scale significand exponent with
  | some x => .ok (.decimal { x with negative }, rest)
  | none => stopHere .numberOutOfRange rest

/-- The greatest exponent that is read. -/
def greatestExponent : Nat := 0x7FFFFFFF

/-- The digits of an exponent after its first one: its value, or none at the digit with which it
grows too great, and the rest. -/
def exponentDigits (value : Nat) : Bytes → Option Nat × Bytes
  | [] => (some value, [])
  | b :: rest =>
    if isDigit b then
      let next := 10 * value + digit b
      if next ≤ greatestExponent then exponentDigits next rest else (none, rest)
    else (some value, b :: rest)

/-- What follows the letter of an exponent. -/
def exponent (negative : Bool) (significand : Nat) (start : Int) : Reader Json := fun rest =>
  let (below, rest) := match rest with
    | b :: r => if ascii b = '+' then (false, r) else if ascii b = '-' then (true, r)
        else (false, b :: r)
    | [] => (false, [])
  match rest with
  | [] => stopHere .eofValue []
  | b :: rest =>
    if !isDigit b then stopHere .invalidNumber rest
    else
      match exponentDigits (digit b) rest with
      | (some e, rest) => scaled negative significand (if below then start - e else start + e) rest
      | (none, rest) =>
        if significand ≠ 0 && !below then stopHere .numberOutOfRange rest
        else .ok (.decimal (Double.zero negative), rest.dropWhile isDigit)

def startsExponent (b : UInt8) : Bool := ascii b = 'e' || ascii b = 'E'

/-- What follows the digits of a number that is no integer. -/
def afterDigits (negative : Bool) (significand : Nat) (start : Int) : Reader Json := fun rest =>
  match rest with
  | b :: r => if startsExponent b then exponent negative significand start r
      else scaled negative significand start rest
  | [] => scaled negative significand start rest

/-- What follows the point.  Digits that no longer fit are left out. -/
def fraction (negative : Bool) (significand : Nat) (start : Int) : Reader Json := fun rest =>
  let (significand, count, rest) := takeDigits significand 0 rest
  if startsWithDigit rest then
    afterDigits negative significand (start - count) (rest.dropWhile isDigit)
  else if count = 0 then
    stopNext (if rest.isEmpty then .eofValue else .invalidNumber) rest
  else afterDigits negative significand (start - count) rest

/-- The rest of a number whose first digits are no more than fit. -/
def afterInteger (negative : Bool) (significand : Nat) (start : Int) : Reader Json := fun rest =>
  match rest with
  | b :: r => if ascii b = '.' then fraction negative significand start r
      else afterDigits negative significand start rest
  | [] => afterDigits negative significand start rest

/-- An integer.  Zero with a minus and whatever is below the least 64 bit word are decimals. -/
def integer (negative : Bool) (n : Nat) : Json :=
  if !negative then .integer n
  else if n = 0 ∨ 0x8000000000000000 < n then
    .decimal { (Double.ofNat n).getD (Double.zero true) with negative := true }
  else .integer (-n)

/-- The digits of a number and what follows them. -/
def unsigned (negative : Bool) : Reader Json := fun rest =>
  match rest with
  | [] => stopHere .eofValue []
  | b :: r =>
    if !isDigit b then stopHere .invalidNumber r
    else if ascii b = '0' && startsWithDigit r then stopNext .invalidNumber r
    else
      let (n, _, r) := takeDigits (digit b) 0 r
      if startsWithDigit r then
        let skipped := (r.takeWhile isDigit).length
        afterInteger negative n skipped (r.dropWhile isDigit)
      else if r.head?.any fun c => ascii c = '.' || startsExponent c then
        afterInteger negative n 0 r
      else .ok (integer negative n, r)

end Number
end Json
end DebugSession
