/-
Binary floating point numbers of 53 significant bits, as exact multiples of powers of two, and the
shortest decimal text that reads back as the same number.
-/
import DebugSession.Text.Blank
import DebugSession.Text.Decimal

namespace DebugSession
namespace Json

/-- The number `significand * 2 ^ exponent`, with its sign.  The significand is below `2 ^ 53` and
reaches `2 ^ 52` unless the exponent is the least one. -/
structure Double where
  negative : Bool
  significand : Nat
  exponent : Int
deriving Repr, DecidableEq, Inhabited

namespace Double

open Text.Decimal (digits)

def leastExponent : Int := -1074
def greatestExponent : Int := 971

def zero (negative : Bool) : Double := ⟨negative, 0, leastExponent⟩

/-- `num / den` in units of `2 ^ e`, as a fraction. -/
def inUnits (num den : Nat) (e : Int) : Nat × Nat :=
  if 0 ≤ e then (num, den * Nat.pow 2 e.toNat) else (num * Nat.pow 2 (-e).toNat, den)

/-- The natural number nearest to a fraction; a half goes to the even neighbour. -/
def roundHalfEven (num den : Nat) : Nat :=
  let q := num / den
  let r := num % den
  if 2 * r < den then q
  else if den < 2 * r then q + 1
  else if q % 2 = 0 then q else q + 1

/-- The number nearest to `num / den`, none if it is beyond the greatest one. -/
def ofRatio (negative : Bool) (num den : Nat) : Option Double :=
  if num = 0 then some (zero negative)
  else
    -- the quotient lies between the powers of two next to this one
    let scale : Int := (Nat.log2 num : Int) - (Nat.log2 den : Int)
    let low := max leastExponent (scale - 53)
    let (n, d) := inUnits num den low
    let e := if Nat.pow 2 53 ≤ n / d then low + 1 else low
    let (n, d) := inUnits num den e
    let m := roundHalfEven n d
    let (m, e) := if m = Nat.pow 2 53 then (Nat.pow 2 52, e + 1) else (m, e)
    if greatestExponent < e then none else some ⟨negative, m, e⟩

/-- The magnitude as a fraction. -/
def ratio (x : Double) : Nat × Nat :=
  if 0 ≤ x.exponent then (x.significand * Nat.pow 2 x.exponent.toNat, 1)
  else (x.significand, Nat.pow 2 (-x.exponent).toNat)

def ofNat (n : Nat) : Option Double := ofRatio false n 1

def mul (x y : Double) : Option Double :=
  let (a, b) := x.ratio
  let (c, d) := y.ratio
  ofRatio (x.negative != y.negative) (a * c) (b * d)

/-- The quotient by a number that is not zero. -/
def div (x y : Double) : Option Double :=
  let (a, b) := x.ratio
  let (c, d) := y.ratio
  ofRatio (x.negative != y.negative) (a * d) (b * c)

/-- The magnitudes that round to `x` lie between these two, counted in quarters of
`2 ^ exponent`. -/
def bounds (x : Double) : Nat × Nat :=
  let quarters := 4 * x.significand
  let below := if x.significand = Nat.pow 2 52 ∧ leastExponent < x.exponent then 1 else 2
  (quarters - below, quarters + 2)

/-- A decimal: `digits * 10 ^ exponent`. -/
structure Scientific where
  digits : Nat
  exponent : Int
deriving Repr, DecidableEq, Inhabited

namespace Scientific

def ratio (s : Scientific) : Nat × Nat :=
  if 0 ≤ s.exponent then (s.digits * Nat.pow 10 s.exponent.toNat, 1)
  else (s.digits, Nat.pow 10 (-s.exponent).toNat)

end Scientific

/-- Whether a decimal rounds to the magnitude of `x`.  The ends of the interval round to it iff
its significand is even. -/
def isReadFrom (x : Double) (s : Scientific) : Bool :=
  let (low, high) := x.bounds
  let (n, d) := s.ratio
  let (n, d) := inUnits (4 * n) d x.exponent
  if x.significand % 2 = 0 then low * d ≤ n && n ≤ high * d else low * d < n && n < high * d

/-- The power of ten of the first digit of the fraction `num / den`, which is not zero. -/
def leadingPlace (num den : Nat) : Int :=
  if den ≤ num then ((digits (num / den)).length : Int) - 1
  else
    -- the least power of ten that reaches the reciprocal
    -((digits ((den - 1) / num)).length : Int)

/-- Of the decimals with `count` digits, one that rounds to `x`: the one nearest to the fraction,
which is the magnitude of `x`, an even one if two are as near. -/
def nearest? (x : Double) (num den : Nat) (lead : Int) (count : Nat) : Option Scientific :=
  let e := lead - (count : Int) + 1
  let (n, d) := if 0 ≤ e then (num, den * Nat.pow 10 e.toNat) else (num * Nat.pow 10 (-e).toNat, den)
  let down : Scientific := ⟨n / d, e⟩
  let up : Scientific := ⟨n / d + 1, e⟩
  match x.isReadFrom down, x.isReadFrom up with
  | true, true => some (if roundHalfEven n d = n / d then down else up)
  | true, false => some down
  | false, true => some up
  | false, false => none

/-- The decimal with the fewest digits that reads back as the magnitude of `x`, of several the
nearest. -/
def shortest (x : Double) : Scientific :=
  let (num, den) := x.ratio
  let lead := leadingPlace num den
  let found := (List.range 17).findSome? fun k => x.nearest? num den lead (k + 1)
  found.getD ⟨0, 0⟩

def zeros (n : Nat) : List Char := List.replicate n '0'

/-- Numbers from `10 ^ leastPlain` on and below `10 ^ (greatestPlain + 1)` are written without an
exponent. -/
def leastPlain : Int := -5
def greatestPlain : Int := 15

/-- A decimal with the digits `ds`, the first of which stands for `10 ^ place`. -/
def layout (ds : List Char) (place : Int) : List Char :=
  if leastPlain ≤ place ∧ place ≤ greatestPlain then
    if place < 0 then '0' :: '.' :: zeros (-place - 1).toNat ++ ds
    else
      let whole := place.toNat + 1
      if ds.length ≤ whole then ds ++ zeros (whole - ds.length) ++ ['.', '0']
      else ds.take whole ++ '.' :: ds.drop whole
  else
    let mantissa := match ds with
      | [d] => [d]
      | ds => ds.take 1 ++ '.' :: ds.drop 1
    let sign := if place < 0 then '-' else '+'
    mantissa ++ 'e' :: sign :: digits place.natAbs

def render (x : Double) : String :=
  let sign := if x.negative then ['-'] else []
  if x.significand = 0 then String.ofList (sign ++ ['0', '.', '0'])
  else
    let s := x.shortest
    let all := digits s.digits
    let place := s.exponent + (all.length : Int) - 1
    String.ofList (sign ++ layout (Text.dropLastWhile (· == '0') all) place)

end Double
end Json
end DebugSession
