/-
Decimal numbers: the digits of a natural number, the value of digits, and reading a number that has
to fit a word.
-/
import DebugSession.Text.Blank

namespace DebugSession
namespace Text
namespace Decimal

def isDigit (c : Char) : Bool := '0' ≤ c && c ≤ '9'

theorem not_isBlank_of_isDigit {c : Char} (h : isDigit c = true) : isBlank c = false := by
  have hc : 48 ≤ c.toNat ∧ c.toNat ≤ 57 := by
    simpa [isDigit, Char.le_def, UInt32.le_iff_toNat_le] using h
  exact not_isBlank_of_visible (by omega) (by omega)

def digitValue (c : Char) : Nat := c.toNat - '0'.toNat

def digitChar (d : Nat) : Char := Char.ofNat ('0'.toNat + d)

theorem isDigit_digitChar : ∀ d < 10, isDigit (digitChar d) = true := by decide

theorem digitValue_digitChar : ∀ d < 10, digitValue (digitChar d) = d := by decide

/-- The value of a list of digits, the most significant first. -/
def value (cs : List Char) : Nat := cs.foldl (fun n c => 10 * n + digitValue c) 0

/-- The digits of a number without leading zeros, `0` for zero. -/
def digits (n : Nat) : List Char :=
  if n < 10 then [digitChar n] else digits (n / 10) ++ [digitChar (n % 10)]

theorem digits_of_lt {n : Nat} (h : n < 10) : digits n = [digitChar n] := by
  rw [digits, if_pos h]

theorem digits_of_le {n : Nat} (h : 10 ≤ n) :
    digits n = digits (n / 10) ++ [digitChar (n % 10)] := by
  rw [digits, if_neg (by omega)]

theorem value_concat (cs : List Char) (c : Char) :
    value (cs ++ [c]) = 10 * value cs + digitValue c := by
  simp [value]

theorem value_digits (n : Nat) : value (digits n) = n := by
  induction n using Nat.strongRecOn with
  | ind n ih =>
    by_cases h : n < 10
    · simp [digits_of_lt h, value, digitValue_digitChar n h]
    · rw [digits_of_le (by omega), value_concat, ih (n / 10) (by omega),
        digitValue_digitChar _ (by omega)]
      omega

theorem isDigit_of_mem_digits {n : Nat} : ∀ c ∈ digits n, isDigit c = true := by
  induction n using Nat.strongRecOn with
  | ind n ih =>
    by_cases h : n < 10
    · simpa [digits_of_lt h] using isDigit_digitChar n h
    · intro c hc
      rw [digits_of_le (by omega), List.mem_append, List.mem_singleton] at hc
      rcases hc with hc | rfl
      · exact ih (n / 10) (by omega) c hc
      · exact isDigit_digitChar _ (by omega)

theorem digits_ne_nil (n : Nat) : digits n ≠ [] := by
  rw [digits]
  split <;> simp

def render (n : Nat) : String := String.ofList (digits n)

def renderInt (i : Int) : String :=
  if i < 0 then "-" ++ render i.natAbs else render i.natAbs

/-- Why a text is no number of a word type. -/
inductive Fault where
  | empty
  | invalidDigit
  | tooLarge
deriving Repr, DecidableEq, Inhabited

namespace Fault

def message : Fault → String
  | empty => "cannot parse integer from empty string"
  | invalidDigit => "invalid digit found in string"
  | tooLarge => "number too large to fit in target type"

end Fault

/-- Reads digits up to the first fault: a character that is no digit, or a digit that takes the
value to `bound`. -/
def scan (bound acc : Nat) : List Char → Except Fault Nat
  | [] => .ok acc
  | c :: rest =>
    if isDigit c then
      let next := 10 * acc + digitValue c
      if next < bound then scan bound next rest else .error .tooLarge
    else .error .invalidDigit

/-- Reads a number below `bound`: digits, leading zeros allowed, after at most one `+`. -/
def parse (bound : Nat) (cs : List Char) : Except Fault Nat :=
  match cs with
  | [] => .error .empty
  | '+' :: [] => .error .invalidDigit
  | '+' :: rest => scan bound 0 rest
  | cs => scan bound 0 cs

theorem le_foldl_digits (cs : List Char) (n : Nat) :
    n ≤ cs.foldl (fun n c => 10 * n + digitValue c) n := by
  induction cs generalizing n with
  | nil => exact Nat.le_refl n
  | cons c cs ih => exact Nat.le_trans (by omega) (ih (10 * n + digitValue c))

/-- Reading digits below the bound gives the value that they continue. -/
theorem scan_of_isDigit {bound : Nat} (cs : List Char) (hd : ∀ c ∈ cs, isDigit c = true) :
    ∀ acc, cs.foldl (fun n c => 10 * n + digitValue c) acc < bound →
      scan bound acc cs = .ok (cs.foldl (fun n c => 10 * n + digitValue c) acc) := by
  induction cs with
  | nil => intro acc _; rfl
  | cons c cs ih =>
    intro acc h
    have hlt : 10 * acc + digitValue c < bound := Nat.lt_of_le_of_lt (le_foldl_digits cs _) h
    simp only [scan, hd c (List.mem_cons_self ..), if_true, hlt, List.foldl_cons]
    exact ih (fun c hc => hd c (List.mem_cons_of_mem _ hc)) _ h

/-- Digits are read as their value, if it fits. -/
theorem parse_of_isDigit {bound : Nat} {cs : List Char} (hne : cs ≠ [])
    (hd : ∀ c ∈ cs, isDigit c = true) (h : value cs < bound) : parse bound cs = .ok (value cs) := by
  cases cs with
  | nil => exact absurd rfl hne
  | cons c cs =>
    have hc : c ≠ '+' := by
      rintro rfl
      exact absurd (hd '+' (List.mem_cons_self ..)) (by decide)
    have hp : parse bound (c :: cs) = scan bound 0 (c :: cs) := by
      simp [parse, hc]
    rw [hp, scan_of_isDigit _ hd 0 h]
    rfl

/-- The digits of a number are read back, if the number fits. -/
theorem parse_digits {bound n : Nat} (h : n < bound) : parse bound (digits n) = .ok n := by
  have hvalue : value (digits n) < bound := by
    rw [value_digits]
    exact h
  have hparse := parse_of_isDigit (digits_ne_nil n) isDigit_of_mem_digits hvalue
  rw [value_digits] at hparse
  exact hparse

/-- The digits of a number without leading zeros at the front of a text, and the rest. -/
def numeral : List Char → List Char × List Char
  | '0' :: rest => (['0'], rest)
  | cs => (cs.takeWhile isDigit, cs.dropWhile isDigit)

theorem head?_digits {n : Nat} (h : n ≠ 0) : (digits n).head? ≠ some '0' := by
  induction n using Nat.strongRecOn with
  | ind n ih =>
    by_cases hn : n < 10
    · rw [digits_of_lt hn]
      have hchar : ∀ d < 10, d ≠ 0 → digitChar d ≠ '0' := by decide
      intro hhead
      exact hchar n hn h (Option.some.inj hhead)
    · have hfront := ih (n / 10) (by omega) (by omega)
      obtain ⟨c, cs, hdigits⟩ := List.exists_cons_of_ne_nil (digits_ne_nil (n / 10))
      rw [hdigits] at hfront
      rw [digits_of_le (by omega), hdigits]
      exact hfront

/-- The digits of a number are all of the numeral that they start. -/
theorem numeral_digits_append (n : Nat) {rest : List Char}
    (h : ∀ c ∈ rest.head?, isDigit c = false) : numeral (digits n ++ rest) = (digits n, rest) := by
  by_cases hn : n = 0
  · rw [hn, digits_of_lt (by decide)]
    rfl
  · have htake : numeral (digits n ++ rest) =
        ((digits n ++ rest).takeWhile isDigit, (digits n ++ rest).dropWhile isDigit) := by
      cases hd : digits n with
      | nil => exact absurd hd (digits_ne_nil n)
      | cons c cs =>
        have hc : c ≠ '0' := by
          intro hc
          exact head?_digits hn (by rw [hd, hc]; rfl)
        rw [List.cons_append, numeral]
        intro more hmore
        exact hc (List.cons.inj hmore).1
    rw [htake, List.takeWhile_append_of_pos isDigit_of_mem_digits,
      List.dropWhile_append_of_pos isDigit_of_mem_digits]
    cases rest with
    | nil => rw [List.takeWhile_nil, List.dropWhile_nil, List.append_nil]
    | cons c rest =>
      rw [List.takeWhile_cons_of_neg (by simp [h c rfl]),
        List.dropWhile_cons_of_neg (by simp [h c rfl]), List.append_nil]

def parseU32 (s : String) : Except Fault UInt32 :=
  UInt32.ofNat <$> parse UInt32.size s.toList

theorem parseU32_render (n : UInt32) : parseU32 (render n.toNat) = .ok n := by
  simp [parseU32, render, parse_digits n.toNat_lt, Functor.map, Except.map]

end Decimal
end Text
end DebugSession
