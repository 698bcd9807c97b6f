/-
The token of a line.  An answer is marked in two ways: with the number that was read, printed again,
if the line is a command, and with the digits at the start of the line if it cannot be read.  For a
command both are the same.
-/
import DebugSession.Mi.Command
import Mathlib.Data.List.Basic
import Mathlib.Data.List.Induction
import Mathlib.Data.List.TakeWhile

namespace DebugSession
namespace Text
namespace Decimal

theorem digitValue_lt {c : Char} (h : isDigit c = true) : digitValue c < 10 := by
  have hc : 48 ≤ c.toNat ∧ c.toNat ≤ 57 := by
    simpa [isDigit, Char.le_def, UInt32.le_iff_toNat_le] using h
  show c.toNat - 48 < 10
  omega

theorem digitChar_digitValue {c : Char} (h : isDigit c = true) : digitChar (digitValue c) = c := by
  have hc : 48 ≤ c.toNat ∧ c.toNat ≤ 57 := by
    simpa [isDigit, Char.le_def, UInt32.le_iff_toNat_le] using h
  have hn : 48 + (c.toNat - 48) = c.toNat := by omega
  show Char.ofNat (48 + (c.toNat - 48)) = c
  rw [hn, Char.ofNat_toNat]

/-- Digits are those of their value, unless there are leading zeros. -/
theorem digits_value {cs : List Char} (hd : ∀ c ∈ cs, isDigit c = true) (hne : cs ≠ [])
    (hzero : cs.head? ≠ some '0') : digits (value cs) = cs := by
  induction cs using List.reverseRecOn with
  | nil => exact absurd rfl hne
  | append_singleton front c ih =>
    have hc : isDigit c = true := hd c (List.mem_append_right _ List.mem_cons_self)
    have hlt := digitValue_lt hc
    rw [value_concat]
    by_cases hfront : front = []
    · rw [hfront]
      show digits (10 * 0 + digitValue c) = [c]
      rw [Nat.mul_zero, Nat.zero_add, digits_of_lt hlt, digitChar_digitValue hc]
    · have hhead : front.head? ≠ some '0' := by
        rw [List.head?_append_of_ne_nil front hfront] at hzero
        exact hzero
      have hdigits := ih (fun d h => hd d (List.mem_append_left _ h)) hfront hhead
      have hpos : 0 < value front := by
        refine Nat.pos_of_ne_zero fun h0 => hhead ?_
        rw [← hdigits, h0, digits_of_lt (by decide)]
        rfl
      have hdiv : (10 * value front + digitValue c) / 10 = value front := by omega
      have hmod : (10 * value front + digitValue c) % 10 = digitValue c := by omega
      rw [digits_of_le (by omega), hdiv, hmod, hdigits, digitChar_digitValue hc]

end Decimal
end Text

namespace Mi
namespace Command

open Text (isBlank)
open Text.Decimal (digits isDigit numeral render value)

/-- What marks the answer to a command. -/
def tokenText (cmd : Command) : String := (cmd.token.map fun t => render t.toNat).getD ""

theorem takeWhile_of_head_minus {rest : List Char} (h : rest.head? = some '-') :
    rest.takeWhile isDigit = [] := by
  cases rest with
  | nil => rfl
  | cons c rest =>
    obtain rfl : c = '-' := Option.some.inj h
    rfl

/-- The digits of a token that fits a word. -/
theorem digits_ofNat {n : Nat} (h : n < UInt64.size) :
    digits (UInt64.ofNat n).toNat = digits n := by
  rw [UInt64.toNat_ofNat_of_lt' h]

/-- A token before a minus sign is the digits in front of it. -/
theorem readToken_eq_some {cs rest : List Char} {token : Option UInt64}
    (h : readToken cs = some (token, rest)) (hrest : rest.head? = some '-') :
    cs = cs.takeWhile isDigit ++ rest ∧
      cs.takeWhile isDigit = (token.map fun t => digits t.toNat).getD [] := by
  by_cases hzero : ∃ more, cs = '0' :: more
  · obtain ⟨more, rfl⟩ := hzero
    have hread : readToken ('0' :: more) = some (some 0, more) := rfl
    rw [hread] at h
    obtain ⟨rfl, rfl⟩ := Prod.mk.inj (Option.some.inj h)
    rw [List.takeWhile_cons_of_pos (by decide), takeWhile_of_head_minus hrest]
    exact ⟨rfl, (Text.Decimal.digits_of_lt (by decide : (0 : UInt64).toNat < 10)).symm⟩
  · have hnumeral : numeral cs = (cs.takeWhile isDigit, cs.dropWhile isDigit) := by
      rw [numeral]
      intro more hmore
      exact hzero ⟨more, hmore⟩
    have hsplit := (List.takeWhile_append_dropWhile (p := isDigit) (l := cs)).symm
    rw [readToken, hnumeral] at h
    by_cases hnone : cs.takeWhile isDigit = []
    · rw [hnone] at h hsplit ⊢
      obtain ⟨rfl, rfl⟩ := Prod.mk.inj (Option.some.inj h)
      exact ⟨hsplit, rfl⟩
    · have hdigits : digits (value (cs.takeWhile isDigit)) = cs.takeWhile isDigit := by
        refine Text.Decimal.digits_value (fun c hc => ?_) hnone ?_
        · exact List.mem_takeWhile_imp hc
        · cases cs with
          | nil => exact absurd rfl hnone
          | cons c more =>
            intro hhead
            have hc : isDigit c = true := by
              by_contra hc
              exact hnone (List.takeWhile_cons_of_neg hc)
            rw [List.takeWhile_cons_of_pos hc] at hhead
            obtain rfl : c = '0' := Option.some.inj hhead
            exact hzero ⟨more, rfl⟩
      by_cases hfits : value (cs.takeWhile isDigit) < UInt64.size
      · simp only [hfits, if_true] at h
        obtain ⟨rfl, rfl⟩ := Prod.mk.inj (Option.some.inj h)
        exact ⟨hsplit, by
          show _ = digits (UInt64.ofNat _).toNat
          rw [digits_ofNat hfits, hdigits]⟩
      · simp only [hfits, if_false] at h
        exact absurd h (by simp)

theorem head?_of_readOperation {rest : List Char} {found : List Char × List Char}
    (h : readOperation rest = some found) : rest.head? = some '-' := by
  unfold readOperation at h
  split at h
  · rfl
  · exact absurd h (by simp)

/-- The answer to a command is marked with the digits at the start of the line. -/
theorem tokenText_of_parse {line : String} {cmd : Command} (h : parse line = some cmd) :
    cmd.tokenText = leadingDigits line := by
  obtain ⟨⟨token, rest⟩, htoken, h⟩ := Option.bind_eq_some_iff.1 h
  obtain ⟨⟨name, more⟩, hname, h⟩ := Option.bind_eq_some_iff.1 h
  obtain ⟨args, -, h⟩ := Option.bind_eq_some_iff.1 h
  obtain rfl := Option.some.inj h
  obtain ⟨hsplit, hdigits⟩ := readToken_eq_some htoken (head?_of_readOperation hname)
  obtain ⟨after, hafter⟩ := Text.dropLastWhile_prefix isBlank (Text.skipBlank line.toList)
  have hmark : (Text.skipBlank line.toList).takeWhile isDigit =
      (Text.trimBlank line.toList).takeWhile isDigit := by
    have hrest : (rest ++ after).head? = some '-' := by
      rw [List.head?_append, head?_of_readOperation hname]
      rfl
    rw [← hafter]
    show (Text.trimBlank line.toList ++ after).takeWhile isDigit = _
    conv_lhs => rw [hsplit]
    rw [List.append_assoc, List.takeWhile_append_of_pos fun c hc => List.mem_takeWhile_imp hc,
      takeWhile_of_head_minus hrest, List.append_nil]
  rw [tokenText, leadingDigits, hmark, hdigits]
  cases token <;> rfl

end Command
end Mi
end DebugSession
