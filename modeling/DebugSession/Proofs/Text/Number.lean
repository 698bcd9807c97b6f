/-
Which texts are numbers of a word type: digits, leading zeros allowed, after at most one plus sign,
with a value that fits.
-/
import DebugSession.Text.Decimal

namespace DebugSession
namespace Text
namespace Decimal

/-- A text that says a number. -/
def Says (cs : List Char) (n : Nat) : Prop :=
  ∃ ds, (cs = ds ∨ cs = '+' :: ds) ∧ ds ≠ [] ∧ (∀ c ∈ ds, isDigit c = true) ∧ value ds = n

theorem ne_plus_of_isDigit {c : Char} (h : isDigit c = true) : c ≠ '+' := by
  rintro rfl
  exact absurd h (by decide)

/-- Characters are read to their end only if all are digits and their value fits. -/
theorem of_scan_eq_ok {bound n : Nat} {cs : List Char} :
    ∀ {acc : Nat}, scan bound acc cs = .ok n →
      (∀ c ∈ cs, isDigit c = true) ∧ cs.foldl (fun n c => 10 * n + digitValue c) acc = n ∧
        (acc < bound → n < bound) := by
  induction cs with
  | nil =>
    intro acc h
    obtain rfl := Except.ok.inj h
    exact ⟨fun _ hc => absurd hc List.not_mem_nil, rfl, id⟩
  | cons c cs ih =>
    intro acc h
    rw [scan] at h
    split at h
    · next hc =>
      simp only at h
      split at h
      · next hlt =>
        obtain ⟨hdigits, hvalue, hbound⟩ := ih h
        refine ⟨fun x hx => ?_, hvalue, fun _ => hbound hlt⟩
        rcases List.mem_cons.1 hx with rfl | hx
        · exact hc
        · exact hdigits x hx
      · cases h
    · cases h

theorem parse_plus_of_isDigit {bound : Nat} {ds : List Char} (hne : ds ≠ [])
    (hd : ∀ c ∈ ds, isDigit c = true) : parse bound ('+' :: ds) = parse bound ds := by
  cases ds with
  | nil => exact absurd rfl hne
  | cons d ds =>
    have hplus := ne_plus_of_isDigit (hd d List.mem_cons_self)
    simp [parse, hplus]

theorem parse_eq_ok_iff {bound n : Nat} (hbound : 0 < bound) {cs : List Char} :
    parse bound cs = .ok n ↔ Says cs n ∧ n < bound := by
  constructor
  · intro h
    unfold parse at h
    split at h
    · exact nomatch h
    · exact nomatch h
    · next ds hne =>
      obtain ⟨hdigits, hvalue, hlt⟩ := of_scan_eq_ok h
      exact ⟨⟨ds, .inr rfl, fun hnil => hne (by rw [hnil]), hdigits, hvalue⟩, hlt hbound⟩
    · next hnil _ _ =>
      obtain ⟨hdigits, hvalue, hlt⟩ := of_scan_eq_ok h
      exact ⟨⟨cs, .inl rfl, hnil, hdigits, hvalue⟩, hlt hbound⟩
  · rintro ⟨⟨ds, hcs, hne, hdigits, rfl⟩, hlt⟩
    rcases hcs with rfl | rfl
    · exact parse_of_isDigit hne hdigits hlt
    · rw [parse_plus_of_isDigit hne hdigits]
      exact parse_of_isDigit hne hdigits hlt

theorem parseU32_eq_ok_iff {s : String} {n : UInt32} :
    parseU32 s = .ok n ↔ Says s.toList n.toNat := by
  have hbound : 0 < UInt32.size := by decide
  constructor
  · intro h
    rw [parseU32] at h
    cases hparse : parse UInt32.size s.toList with
    | error fault =>
      rw [hparse] at h
      cases h
    | ok m =>
      rw [hparse] at h
      obtain rfl : UInt32.ofNat m = n := Except.ok.inj h
      obtain ⟨hspelled, hlt⟩ := (parse_eq_ok_iff hbound).1 hparse
      rw [UInt32.toNat_ofNat_of_lt' hlt]
      exact hspelled
  · intro h
    rw [parseU32, (parse_eq_ok_iff hbound).2 ⟨h, n.toNat_lt⟩]
    show Except.ok (UInt32.ofNat n.toNat) = _
    rw [UInt32.ofNat_toNat]

/-- A text says one number at most. -/
theorem Says.unique {s : String} {m n : UInt32} (hm : Says s.toList m.toNat)
    (hn : Says s.toList n.toNat) : m = n :=
  Except.ok.inj ((parseU32_eq_ok_iff.2 hm).symm.trans (parseU32_eq_ok_iff.2 hn))

end Decimal
end Text
end DebugSession
