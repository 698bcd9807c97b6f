/-
Sets of characters given by ranges of code points.
-/

namespace DebugSession
namespace Text

/-- The first and the last code point of a range. -/
abbrev CharRange := Nat × Nat

def inRange (r : CharRange) (c : Char) : Bool := r.1 ≤ c.toNat && c.toNat ≤ r.2

def inRanges (rs : List CharRange) (c : Char) : Bool := rs.any fun r => inRange r c

/-- Sets whose ranges do not meet have no character in common. -/
theorem inRanges_eq_false (rs : List CharRange) {ss : List CharRange}
    (h : rs.all (fun r => ss.all fun s => r.2 < s.1 || s.2 < r.1) = true) {c : Char}
    (hc : inRanges ss c = true) : inRanges rs c = false := by
  obtain ⟨s, hs, hcs⟩ := List.any_eq_true.1 hc
  refine List.any_eq_false.2 fun r hr hcr => ?_
  have hapart := List.all_eq_true.1 (List.all_eq_true.1 h r hr) s hs
  simp only [inRange, Bool.and_eq_true, Bool.or_eq_true, decide_eq_true_eq] at hcs hcr hapart
  omega

end Text
end DebugSession
