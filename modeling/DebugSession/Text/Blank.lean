/-
White space: the characters with the Unicode property White_Space, and texts with it taken off
their ends.
-/

namespace DebugSession
namespace Text

/-- Characters with the property White_Space. -/
def isBlank (c : Char) : Bool :=
  let n := c.toNat
  (0x09 ≤ n && n ≤ 0x0D) || n == 0x20 || n == 0x85 || n == 0xA0 || n == 0x1680 ||
    (0x2000 ≤ n && n ≤ 0x200A) || n == 0x2028 || n == 0x2029 || n == 0x202F || n == 0x205F ||
    n == 0x3000

/-- Of the visible ASCII characters none is white space. -/
theorem not_isBlank_of_visible {c : Char} (h : 0x20 < c.toNat) (h' : c.toNat < 0x80) :
    isBlank c = false := by
  rw [← Bool.not_eq_true, isBlank]
  simp only [Bool.or_eq_true, Bool.and_eq_true, decide_eq_true_eq, beq_iff_eq]
  omega

def skipBlank (cs : List Char) : List Char := cs.dropWhile isBlank

/-- A list without the longest run of elements with `p` at its end. -/
def dropLastWhile {α : Type} (p : α → Bool) (xs : List α) : List α :=
  (xs.reverse.dropWhile p).reverse

theorem dropLastWhile_append {α : Type} {p : α → Bool} {v : List α} (hv : v.all p = true)
    (s : List α) : dropLastWhile p (s ++ v) = dropLastWhile p s := by
  simp only [dropLastWhile, List.reverse_append]
  rw [List.dropWhile_append_of_pos]
  simpa [List.all_eq_true] using hv

theorem dropLastWhile_prefix {α : Type} (p : α → Bool) (xs : List α) :
    dropLastWhile p xs <+: xs := by
  rw [dropLastWhile, ← List.reverse_suffix, List.reverse_reverse]
  exact List.dropWhile_suffix p

/-- An element without `p` and all before it stay. -/
theorem dropLastWhile_append_of_neg {α : Type} {p : α → Bool} {x : α} (hx : p x = false)
    (s v : List α) : dropLastWhile p (s ++ x :: v) = s ++ x :: dropLastWhile p v := by
  have hcut : (v.reverse ++ ([x] ++ s.reverse)).dropWhile p =
      v.reverse.dropWhile p ++ ([x] ++ s.reverse) := by
    rw [List.dropWhile_append]
    split
    · next h => simp [List.isEmpty_iff.1 h, hx]
    · rfl
  rw [dropLastWhile, List.reverse_append, List.reverse_cons, List.append_assoc, hcut,
    dropLastWhile]
  simp

/-- Without the white space at both ends. -/
def trimBlank (cs : List Char) : List Char := dropLastWhile isBlank (skipBlank cs)

def allBlank (cs : List Char) : Bool := cs.all isBlank

theorem skipBlank_append {u : List Char} (hu : allBlank u = true) (s : List Char) :
    skipBlank (u ++ s) = skipBlank s :=
  List.dropWhile_append_of_pos (List.all_eq_true.1 hu)

theorem skipBlank_of_not_allBlank {s : List Char} (hs : allBlank s = false) (v : List Char) :
    skipBlank (s ++ v) = skipBlank s ++ v := by
  induction s with
  | nil => simp [allBlank] at hs
  | cons c s ih =>
    by_cases hc : isBlank c = true
    · have : allBlank s = false := by simpa [allBlank, hc] using hs
      simpa [skipBlank, List.dropWhile_cons, hc] using ih this
    · simp [skipBlank, hc]

/-- A text that neither starts nor ends with white space is not shortened. -/
theorem trimBlank_eq_self {s : List Char} (hhead : ∀ c ∈ s.head?, isBlank c = false)
    (hlast : ∀ c ∈ s.getLast?, isBlank c = false) : trimBlank s = s := by
  have hskip : skipBlank s = s := by
    cases s with
    | nil => rfl
    | cons c s => simp [skipBlank, hhead c rfl]
  rw [trimBlank, hskip]
  rcases List.eq_nil_or_concat s with rfl | ⟨front, c, rfl⟩
  · rfl
  · rw [List.concat_eq_append, List.getLast?_concat] at hlast
    rw [List.concat_eq_append, dropLastWhile_append_of_neg (hlast c rfl)]
    rfl

theorem not_isBlank_of_mem_getLast?_trimBlank {cs : List Char} {c : Char}
    (h : c ∈ (trimBlank cs).getLast?) : isBlank c = false := by
  have hhead := List.head?_dropWhile_not isBlank (skipBlank cs).reverse
  rw [trimBlank, dropLastWhile, List.getLast?_reverse] at h
  rw [h] at hhead
  exact hhead

/-- White space around a text that holds something else does not count. -/
theorem trimBlank_append {u s v : List Char} (hu : allBlank u = true) (hs : allBlank s = false)
    (hv : allBlank v = true) : trimBlank (u ++ s ++ v) = trimBlank s := by
  rw [trimBlank, List.append_assoc, skipBlank_append hu, skipBlank_of_not_allBlank hs,
    dropLastWhile_append hv, trimBlank]

/-- What is left between white space is the text that neither starts nor ends with any. -/
theorem trimBlank_append_of_ends {u s v : List Char} (hu : allBlank u = true)
    (hv : allBlank v = true) (hne : s ≠ []) (hhead : ∀ c ∈ s.head?, isBlank c = false)
    (hlast : ∀ c ∈ s.getLast?, isBlank c = false) : trimBlank (u ++ s ++ v) = s := by
  have hs : allBlank s = false := by
    cases s with
    | nil => exact absurd rfl hne
    | cons c s => rw [allBlank, List.all_cons, hhead c rfl, Bool.false_and]
  rw [trimBlank_append hu hs hv, trimBlank_eq_self hhead hlast]

end Text
end DebugSession
