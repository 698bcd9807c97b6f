/-
The words and numbers that the forms of the command line are made of, and the order in which the
forms are tried.
-/
import DebugSession.Cli.Command

namespace DebugSession
namespace Text

theorem skipBlank_of_head {cs : List Char} (h : ∀ c ∈ cs.head?, isBlank c = false) :
    skipBlank cs = cs := by
  cases cs with
  | nil => rfl
  | cons c cs => exact List.dropWhile_cons_of_neg (by rw [h c rfl]; exact Bool.false_ne_true)

theorem not_isBlank_of_mem_head? {cs : List Char} {c : Char} (h : c ∈ (skipBlank cs).head?) :
    isBlank c = false := by
  have hhead := List.head?_dropWhile_not isBlank cs
  rw [skipBlank] at h
  rw [h] at hhead
  exact hhead

theorem skipBlank_skipBlank (cs : List Char) : skipBlank (skipBlank cs) = skipBlank cs :=
  skipBlank_of_head fun _ hc => not_isBlank_of_mem_head? hc

/-- A character that is no white space stays, with all behind it. -/
theorem skipBlank_append_cons {c : Char} (hc : isBlank c = false) (s v : List Char) :
    skipBlank (s ++ c :: v) = skipBlank s ++ c :: v := by
  induction s with
  | nil => exact skipBlank_of_head fun d hd => Option.some.inj hd ▸ hc
  | cons d s ih =>
    rw [skipBlank, skipBlank, List.cons_append, List.dropWhile_cons, List.dropWhile_cons]
    split
    · exact ih
    · rfl

theorem skipBlank_of_allBlank {v : List Char} (hv : allBlank v = true) : skipBlank v = [] := by
  have hskip := skipBlank_append hv []
  rwa [List.append_nil] at hskip

/-- A character without `p` ends the run of characters with `p` before it. -/
theorem takeWhile_append_cons {p : Char → Bool} {c : Char} (hc : p c = false) (s v : List Char) :
    (s ++ c :: v).takeWhile p = s.takeWhile p ∧
      (s ++ c :: v).dropWhile p = s.dropWhile p ++ c :: v := by
  induction s with
  | nil => simp [hc]
  | cons d s ih => by_cases hd : p d = true <;> simp [hd, ih]

namespace Decimal

/-- A character that is no digit ends the number before it. -/
theorem numeral_append_cons {c : Char} (hc : isDigit c = false) (s v : List Char) :
    numeral (s ++ c :: v) = ((numeral s).1, (numeral s).2 ++ c :: v) := by
  by_cases hzero : s.head? = some '0'
  · cases s with
    | nil => exact nomatch hzero
    | cons d s =>
      obtain rfl : d = '0' := Option.some.inj hzero
      rfl
  · have hs : numeral s = (s.takeWhile isDigit, s.dropWhile isDigit) := by
      rw [numeral]
      rintro more rfl
      exact hzero rfl
    have hnumeral : numeral (s ++ c :: v) =
        ((s ++ c :: v).takeWhile isDigit, (s ++ c :: v).dropWhile isDigit) := by
      rw [numeral]
      intro more hmore
      cases s with
      | nil =>
        obtain rfl : c = '0' := (List.cons.inj hmore).1
        exact absurd hc (by decide)
      | cons d s => exact hzero (congrArg some (List.cons.inj hmore).1)
    obtain ⟨htake, hdrop⟩ := takeWhile_append_cons hc s v
    rw [hnumeral, hs, htake, hdrop]

end Decimal
end Text

namespace Cli

theorem Attempt.orElse_failed {α : Type} (a : Attempt α) : (a.orElse fun _ => .failed) = a := by
  cases a <;> rfl

namespace Form

open Text (isBlank skipBlank)
open Text.Decimal (digits numeral value)
open Text.Identifier (Alphabet)

/-- A text before a character begins with what it begins with together with the character, unless
the character belongs to it. -/
theorem prefix_of_prefix_append_cons {w s v : List Char} {c : Char} (hc : c ∉ w)
    (h : w <+: s ++ c :: v) : w <+: s := by
  rcases List.prefix_or_prefix_of_prefix h (List.prefix_append s (c :: v)) with hw | hs
  · exact hw
  · obtain ⟨t, rfl⟩ := hs
    cases t with
    | nil => exact ⟨[], by rw [List.append_nil, List.append_nil]⟩
    | cons d t =>
      obtain rfl : d = c := (List.cons_prefix_cons.1 ((List.prefix_append_right_inj s).1 h)).1
      exact absurd (List.mem_append_right s List.mem_cons_self) hc

theorem word?_of_eq {w : String} {cs rest : List Char} (h : skipBlank cs = w.toList ++ rest) :
    word? w cs = some (skipBlank rest) := by
  rw [word?]
  simp only [h]
  rw [if_pos (List.isPrefixOf_iff_prefix.2 (List.prefix_append _ _)), ← String.length_toList,
    List.drop_left]

theorem word?_eq_none {w : String} {cs : List Char} (h : ¬ w.toList <+: skipBlank cs) :
    word? w cs = none :=
  if_neg (mt List.isPrefixOf_iff_prefix.1 h)

/-- A word is not there if the text does not start with its first letter. -/
theorem word?_of_head {w : String} {cs : List Char} {c : Char} (hw : w.toList.head? = some c)
    (h : (skipBlank cs).head? ≠ some c) : word? w cs = none := by
  refine word?_eq_none ?_
  rintro ⟨rest, hrest⟩
  rw [← hrest, List.head?_append, hw] at h
  exact h rfl

theorem spelled?_of_head {long short : String} {cs : List Char} {c d : Char}
    (hlong : long.toList.head? = some c) (hshort : short.toList.head? = some d)
    (hc : (skipBlank cs).head? ≠ some c) (hd : (skipBlank cs).head? ≠ some d) :
    spelled? long short cs = none := by
  rw [spelled?, word?_of_head hlong hc, word?_of_head hshort hd]
  rfl

/-- A word without white space in it. -/
structure IsWord (w : String) : Prop where
  ne_nil : w.toList ≠ []
  not_isBlank : ∀ c ∈ w.toList, isBlank c = false

instance (w : String) : Decidable (IsWord w) :=
  decidable_of_iff (w.toList ≠ [] ∧ w.toList.all (!isBlank ·) = true)
    ⟨fun h => ⟨h.1, by simpa using h.2⟩, fun h => ⟨h.ne_nil, by simpa using h.not_isBlank⟩⟩

theorem IsWord.skipBlank_append {w : String} (hw : IsWord w) (t : List Char) :
    skipBlank (w.toList ++ t) = w.toList ++ t := by
  refine Text.skipBlank_of_head fun d hd => ?_
  obtain ⟨c, cs, hcs⟩ := List.exists_cons_of_ne_nil hw.ne_nil
  rw [hcs] at hd
  obtain rfl : c = d := Option.some.inj hd
  exact hw.not_isBlank c (hcs ▸ List.mem_cons_self)

theorem spelled?_either {long short : String} (hlong : IsWord long) (hshort : IsWord short)
    (hnot : ¬ long.toList <+: short.toList) {t : List Char} (ht : ∀ c ∈ t.head?, isBlank c = true) :
    spelled? long short (long.toList ++ t) = some (skipBlank t) ∧
      spelled? long short (short.toList ++ t) = some (skipBlank t) := by
  have hshorter : word? long (short.toList ++ t) = none := by
    refine word?_eq_none ?_
    rw [hshort.skipBlank_append]
    cases t with
    | nil => rwa [List.append_nil]
    | cons c t =>
      refine mt (prefix_of_prefix_append_cons fun hc => ?_) hnot
      have hblank := ht c rfl
      rw [hlong.not_isBlank c hc] at hblank
      exact nomatch hblank
  rw [spelled?, spelled?, hshorter, word?_of_eq (hlong.skipBlank_append t),
    word?_of_eq (hshort.skipBlank_append t)]
  exact ⟨rfl, rfl⟩

/-- The text starts with a number that fits a word of 32 bits, after white space. -/
def StartsNumber (cs : List Char) : Prop :=
  (numeral (skipBlank cs)).1 ≠ [] ∧ value (numeral (skipBlank cs)).1 < UInt32.size

instance (cs : List Char) : Decidable (StartsNumber cs) :=
  inferInstanceAs (Decidable (_ ∧ _))

theorem number_of_startsNumber {cs : List Char} (h : StartsNumber cs) :
    number cs = .matched (UInt32.ofNat (value (numeral (skipBlank cs)).1))
      (skipBlank (numeral (skipBlank cs)).2) := by
  obtain ⟨hne, hfits⟩ := h
  rw [number]
  split
  · next heq => exact absurd (congrArg Prod.fst heq) hne
  · next heq =>
    rw [heq] at hfits ⊢
    exact if_pos hfits

theorem lenient_number_of_not {cs : List Char} (h : ¬ StartsNumber cs) :
    (number cs).lenient = .failed := by
  rw [number]
  split
  · rfl
  · next ds rest hne heq =>
    have hbig : ¬ value ds < UInt32.size := by
      intro hfits
      refine h ⟨?_, ?_⟩
      · rw [heq]
        exact hne
      · rw [heq]
        exact hfits
    simp only [if_neg hbig]
    rfl

/-- A text is cut at its first colon. -/
theorem cut_at_colon {file : List Char} (hcolon : ':' ∉ file) (rest : List Char) :
    (file ++ ':' :: rest).takeWhile (· ≠ ':') = file ∧
      (file ++ ':' :: rest).dropWhile (· ≠ ':') = ':' :: rest := by
  have hall : ∀ c ∈ file, decide (c ≠ ':') = true := fun c hc =>
    decide_eq_true fun h => hcolon (h ▸ hc)
  constructor
  · rw [List.takeWhile_append_of_pos hall, List.takeWhile_cons_of_neg (by simp), List.append_nil]
  · rw [List.dropWhile_append_of_pos hall, List.dropWhile_cons_of_neg (by simp)]

theorem number_skipBlank (cs : List Char) : number (skipBlank cs) = number cs := by
  rw [number, number, Text.skipBlank_skipBlank]

theorem number_digits (n : UInt32) : number (digits n.toNat) = .matched n [] := by
  have hnil : ∀ c ∈ ([] : List Char).head?, Text.Decimal.isDigit c = false := fun c hc => nomatch hc
  have hread := Text.Decimal.numeral_digits_append n.toNat hnil
  have hskip : skipBlank (digits n.toNat) = digits n.toNat := by
    refine Text.skipBlank_of_head fun c hc => ?_
    exact Text.Decimal.not_isBlank_of_isDigit
      (Text.Decimal.isDigit_of_mem_digits c (List.mem_of_mem_head? hc))
  rw [List.append_nil] at hread
  have hstarts : StartsNumber (digits n.toNat) := by
    rw [StartsNumber, hskip, hread, Text.Decimal.value_digits]
    exact ⟨Text.Decimal.digits_ne_nil _, n.toNat_lt⟩
  rw [number_of_startsNumber hstarts, hskip, hread, Text.Decimal.value_digits, UInt32.ofNat_toNat]
  rfl

/-! ## The form that a text is meant for -/

/-- The words of a form begin with these letters. -/
def Opens (letters : List Char) (form : List Char → Attempt Command) : Prop :=
  ∀ cs, (∀ c ∈ letters, (skipBlank cs).head? ≠ some c) → form cs = .failed

theorem opens_spelled (long short : String) {c d : Char} (hlong : long.toList.head? = some c)
    (hshort : short.toList.head? = some d) {form : List Char → Attempt Command}
    (hform : ∀ cs, spelled? long short cs = none → form cs = .failed) : Opens [c, d] form := by
  intro cs h
  exact hform cs (spelled?_of_head hlong hshort (h c (by simp)) (h d (by simp)))

theorem opens_word {w : String} {c : Char} (hw : w.toList.head? = some c)
    {form : List Char → Attempt Command} (hform : ∀ cs, word? w cs = none → form cs = .failed) :
    Opens [c] form := by
  intro cs h
  exact hform cs (word?_of_head hw (h c (by simp)))

/-- The letters of the forms, in the order of the forms. -/
def letters : List (List Char) :=
  [['f'], ['r', 'r'], ['a'], ['c', 'c'], ['n', 'n'], ['s', 's'], ['f'], ['i', 'p'], ['b', 'b'],
    ['t'], ['h', 'h'], ['q', 'q']]

/-- The forms that have words with this letter. -/
def formsFor (X : Alphabet) (c : Char) : List (List Char → Attempt Command) :=
  ((letters.zip (forms X)).filter fun p => p.1.contains c).map Prod.snd

theorem opens_of_mem_zip (X : Alphabet) {p : List Char × (List Char → Attempt Command)}
    (hp : p ∈ letters.zip (forms X)) : Opens p.1 p.2 := by
  have hconstant : ∀ {long short : String} {c d : Char} (cmd : Command),
      long.toList.head? = some c → short.toList.head? = some d →
        Opens [c, d] fun cs => constant cmd (spelled? long short cs) := by
    intro long short c d cmd hlong hshort
    exact opens_spelled _ _ hlong hshort fun cs h => by rw [h]; rfl
  revert p
  simp only [letters, forms, List.zip_cons_cons, List.zip_nil_right, List.forall_mem_cons,
    List.not_mem_nil, false_imp_iff, implies_true, and_true]
  refine ⟨?_, ?_, ?_, ?_, ?_, ?_, ?_, ?_, ?_, ?_, ?_, ?_⟩
  · exact opens_word (w := "file") rfl fun cs h => by rw [file, h]
  · exact hconstant .run rfl rfl
  · exact opens_word (w := "attach") rfl fun cs h => by rw [attach, h]
  · exact hconstant .resume rfl rfl
  · exact hconstant .next rfl rfl
  · exact hconstant .step rfl rfl
  · exact opens_word (w := "finish") rfl fun cs h => by rw [h]; rfl
  · exact hconstant .interrupt rfl rfl
  · exact opens_spelled "break" "b" rfl rfl fun cs h => by rw [breakpoint, h]
  · exact opens_word (w := "thread") rfl fun cs h => by rw [threadInfo, h]; rfl
  · exact opens_spelled "help" "h" rfl rfl fun cs h => by rw [help, h]
  · exact hconstant .quit rfl rfl

/-- A form that fails leaves a text to those behind it. -/
theorem firstMatch_of_failed {cs : List Char} {form : List Char → Attempt Command}
    {forms : List (List Char → Attempt Command)} (h : form cs = .failed) :
    firstMatch cs (form :: forms) = firstMatch cs forms := by
  rw [firstMatch, h]
  rfl

theorem firstMatch_singleton (cs : List Char) (form : List Char → Attempt Command) :
    firstMatch cs [form] = (form cs).atEnd :=
  Attempt.orElse_failed _

/-- Only the forms count that have words with the first letter of the text. -/
theorem firstMatch_forms (X : Alphabet) {cs : List Char} {c : Char}
    (h : (skipBlank cs).head? = some c) :
    firstMatch cs (forms X) = firstMatch cs (formsFor X c) := by
  have hall : ∀ ps : List (List Char × (List Char → Attempt Command)),
      (∀ p ∈ ps, Opens p.1 p.2) →
        firstMatch cs (ps.map Prod.snd) =
          firstMatch cs ((ps.filter fun p => p.1.contains c).map Prod.snd) := by
    intro ps
    induction ps with
    | nil => exact fun _ => rfl
    | cons p ps ih =>
      intro hps
      have hrest := ih fun q hq => hps q (List.mem_cons_of_mem _ hq)
      by_cases hp : p.1.contains c = true
      · rw [List.filter_cons_of_pos (by exact hp), List.map_cons, List.map_cons, firstMatch,
          firstMatch, hrest]
      · have hfailed : p.2 cs = .failed := by
          refine hps p List.mem_cons_self cs fun d hd hhead => hp ?_
          obtain rfl := Option.some.inj (h.symm.trans hhead)
          exact List.contains_iff_mem.2 hd
        rw [List.filter_cons_of_neg (by exact hp), List.map_cons, firstMatch_of_failed hfailed,
          hrest]
  exact hall (letters.zip (forms X)) fun p hp => opens_of_mem_zip X hp

end Form
end Cli
end DebugSession
