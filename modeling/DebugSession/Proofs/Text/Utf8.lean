/-
UTF-8 byte by byte.  A character is a lead byte with its continuation bytes, and `completes` says
so of the classes of the bytes; `begins` says which bytes are cut off inside a character.  Both
agree with the encoding of characters, and `segments` is determined by them: it takes a character
where there is one, else the longest beginning of one, else a single byte.
-/
import DebugSession.Text.Utf8

namespace DebugSession
namespace Text
namespace Utf8

/-! ## Classes of bytes as ranges of numbers -/

theorem isAscii_iff {b : UInt8} : isAscii b = true ↔ b.toNat < 0x80 := by
  simp [isAscii, UInt8.lt_iff_toNat_lt]

theorem isContinuation_iff {b : UInt8} :
    isContinuation b = true ↔ 0x80 ≤ b.toNat ∧ b.toNat ≤ 0xBF := by
  simp [isContinuation, UInt8.le_iff_toNat_le]

theorem isLead2_iff {b : UInt8} : isLead2 b = true ↔ 0xC2 ≤ b.toNat ∧ b.toNat ≤ 0xDF := by
  simp [isLead2, UInt8.le_iff_toNat_le]

theorem isLead3_iff {b : UInt8} : isLead3 b = true ↔ 0xE0 ≤ b.toNat ∧ b.toNat ≤ 0xEF := by
  simp [isLead3, UInt8.le_iff_toNat_le]

theorem isLead4_iff {b : UInt8} : isLead4 b = true ↔ 0xF0 ≤ b.toNat ∧ b.toNat ≤ 0xF4 := by
  simp [isLead4, UInt8.le_iff_toNat_le]

theorem isSecondOf3_iff {a b : UInt8} :
    isSecondOf3 a b = true ↔
      (0x80 ≤ b.toNat ∧ b.toNat ≤ 0xBF) ∧ (a.toNat = 0xE0 → 0xA0 ≤ b.toNat) ∧
        (a.toNat = 0xED → b.toNat ≤ 0x9F) := by
  have he : a = 0xE0 ↔ a.toNat = 0xE0 := UInt8.toNat_inj.symm
  have hd : a = 0xED ↔ a.toNat = 0xED := UInt8.toNat_inj.symm
  simp only [isSecondOf3, he, hd]
  split
  · simp only [Bool.and_eq_true, decide_eq_true_eq, UInt8.le_iff_toNat_le, UInt8.reduceToNat]
    omega
  · split
    · simp only [Bool.and_eq_true, decide_eq_true_eq, UInt8.le_iff_toNat_le, UInt8.reduceToNat]
      omega
    · rw [isContinuation_iff]
      omega

theorem isSecondOf4_iff {a b : UInt8} :
    isSecondOf4 a b = true ↔
      (0x80 ≤ b.toNat ∧ b.toNat ≤ 0xBF) ∧ (a.toNat = 0xF0 → 0x90 ≤ b.toNat) ∧
        (a.toNat = 0xF4 → b.toNat ≤ 0x8F) := by
  have h0 : a = 0xF0 ↔ a.toNat = 0xF0 := UInt8.toNat_inj.symm
  have h4 : a = 0xF4 ↔ a.toNat = 0xF4 := UInt8.toNat_inj.symm
  simp only [isSecondOf4, h0, h4]
  split
  · simp only [Bool.and_eq_true, decide_eq_true_eq, UInt8.le_iff_toNat_le, UInt8.reduceToNat]
    omega
  · split
    · simp only [Bool.and_eq_true, decide_eq_true_eq, UInt8.le_iff_toNat_le, UInt8.reduceToNat]
      omega
    · rw [isContinuation_iff]
      omega

/-! ## Characters and their beginnings -/

/-- The character that bytes are, said of the classes of the bytes. -/
def completes : Bytes → Option Char
  | [a] => if isAscii a then some (Char.ofNat a.toNat) else none
  | [a, b] => if isLead2 a && isContinuation b then some (charOf2 a b) else none
  | [a, b, c] =>
    if isLead3 a && isSecondOf3 a b && isContinuation c then some (charOf3 a b c) else none
  | [a, b, c, d] =>
    if isLead4 a && isSecondOf4 a b && isContinuation c && isContinuation d then
      some (charOf4 a b c d)
    else none
  | _ => none

/-- Whether bytes begin a character and do not complete it, said of the classes of the bytes. -/
def begins : Bytes → Bool
  | [a] => isLead2 a || isLead3 a || isLead4 a
  | [a, b] => isLead3 a && isSecondOf3 a b || isLead4 a && isSecondOf4 a b
  | [a, b, c] => isLead4 a && isSecondOf4 a b && isContinuation c
  | _ => false

theorem toNat_ofNat_of_lt {n : Nat} (h : n < 0xD800 ∨ 0xDFFF < n ∧ n < 0x110000) :
    (Char.ofNat n).val.toNat = n := by
  have hv : n.isValidChar := h
  rw [Char.ofNat, dif_pos hv]
  rfl

theorem completes_one {a : UInt8} {c : Char} :
    completes [a] = some c ↔ isAscii a = true ∧ Char.ofNat a.toNat = c := by
  simp only [completes, Option.ite_none_right_eq_some, Option.some.injEq]

theorem completes_two {a b : UInt8} {c : Char} :
    completes [a, b] = some c ↔
      (isLead2 a = true ∧ isContinuation b = true) ∧ charOf2 a b = c := by
  simp only [completes, Bool.and_eq_true, Option.ite_none_right_eq_some, Option.some.injEq]

theorem completes_three {a b b' : UInt8} {c : Char} :
    completes [a, b, b'] = some c ↔
      ((isLead3 a = true ∧ isSecondOf3 a b = true) ∧ isContinuation b' = true) ∧
        charOf3 a b b' = c := by
  simp only [completes, Bool.and_eq_true, Option.ite_none_right_eq_some, Option.some.injEq]

theorem completes_four {a b b' b'' : UInt8} {c : Char} :
    completes [a, b, b', b''] = some c ↔
      (((isLead4 a = true ∧ isSecondOf4 a b = true) ∧ isContinuation b' = true) ∧
        isContinuation b'' = true) ∧ charOf4 a b b' b'' = c := by
  simp only [completes, Bool.and_eq_true, Option.ite_none_right_eq_some, Option.some.injEq]

/-- The encoding of a character by the number of bytes it takes. -/
theorem utf8EncodeChar_cases (c : Char) :
    (c.val.toNat < 0x80 ∧ String.utf8EncodeChar c = [UInt8.ofNat c.val.toNat]) ∨
      (0x80 ≤ c.val.toNat ∧ c.val.toNat < 0x800 ∧ String.utf8EncodeChar c =
        [UInt8.ofNat (c.val.toNat / 64 % 0x20 + 0xC0), UInt8.ofNat (c.val.toNat % 0x40 + 0x80)]) ∨
      (0x800 ≤ c.val.toNat ∧ c.val.toNat < 0x10000 ∧ String.utf8EncodeChar c =
        [UInt8.ofNat (c.val.toNat / 4096 % 0x10 + 0xE0),
          UInt8.ofNat (c.val.toNat / 64 % 0x40 + 0x80), UInt8.ofNat (c.val.toNat % 0x40 + 0x80)]) ∨
      (0x10000 ≤ c.val.toNat ∧ String.utf8EncodeChar c =
        [UInt8.ofNat (c.val.toNat / 262144 % 0x08 + 0xF0),
          UInt8.ofNat (c.val.toNat / 4096 % 0x40 + 0x80),
          UInt8.ofNat (c.val.toNat / 64 % 0x40 + 0x80), UInt8.ofNat (c.val.toNat % 0x40 + 0x80)]) := by
  simp only [String.utf8EncodeChar]
  split
  · exact .inl ⟨by omega, rfl⟩
  · split
    · exact .inr (.inl ⟨by omega, by omega, rfl⟩)
    · split
      · exact .inr (.inr (.inl ⟨by omega, by omega, rfl⟩))
      · exact .inr (.inr (.inr ⟨by omega, rfl⟩))

/-- What encodes a character is that character. -/
theorem completes_utf8EncodeChar (c : Char) : completes (String.utf8EncodeChar c) = some c := by
  have hc := c.valid
  simp only [UInt32.isValidChar, Nat.isValidChar] at hc
  have hback : Char.ofNat c.val.toNat = c := Char.ofNat_toNat c
  rcases utf8EncodeChar_cases c with ⟨h, he⟩ | ⟨h, h', he⟩ | ⟨h, h', he⟩ | ⟨h, he⟩
  · rw [he, completes_one, isAscii_iff]
    simp only [UInt8.toNat_ofNat']
    exact ⟨by omega, (congrArg Char.ofNat (by omega)).trans hback⟩
  · rw [he, completes_two, isLead2_iff, isContinuation_iff, charOf2, payload]
    simp only [UInt8.toNat_ofNat']
    exact ⟨⟨by omega, by omega⟩, (congrArg Char.ofNat (by omega)).trans hback⟩
  · rw [he, completes_three, isLead3_iff, isSecondOf3_iff, isContinuation_iff, charOf3, payload,
      payload]
    simp only [UInt8.toNat_ofNat']
    exact ⟨⟨⟨by omega, by omega⟩, by omega⟩, (congrArg Char.ofNat (by omega)).trans hback⟩
  · rw [he, completes_four, isLead4_iff, isSecondOf4_iff, isContinuation_iff, isContinuation_iff,
      charOf4, payload, payload, payload]
    simp only [UInt8.toNat_ofNat']
    exact ⟨⟨⟨⟨by omega, by omega⟩, by omega⟩, by omega⟩,
      (congrArg Char.ofNat (by omega)).trans hback⟩

theorem ofNat_eq_of_toNat {a : UInt8} {n : Nat} (h : n = a.toNat) : UInt8.ofNat n = a := by
  rw [h, UInt8.ofNat_toNat]

/-- Bytes that are a character encode it. -/
theorem utf8EncodeChar_of_completes {p : Bytes} {c : Char} (h : completes p = some c) :
    String.utf8EncodeChar c = p := by
  match p with
  | [] => simp [completes] at h
  | [a] =>
    rw [completes_one, isAscii_iff] at h
    obtain ⟨ha, rfl⟩ := h
    have hv : (Char.ofNat a.toNat).val.toNat = a.toNat := toNat_ofNat_of_lt (by omega)
    rcases utf8EncodeChar_cases (Char.ofNat a.toNat) with ⟨_, he⟩ | ⟨_, _, _⟩ | ⟨_, _, _⟩ | ⟨_, _⟩
    · rw [he, hv, UInt8.ofNat_toNat]
    all_goals omega
  | [a, b] =>
    rw [completes_two, isLead2_iff, isContinuation_iff] at h
    obtain ⟨⟨ha, hb⟩, rfl⟩ := h
    have hv : (charOf2 a b).val.toNat = a.toNat % 0x20 * 0x40 + payload b :=
      toNat_ofNat_of_lt (by simp only [payload]; omega)
    simp only [payload] at hv
    rcases utf8EncodeChar_cases (charOf2 a b) with ⟨_, _⟩ | ⟨_, _, he⟩ | ⟨_, _, _⟩ | ⟨_, _⟩
    · omega
    · rw [he, hv, ofNat_eq_of_toNat (a := a) (by omega), ofNat_eq_of_toNat (a := b) (by omega)]
    all_goals omega
  | [a, b, b'] =>
    rw [completes_three, isLead3_iff, isSecondOf3_iff, isContinuation_iff] at h
    obtain ⟨⟨⟨ha, hb⟩, hb'⟩, rfl⟩ := h
    have hv : (charOf3 a b b').val.toNat =
        a.toNat % 0x10 * 0x1000 + payload b * 0x40 + payload b' :=
      toNat_ofNat_of_lt (by simp only [payload]; omega)
    simp only [payload] at hv
    rcases utf8EncodeChar_cases (charOf3 a b b') with ⟨_, _⟩ | ⟨_, _, _⟩ | ⟨_, _, he⟩ | ⟨_, _⟩
    · omega
    · omega
    · rw [he, hv, ofNat_eq_of_toNat (a := a) (by omega), ofNat_eq_of_toNat (a := b) (by omega),
        ofNat_eq_of_toNat (a := b') (by omega)]
    · omega
  | [a, b, b', b''] =>
    rw [completes_four, isLead4_iff, isSecondOf4_iff, isContinuation_iff, isContinuation_iff] at h
    obtain ⟨⟨⟨⟨ha, hb⟩, hb'⟩, hb''⟩, rfl⟩ := h
    have hv : (charOf4 a b b' b'').val.toNat = a.toNat % 0x08 * 0x40000 + payload b * 0x1000 +
        payload b' * 0x40 + payload b'' :=
      toNat_ofNat_of_lt (by simp only [payload]; omega)
    simp only [payload] at hv
    rcases utf8EncodeChar_cases (charOf4 a b b' b'') with ⟨_, _⟩ | ⟨_, _, _⟩ | ⟨_, _, _⟩ | ⟨_, he⟩
    · omega
    · omega
    · omega
    · rw [he, hv, ofNat_eq_of_toNat (a := a) (by omega), ofNat_eq_of_toNat (a := b) (by omega),
        ofNat_eq_of_toNat (a := b') (by omega), ofNat_eq_of_toNat (a := b'') (by omega)]
  | _ :: _ :: _ :: _ :: _ :: _ => simp [completes] at h

/-- Bytes are a character exactly if they are its encoding. -/
theorem begins_one {a : UInt8} :
    begins [a] = true ↔ (isLead2 a = true ∨ isLead3 a = true) ∨ isLead4 a = true := by
  simp only [begins, Bool.or_eq_true]

theorem begins_two {a b : UInt8} :
    begins [a, b] = true ↔ isLead3 a = true ∧ isSecondOf3 a b = true ∨
      isLead4 a = true ∧ isSecondOf4 a b = true := by
  simp only [begins, Bool.or_eq_true, Bool.and_eq_true]

theorem begins_three {a b c : UInt8} :
    begins [a, b, c] = true ↔
      (isLead4 a = true ∧ isSecondOf4 a b = true) ∧ isContinuation c = true := by
  simp only [begins, Bool.and_eq_true]

/-- A character cut off anywhere inside leaves bytes that begin one. -/
theorem begins_of_completes_append {p q : Bytes} {c : Char} (hp : p ≠ []) (hq : q ≠ [])
    (h : completes (p ++ q) = some c) : begins p = true := by
  match p, q with
  | [a], [b] =>
    rw [List.cons_append, List.nil_append, completes_two] at h
    exact begins_one.2 (.inl (.inl h.1.1))
  | [a], [b, b'] =>
    rw [List.cons_append, List.nil_append, completes_three] at h
    exact begins_one.2 (.inl (.inr h.1.1.1))
  | [a], [b, b', b''] =>
    rw [List.cons_append, List.nil_append, completes_four] at h
    exact begins_one.2 (.inr h.1.1.1.1)
  | [a, b], [b'] =>
    rw [List.cons_append, List.cons_append, List.nil_append, completes_three] at h
    exact begins_two.2 (.inl h.1.1)
  | [a, b], [b', b''] =>
    rw [List.cons_append, List.cons_append, List.nil_append, completes_four] at h
    exact begins_two.2 (.inr h.1.1.1)
  | [a, b, b'], [b''] =>
    simp only [List.cons_append, List.nil_append, completes_four] at h
    exact begins_three.2 h.1.1
  | [a], _ :: _ :: _ :: _ :: _ => simp [completes] at h
  | [a, b], _ :: _ :: _ :: _ => simp [completes] at h
  | [a, b, b'], _ :: _ :: _ => simp [completes] at h
  | _ :: _ :: _ :: _ :: _, _ :: _ => simp [completes] at h

theorem exists_isSecondOf3 (a : UInt8) : ∃ b, isSecondOf3 a b = true := by
  by_cases he : a.toNat = 0xE0
  · refine ⟨0xA0, isSecondOf3_iff.2 ?_⟩
    simp only [UInt8.reduceToNat]
    omega
  · refine ⟨0x80, isSecondOf3_iff.2 ?_⟩
    simp only [UInt8.reduceToNat]
    omega

theorem exists_isSecondOf4 (a : UInt8) : ∃ b, isSecondOf4 a b = true := by
  by_cases hf : a.toNat = 0xF0
  · refine ⟨0x90, isSecondOf4_iff.2 ?_⟩
    simp only [UInt8.reduceToNat]
    omega
  · refine ⟨0x80, isSecondOf4_iff.2 ?_⟩
    simp only [UInt8.reduceToNat]
    omega

/-- Bytes that begin a character can be completed. -/
theorem exists_completes_of_begins {p : Bytes} (h : begins p = true) :
    ∃ q c, q ≠ [] ∧ completes (p ++ q) = some c := by
  match p with
  | [a] =>
    rcases begins_one.1 h with (h | h) | h
    · exact ⟨[0x80], charOf2 a 0x80, by decide, completes_two.2 ⟨⟨h, by decide⟩, rfl⟩⟩
    · obtain ⟨b, hb⟩ := exists_isSecondOf3 a
      exact ⟨[b, 0x80], charOf3 a b 0x80, by simp, completes_three.2 ⟨⟨⟨h, hb⟩, by decide⟩, rfl⟩⟩
    · obtain ⟨b, hb⟩ := exists_isSecondOf4 a
      exact ⟨[b, 0x80, 0x80], charOf4 a b 0x80 0x80, by simp,
        completes_four.2 ⟨⟨⟨⟨h, hb⟩, by decide⟩, by decide⟩, rfl⟩⟩
  | [a, b] =>
    rcases begins_two.1 h with h | h
    · exact ⟨[0x80], charOf3 a b 0x80, by decide, completes_three.2 ⟨⟨h, by decide⟩, rfl⟩⟩
    · exact ⟨[0x80, 0x80], charOf4 a b 0x80 0x80, by decide,
        completes_four.2 ⟨⟨⟨h, by decide⟩, by decide⟩, rfl⟩⟩
  | [a, b, b'] =>
    exact ⟨[0x80], charOf4 a b b' 0x80, by decide,
      completes_four.2 ⟨⟨begins_three.1 h, by decide⟩, rfl⟩⟩
  | [] => simp [begins] at h
  | _ :: _ :: _ :: _ :: _ => simp [begins] at h

/-- Bytes begin a character if and only if they are a proper part of its encoding, from the first
byte on. -/
theorem begins_iff {p : Bytes} :
    begins p = true ↔ p ≠ [] ∧ ∃ c q, q ≠ [] ∧ String.utf8EncodeChar c = p ++ q := by
  constructor
  · intro h
    obtain ⟨q, c, hq, hc⟩ := exists_completes_of_begins h
    refine ⟨?_, c, q, hq, utf8EncodeChar_of_completes hc⟩
    rintro rfl
    simp [begins] at h
  · rintro ⟨hp, c, q, hq, hc⟩
    exact begins_of_completes_append hp hq (hc ▸ completes_utf8EncodeChar c)

theorem begins_of_begins_append {p q : Bytes} (hp : p ≠ []) (h : begins (p ++ q) = true) :
    begins p = true := by
  obtain ⟨-, c, r, hr, hc⟩ := begins_iff.1 h
  rw [List.append_assoc] at hc
  exact begins_iff.2 ⟨hp, c, q ++ r, List.append_ne_nil_of_right_ne_nil q hr, hc⟩

theorem length_of_begins {p : Bytes} (h : begins p = true) : 0 < p.length ∧ p.length ≤ 3 := by
  match p with
  | [_] | [_, _] | [_, _, _] => simp
  | [] => simp [begins] at h
  | _ :: _ :: _ :: _ :: _ => simp [begins] at h

/-- Bytes that begin a character are none. -/
theorem completes_eq_none_of_begins {p : Bytes} (h : begins p = true) : completes p = none := by
  cases hc : completes p with
  | none => rfl
  | some c =>
    match p with
    | [a] =>
      rw [completes_one, isAscii_iff] at hc
      rw [begins_one, isLead2_iff, isLead3_iff, isLead4_iff] at h
      omega
    | [a, b] =>
      rw [completes_two, isLead2_iff] at hc
      rw [begins_two, isLead3_iff, isLead4_iff] at h
      omega
    | [a, b, b'] =>
      rw [completes_three, isLead3_iff] at hc
      rw [begins_three, isLead4_iff] at h
      omega
    | [] => simp [begins] at h
    | _ :: _ :: _ :: _ :: _ => simp [begins] at h

/-! ## The front of bytes -/

/-- What bytes start with: a character, a beginning that is not gone on with, a byte that no
character has at its front, or a beginning that is all there is. -/
inductive Front : Bytes → Prop where
  | char {p : Bytes} {c : Char} (h : completes p = some c) (rest : Bytes) : Front (p ++ rest)
  | broken {p : Bytes} {b : UInt8} (h : begins p = true) (hc : completes (p ++ [b]) = none)
    (hb : begins (p ++ [b]) = false) (rest : Bytes) : Front (p ++ b :: rest)
  | stray {b : UInt8} (hc : completes [b] = none) (hb : begins [b] = false) (rest : Bytes) :
    Front (b :: rest)
  | cut {p : Bytes} (h : begins p = true) : Front p

theorem front_of_begins {p : Bytes} (hp : begins p = true) (rest : Bytes) : Front (p ++ rest) := by
  induction rest generalizing p with
  | nil =>
    rw [List.append_nil]
    exact .cut hp
  | cons b rest ih =>
    cases hc : completes (p ++ [b]) with
    | some c =>
      rw [List.append_cons]
      exact .char hc rest
    | none =>
      cases hb : begins (p ++ [b]) with
      | true =>
        rw [List.append_cons]
        exact ih hb
      | false => exact .broken hp hc hb rest

theorem front (b : UInt8) (rest : Bytes) : Front (b :: rest) := by
  cases hc : completes [b] with
  | some c => exact .char hc rest
  | none =>
    cases hb : begins [b] with
    | true => exact front_of_begins hb rest
    | false => exact .stray hc hb rest

/-! ## Segments -/

theorem not_of_isLead2 {a : UInt8} (h : isLead2 a = true) : isAscii a = false := by
  rw [isLead2_iff] at h
  rw [← Bool.not_eq_true, isAscii_iff]
  omega

theorem not_of_isLead3 {a : UInt8} (h : isLead3 a = true) :
    isAscii a = false ∧ isLead2 a = false := by
  rw [isLead3_iff] at h
  rw [← Bool.not_eq_true, ← Bool.not_eq_true, isAscii_iff, isLead2_iff]
  omega

theorem not_of_isLead4 {a : UInt8} (h : isLead4 a = true) :
    isAscii a = false ∧ isLead2 a = false ∧ isLead3 a = false := by
  rw [isLead4_iff] at h
  rw [← Bool.not_eq_true, ← Bool.not_eq_true, ← Bool.not_eq_true, isAscii_iff, isLead2_iff,
    isLead3_iff]
  omega

/-- A character at the front is a segment. -/
theorem segments_of_completes {p : Bytes} {c : Char} (h : completes p = some c) (rest : Bytes) :
    segments (p ++ rest) = .char c :: segments rest := by
  rw [segments.eq_def]
  match p with
  | [a] =>
    obtain ⟨ha, rfl⟩ := completes_one.1 h
    simp [ha]
  | [a, b] =>
    obtain ⟨⟨ha, hb⟩, rfl⟩ := completes_two.1 h
    simp [not_of_isLead2 ha, ha, hb]
  | [a, b, b'] =>
    obtain ⟨⟨⟨ha, hb⟩, hb'⟩, rfl⟩ := completes_three.1 h
    simp [not_of_isLead3 ha, ha, hb, hb']
  | [a, b, b', b''] =>
    obtain ⟨⟨⟨⟨ha, hb⟩, hb'⟩, hb''⟩, rfl⟩ := completes_four.1 h
    simp [not_of_isLead4 ha, ha, hb, hb', hb'']
  | [] => simp [completes] at h
  | _ :: _ :: _ :: _ :: _ :: _ => simp [completes] at h

/-- A character that the end of the bytes cuts off is the last segment. -/
theorem segments_of_begins {p : Bytes} (h : begins p = true) : segments p = [.cut p.length] := by
  rw [segments.eq_def]
  match p with
  | [a] =>
    rcases begins_one.1 h with (h | h) | h
    · simp [not_of_isLead2 h, h]
    · simp [not_of_isLead3 h, h]
    · simp [not_of_isLead4 h, h]
  | [a, b] =>
    rcases begins_two.1 h with ⟨h, hb⟩ | ⟨h, hb⟩
    · simp [not_of_isLead3 h, h, hb]
    · simp [not_of_isLead4 h, h, hb]
  | [a, b, b'] =>
    obtain ⟨⟨h, hb⟩, hb'⟩ := begins_three.1 h
    simp [not_of_isLead4 h, h, hb, hb']
  | [] => simp [begins] at h
  | _ :: _ :: _ :: _ :: _ => simp [begins] at h

/-- A beginning that the next byte does not go on with is a segment without that byte. -/
theorem segments_of_broken {p : Bytes} {b : UInt8} (h : begins p = true)
    (hc : completes (p ++ [b]) = none) (hb : begins (p ++ [b]) = false) (rest : Bytes) :
    segments (p ++ b :: rest) = .broken p.length :: segments (b :: rest) := by
  rw [segments.eq_def]
  match p with
  | [a] =>
    simp only [List.cons_append, List.nil_append, completes, begins] at hc hb
    rcases begins_one.1 h with (h | h) | h
    · have hn : isContinuation b = false := by simpa [h] using hc
      simp [not_of_isLead2 h, h, hn]
    · have hn : isSecondOf3 a b = false := by
        simp only [h, Bool.true_and, Bool.or_eq_false_iff] at hb
        exact hb.1
      simp [not_of_isLead3 h, h, hn]
    · have hn : isSecondOf4 a b = false := by simpa [not_of_isLead4 h, h] using hb
      simp [not_of_isLead4 h, h, hn]
  | [a, a'] =>
    simp only [List.cons_append, List.nil_append, completes, begins] at hc hb
    rcases begins_two.1 h with ⟨h, ha'⟩ | ⟨h, ha'⟩
    · have hn : isContinuation b = false := by simpa [h, ha'] using hc
      simp [not_of_isLead3 h, h, ha', hn]
    · have hn : isContinuation b = false := by simpa [h, ha'] using hb
      simp [not_of_isLead4 h, h, ha', hn]
  | [a, a', a''] =>
    simp only [List.cons_append, List.nil_append, completes] at hc
    obtain ⟨⟨h, ha'⟩, ha''⟩ := begins_three.1 h
    have hn : isContinuation b = false := by simpa [h, ha', ha''] using hc
    simp [not_of_isLead4 h, h, ha', ha'', hn]
  | [] => simp [begins] at h
  | _ :: _ :: _ :: _ :: _ => simp [begins] at h

/-- A byte that no character has at its front is a segment of its own. -/
theorem segments_of_stray {b : UInt8} (hc : completes [b] = none) (hb : begins [b] = false)
    (rest : Bytes) : segments (b :: rest) = .broken 1 :: segments rest := by
  have ha : isAscii b = false := by simpa [completes] using hc
  simp only [begins, Bool.or_eq_false_iff] at hb
  rw [segments.eq_def]
  simp [ha, hb]

/-- The segments of encoded characters are these characters. -/
theorem segments_flatMap_utf8EncodeChar (cs : List Char) (rest : Bytes) :
    segments (cs.flatMap String.utf8EncodeChar ++ rest) = cs.map .char ++ segments rest := by
  induction cs with
  | nil => rfl
  | cons c cs ih =>
    rw [List.flatMap_cons, List.append_assoc,
      segments_of_completes (completes_utf8EncodeChar c), ih]
    rfl

/-- Characters before a fault move the place where it is. -/
theorem chars_map_char_append (start : Nat) (cs : List Char) (rest : List Segment) :
    chars start (cs.map .char ++ rest) =
      (cs ++ ·) <$> chars (start + (cs.flatMap String.utf8EncodeChar).length) rest := by
  induction cs generalizing start with
  | nil =>
    show chars start rest = (fun x => x) <$> chars start rest
    rw [id_map']
  | cons c cs ih =>
    rw [List.map_cons, List.cons_append, chars, ih, List.flatMap_cons, List.length_append,
      String.length_utf8EncodeChar, Nat.add_assoc, Functor.map_map]
    rfl

theorem chars_map_char (start : Nat) (cs : List Char) :
    chars start (cs.map .char) = .ok cs := by
  have h := chars_map_char_append start cs []
  rw [List.append_nil] at h
  rw [h]
  show Except.ok (cs ++ []) = _
  rw [List.append_nil]

theorem segments_encode (text : String) : segments (encode text) = text.toList.map .char := by
  have h := segments_flatMap_utf8EncodeChar text.toList []
  rw [List.append_nil, segments, List.append_nil] at h
  exact h

/-- A text is read back from its bytes. -/
theorem decode_encode (text : String) : decode (encode text) = .ok text := by
  rw [decode, segments_encode, chars_map_char]
  exact congrArg _ (String.ofList_toList ..)

/-! ## Lenient text -/

/-- The characters of the lenient text. -/
def shown (bytes : Bytes) : List Char := (segments bytes).map Segment.lossy

theorem lossy_eq_ofList_shown (bytes : Bytes) : lossy bytes = String.ofList (shown bytes) := rfl

theorem shown_nil : shown [] = [] := by
  rw [shown, segments, List.map_nil]

theorem shown_of_completes {p : Bytes} {c : Char} (h : completes p = some c) (rest : Bytes) :
    shown (p ++ rest) = c :: shown rest := by
  rw [shown, segments_of_completes h, List.map_cons]
  rfl

theorem shown_of_begins {p : Bytes} (h : begins p = true) : shown p = [replacement] := by
  rw [shown, segments_of_begins h]
  rfl

theorem shown_of_broken {p : Bytes} {b : UInt8} (h : begins p = true)
    (hc : completes (p ++ [b]) = none) (hb : begins (p ++ [b]) = false) (rest : Bytes) :
    shown (p ++ b :: rest) = replacement :: shown (b :: rest) := by
  rw [shown, segments_of_broken h hc hb, List.map_cons]
  rfl

theorem shown_of_stray {b : UInt8} (hc : completes [b] = none) (hb : begins [b] = false)
    (rest : Bytes) : shown (b :: rest) = replacement :: shown rest := by
  rw [shown, segments_of_stray hc hb, List.map_cons]
  rfl

/-- A character that is shown and that is no replacement is in the bytes. -/
theorem exists_of_shown_eq_cons {bytes : Bytes} {c : Char} {cs : List Char}
    (h : shown bytes = c :: cs) (hc : c ≠ replacement) :
    ∃ tail, bytes = String.utf8EncodeChar c ++ tail ∧ shown tail = cs := by
  have hnot : ∀ {ds : List Char}, replacement :: ds ≠ c :: cs := fun h =>
    hc (List.cons.inj h).1.symm
  cases bytes with
  | nil =>
    rw [shown_nil] at h
    exact absurd h (by simp)
  | cons b rest =>
    have hfront := front b rest
    generalize b :: rest = bytes at h hfront
    cases hfront with
    | @char p d hd tail =>
      rw [shown_of_completes hd] at h
      obtain ⟨rfl, htail⟩ := List.cons.inj h
      exact ⟨tail, by rw [utf8EncodeChar_of_completes hd], htail⟩
    | broken hp hcomp hb tail => exact absurd ((shown_of_broken hp hcomp hb tail).symm.trans h) hnot
    | stray hcomp hb tail => exact absurd ((shown_of_stray hcomp hb tail).symm.trans h) hnot
    | cut hp => exact absurd ((shown_of_begins hp).symm.trans h) hnot

theorem exists_of_shown_eq_append {name cs : List Char} {bytes : Bytes}
    (hname : replacement ∉ name) (h : shown bytes = name ++ cs) :
    ∃ tail, bytes = name.flatMap String.utf8EncodeChar ++ tail ∧ shown tail = cs := by
  induction name generalizing bytes with
  | nil => exact ⟨bytes, rfl, h⟩
  | cons c name ih =>
    obtain ⟨hc, hname⟩ := not_or.1 (mt List.mem_cons.2 hname)
    obtain ⟨tail, rfl, htail⟩ := exists_of_shown_eq_cons h (Ne.symm hc)
    obtain ⟨tail', rfl, hcs⟩ := ih hname htail
    refine ⟨tail', ?_, hcs⟩
    rw [List.flatMap_cons, List.append_assoc]

theorem shown_flatMap_utf8EncodeChar (cs : List Char) (rest : Bytes) :
    shown (cs.flatMap String.utf8EncodeChar ++ rest) = cs ++ shown rest := by
  rw [shown, segments_flatMap_utf8EncodeChar, List.map_append, List.map_map]
  exact congrArg (· ++ shown rest) (List.map_id cs)

/-! ## Bytes below 0x80 -/

theorem utf8EncodeChar_of_isAscii {b : UInt8} (h : isAscii b = true) :
    String.utf8EncodeChar (Char.ofNat b.toNat) = [b] :=
  utf8EncodeChar_of_completes (completes_one.2 ⟨h, rfl⟩)

/-- A byte below 0x80 encodes a character on its own, wherever it stands. -/
theorem utf8EncodeChar_eq_of_mem {b : UInt8} {c : Char} (hb : isAscii b = true)
    (h : b ∈ String.utf8EncodeChar c) : String.utf8EncodeChar c = [b] := by
  have hc := completes_utf8EncodeChar c
  rw [isAscii_iff] at hb
  revert h hc
  match String.utf8EncodeChar c with
  | [a₁] =>
    intro h _
    rw [List.mem_singleton.1 h]
  | [a₁, a₂] =>
    intro h hc
    rw [completes_two, isLead2_iff, isContinuation_iff] at hc
    simp only [List.mem_cons, List.not_mem_nil, or_false] at h
    rcases h with rfl | rfl <;> omega
  | [a₁, a₂, a₃] =>
    intro h hc
    rw [completes_three, isLead3_iff, isSecondOf3_iff, isContinuation_iff] at hc
    simp only [List.mem_cons, List.not_mem_nil, or_false] at h
    rcases h with rfl | rfl | rfl <;> omega
  | [a₁, a₂, a₃, a₄] =>
    intro h hc
    rw [completes_four, isLead4_iff, isSecondOf4_iff, isContinuation_iff, isContinuation_iff] at hc
    simp only [List.mem_cons, List.not_mem_nil, or_false] at h
    rcases h with rfl | rfl | rfl | rfl <;> omega
  | [] => intro h; simp at h
  | _ :: _ :: _ :: _ :: _ :: _ => intro _ hc; simp [completes] at hc

theorem eq_ofNat_of_mem_utf8EncodeChar {b : UInt8} {c : Char} (hb : isAscii b = true)
    (h : b ∈ String.utf8EncodeChar c) : c = Char.ofNat b.toNat := by
  have hc := completes_utf8EncodeChar c
  rw [utf8EncodeChar_eq_of_mem hb h, completes_one] at hc
  exact hc.2.symm

/-- A byte below 0x80 is in an encoded text exactly if its character is in the text. -/
theorem mem_flatMap_utf8EncodeChar {b : UInt8} (hb : isAscii b = true) {cs : List Char} :
    b ∈ cs.flatMap String.utf8EncodeChar ↔ Char.ofNat b.toNat ∈ cs := by
  rw [List.mem_flatMap]
  constructor
  · rintro ⟨c, hc, hbc⟩
    rw [← eq_ofNat_of_mem_utf8EncodeChar hb hbc]
    exact hc
  · intro h
    exact ⟨_, h, by rw [utf8EncodeChar_of_isAscii hb]; exact List.mem_singleton_self b⟩

theorem encode_append (s t : String) : encode (s ++ t) = encode s ++ encode t := by
  rw [encode, String.toList_append, List.flatMap_append]
  rfl

theorem encode_ofList (cs : List Char) :
    encode (String.ofList cs) = cs.flatMap String.utf8EncodeChar := by
  rw [encode, String.toList_ofList]

theorem length_encode (text : String) : (encode text).length = text.utf8ByteSize := by
  conv => rhs; rw [← String.ofList_toList (s := text)]
  rw [← String.size_toByteArray, String.toByteArray_ofList, List.utf8Encode,
    List.size_toByteArray]
  rfl

end Utf8
end Text
end DebugSession
