/-
Lines of bytes.  Bytes without LF only add to a line, and one LF completes it.  The CRs and LFs at
the end of a line of text are the same whether they are taken off its characters or off its bytes.
-/
import DebugSession.Framing.Line
import DebugSession.Proofs.Framing.Exact
import DebugSession.Proofs.Text.Utf8
import Mathlib.Data.List.DropRight

namespace DebugSession
namespace Line

open Text (Bytes dropLastWhile)
open Text.Utf8 (isAscii encode)

theorem isSeparator_iff {b : UInt8} : isSeparator b = true ↔ b = lf ∨ b = cr := by
  rw [isSeparator, Bool.or_eq_true, beq_iff_eq, beq_iff_eq]

/-! ## Reading a line -/

theorem push_of_ne {b : UInt8} (h : b ≠ lf) (held : Bytes) :
    framing.push held b = (none, b :: held) := if_neg h

theorem push_lf (held : Bytes) : framing.push held lf = (some (decode held.reverse), []) := by
  simp only [framing, if_true]

theorem run_of_not_mem {line : Bytes} (h : lf ∉ line) (held : Bytes) :
    framing.run held line = ([], line.reverse ++ held) := by
  induction line generalizing held with
  | nil => rfl
  | cons b line ih =>
    obtain ⟨hb, hline⟩ := not_or.1 (mt List.mem_cons.2 h)
    rw [Framing.run_of_push_none (push_of_ne (Ne.symm hb) held), ih hline, List.reverse_cons,
      List.append_assoc]
    rfl

/-- Bytes without LF are a line together with one LF. -/
theorem exact_line {line : Bytes} (h : lf ∉ line) : framing.Exact (line ++ [lf]) (decode line) := by
  refine ⟨line, lf, line.reverse, rfl, ?_, ?_⟩
  · exact (run_of_not_mem h []).trans (by rw [List.append_nil])
  · show framing.push line.reverse lf = _
    rw [push_lf, List.reverse_reverse]
    rfl

/-- Induction line by line: a stream has no LF, or it is a line and a shorter stream behind its
LF. -/
@[elab_as_elim]
theorem byLines {P : Bytes → Prop} (last : ∀ rest, lf ∉ rest → P rest)
    (step : ∀ line rest, lf ∉ line → P rest → P (line ++ lf :: rest)) (bytes : Bytes) :
    P bytes := by
  induction hlength : bytes.length using Nat.strong_induction_on generalizing bytes with
  | _ n ih =>
    by_cases hlf : lf ∈ bytes
    · obtain ⟨line, rest, rfl, hline⟩ := List.eq_append_cons_of_mem hlf
      refine step line rest hline (ih rest.length ?_ rest rfl)
      rw [← hlength, List.length_append, List.length_cons]
      omega
    · exact last bytes hlf

/-! ## The end of a line -/

theorem body_eq_rdropWhile (raw : Bytes) : body raw = raw.rdropWhile isSeparator := rfl

/-- Nothing is left of a line exactly if it has nothing but separators. -/
theorem body_eq_nil_iff {raw : Bytes} : body raw = [] ↔ ∀ b ∈ raw, isSeparator b = true := by
  rw [body_eq_rdropWhile, List.rdropWhile_eq_nil_iff]

theorem body_prefix (raw : Bytes) : body raw <+: raw := Text.dropLastWhile_prefix _ _

/-- The characters that end a line. -/
def isEnd (c : Char) : Bool := c == '\n' || c == '\r'

theorem isEnd_iff {c : Char} : isEnd c = true ↔ c = '\n' ∨ c = '\r' := by
  rw [isEnd, Bool.or_eq_true, beq_iff_eq, beq_iff_eq]

theorem isBlank_of_isEnd {c : Char} (h : isEnd c = true) : Text.isBlank c = true := by
  rcases isEnd_iff.1 h with rfl | rfl <;> decide

theorem not_isEnd_of_not_isBlank {c : Char} (h : Text.isBlank c = false) : isEnd c = false := by
  cases hc : isEnd c with
  | false => rfl
  | true => exact absurd (isBlank_of_isEnd hc) (by rw [h]; exact Bool.false_ne_true)

/-- The last byte of a character is a separator only if the character ends lines. -/
theorem dropWhile_reverse_utf8EncodeChar (c : Char) (rest : Bytes) :
    ((String.utf8EncodeChar c).reverse ++ rest).dropWhile isSeparator =
      if isEnd c then rest.dropWhile isSeparator
      else (String.utf8EncodeChar c).reverse ++ rest := by
  by_cases hc : isEnd c = true
  · rw [if_pos hc]
    rcases isEnd_iff.1 hc with rfl | rfl <;> rfl
  · rw [if_neg hc]
    cases hb : (String.utf8EncodeChar c).reverse with
    | nil =>
      have hlen := congrArg List.length hb
      rw [List.length_reverse, String.length_utf8EncodeChar] at hlen
      exact absurd hlen (Nat.ne_of_gt c.utf8Size_pos)
    | cons b more =>
      have hmem : b ∈ String.utf8EncodeChar c := by
        rw [← List.mem_reverse, hb]
        exact List.mem_cons_self
      have hns : isSeparator b = false := by
        rw [← Bool.not_eq_true, isSeparator_iff]
        rintro (rfl | rfl)
        · exact hc (isEnd_iff.2 (.inl
            (Text.Utf8.eq_ofNat_of_mem_utf8EncodeChar (by decide) hmem)))
        · exact hc (isEnd_iff.2 (.inr
            (Text.Utf8.eq_ofNat_of_mem_utf8EncodeChar (by decide) hmem)))
      rw [List.cons_append, List.dropWhile_cons, hns]
      rfl

theorem dropWhile_flatMap_reverse (cs : List Char) :
    (cs.flatMap fun c => (String.utf8EncodeChar c).reverse).dropWhile isSeparator =
      (cs.dropWhile isEnd).flatMap fun c => (String.utf8EncodeChar c).reverse := by
  induction cs with
  | nil => rfl
  | cons c cs ih =>
    rw [List.flatMap_cons, dropWhile_reverse_utf8EncodeChar, List.dropWhile_cons]
    split
    · exact ih
    · rw [List.flatMap_cons]

/-- The end of a line of text is taken off the same way from its bytes and from its characters. -/
theorem body_flatMap_utf8EncodeChar (cs : List Char) :
    body (cs.flatMap String.utf8EncodeChar) =
      (dropLastWhile isEnd cs).flatMap String.utf8EncodeChar := by
  have hrev : ∀ xs : List Char, (xs.flatMap String.utf8EncodeChar).reverse =
      xs.reverse.flatMap fun c => (String.utf8EncodeChar c).reverse :=
    fun _ => List.reverse_flatMap
  rw [body, dropLastWhile, hrev, dropWhile_flatMap_reverse, dropLastWhile,
    ← List.reverse_inj, List.reverse_reverse, hrev, List.reverse_reverse]

end Line
end DebugSession
