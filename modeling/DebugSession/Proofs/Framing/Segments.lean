/-
Streams of lines.  Reading splits a stream at its LFs and loses nothing: each segment that an LF
ends is a line, and so is what stands behind the last LF unless it is empty.  What becomes of a line
depends on nothing but this line (`reads_segments`).
-/
import DebugSession.Proofs.Framing.Line
import DebugSession.Proofs.Text.Decoder
import Mathlib.Data.List.Forall2

namespace DebugSession
namespace Line

open Text (Bytes)
open Text.Utf8 (encode decode_eq_ok_iff)

/-! ## Segments -/

/-- The segments of a stream that an LF ends. -/
def ended (bytes : Bytes) : List Bytes := (bytes.splitOn lf).dropLast

/-- What stands behind the last LF of a stream. -/
def leftover (bytes : Bytes) : Bytes := (bytes.splitOn lf).getLastD []

/-- The lines of a stream, without the LFs that end them. -/
def lines (bytes : Bytes) : List Bytes :=
  ended bytes ++ if leftover bytes = [] then [] else [leftover bytes]

section Segments

variable {line rest : Bytes}

theorem ended_of_not_mem (h : lf ∉ rest) : ended rest = [] := by
  rw [ended, List.splitOn_eq_singleton h]
  rfl

theorem leftover_of_not_mem (h : lf ∉ rest) : leftover rest = rest := by
  rw [leftover, List.splitOn_eq_singleton h]
  rfl

theorem lines_of_not_mem (h : lf ∉ rest) : lines rest = if rest = [] then [] else [rest] := by
  rw [lines, ended_of_not_mem h, leftover_of_not_mem h, List.nil_append]

theorem ended_append (h : lf ∉ line) (rest : Bytes) :
    ended (line ++ lf :: rest) = line :: ended rest := by
  rw [ended, List.splitOn_append_cons_self_of_not_mem h,
    List.dropLast_cons_of_ne_nil (List.splitOn_ne_nil _ _)]
  rfl

theorem leftover_append (h : lf ∉ line) (rest : Bytes) :
    leftover (line ++ lf :: rest) = leftover rest := by
  rw [leftover, List.splitOn_append_cons_self_of_not_mem h, leftover]
  obtain ⟨first, more, hsplit⟩ := List.exists_cons_of_ne_nil (List.splitOn_ne_nil lf rest)
  rw [hsplit]
  rfl

theorem lines_append_of_not_mem (h : lf ∉ line) (rest : Bytes) :
    lines (line ++ lf :: rest) = line :: lines rest := by
  rw [lines, ended_append h, leftover_append h, List.cons_append, lines]

end Segments

/-- Nothing of a stream is lost in its segments. -/
theorem flatMap_ended (bytes : Bytes) :
    (ended bytes).flatMap (· ++ [lf]) ++ leftover bytes = bytes := by
  induction bytes using byLines with
  | last rest h => rw [ended_of_not_mem h, leftover_of_not_mem h, List.flatMap_nil, List.nil_append]
  | step line rest h ih =>
    rw [ended_append h, leftover_append h, List.flatMap_cons, List.append_assoc, ih,
      ← List.append_cons]

theorem lf_not_mem_of_mem_lines {bytes line : Bytes} (hline : line ∈ lines bytes) :
    lf ∉ line := by
  induction bytes using byLines with
  | last rest h =>
    rw [lines_of_not_mem h] at hline
    split at hline
    · exact absurd hline List.not_mem_nil
    · rw [List.mem_singleton.1 hline]
      exact h
  | step first rest h ih =>
    rw [lines_append_of_not_mem h] at hline
    rcases List.mem_cons.1 hline with rfl | hrest
    · exact h
    · exact ih hrest

/-- Behind an LF the lines start anew. -/
theorem lines_append (a b : Bytes) : lines (a ++ lf :: b) = lines (a ++ [lf]) ++ lines b := by
  induction a using byLines with
  | last rest h => rw [lines_append_of_not_mem h, lines_append_of_not_mem h]; rfl
  | step line rest h ih =>
    rw [List.append_assoc, List.cons_append, List.append_assoc, List.cons_append,
      lines_append_of_not_mem h, lines_append_of_not_mem h, ih, List.cons_append]

/-- An LF behind a last line without one adds no line. -/
theorem lines_concat {a : Bytes} (hne : a ≠ []) (hlast : a.getLast? ≠ some lf) :
    lines (a ++ [lf]) = lines a := by
  induction a using byLines with
  | last rest h =>
    rw [lines_append_of_not_mem h, lines_of_not_mem h, if_neg hne]
    rfl
  | step line rest h ih =>
    rw [List.getLast?_append_cons] at hlast
    have hrest : rest ≠ [] := by
      rintro rfl
      exact hlast rfl
    rw [List.getLast?_cons_of_ne_nil hrest] at hlast
    rw [List.append_assoc, List.cons_append, lines_append_of_not_mem h, lines_append_of_not_mem h,
      ih hrest hlast]

/-! ## What is read of a line -/

/-- The results of reading a stream line by line. -/
def results (bytes : Bytes) : List (Except Undecodable String) := (framing.messages bytes).1

/-- A line is read as the text that its bytes encode without the CRs at their end, or as an error
with these bytes if they encode none. -/
inductive ReadAs (line : Bytes) : Except Undecodable String → Prop where
  | text (t : String) (h : encode t = line.rdropWhile (· == cr)) : ReadAs line (.ok t)
  | bytes (fault : Text.Utf8.Fault) (h : ∀ t, encode t ≠ line.rdropWhile (· == cr)) :
      ReadAs line (.error ⟨line.rdropWhile (· == cr), fault⟩)

theorem body_of_not_mem {line : Bytes} (h : lf ∉ line) :
    body line = line.rdropWhile (· == cr) := by
  rw [body_eq_rdropWhile]
  induction line using List.reverseRecOn with
  | nil => rfl
  | append_singleton line b ih =>
    rw [List.mem_append, not_or] at h
    have hb : b ≠ lf := fun hlf => h.2 (List.mem_singleton.2 hlf.symm)
    have hsep : isSeparator b = (b == cr) := by
      rw [isSeparator, beq_false_of_ne hb, Bool.false_or]
    rw [List.rdropWhile_concat, List.rdropWhile_concat, hsep, ih h.1]

theorem readAs_decode {line : Bytes} (h : lf ∉ line) : ReadAs line (decode line) := by
  rw [decode, body_of_not_mem h]
  cases hdecode : Text.Utf8.decode (line.rdropWhile (· == cr)) with
  | ok t => exact .text t (decode_eq_ok_iff.1 hdecode)
  | error fault =>
    refine .bytes fault ?_
    intro t ht
    rw [decode_eq_ok_iff.2 ht] at hdecode
    cases hdecode

theorem messages_eq (bytes : Bytes) :
    framing.messages bytes = ((lines bytes).map decode, .ok ()) := by
  induction bytes using byLines with
  | last rest h =>
    rw [Framing.messages_of_none (run_of_not_mem h []), lines_of_not_mem h, List.append_nil]
    by_cases hrest : rest = []
    · rw [if_pos hrest, hrest]
      rfl
    · have hempty : rest.reverse.isEmpty = false := by
        rw [List.isEmpty_reverse, List.isEmpty_eq_false_iff]
        exact hrest
      simp only [framing, hempty, if_neg hrest, List.reverse_reverse]
      rfl
  | step line rest h ih =>
    rw [List.append_cons, (exact_line h).messages_append, ih, ← List.append_cons,
      lines_append_of_not_mem h, List.map_cons]

theorem results_eq (bytes : Bytes) : results bytes = (lines bytes).map decode := by
  rw [results, messages_eq]

/-- Reading a stream line by line.  In whatever chunks it arrives, the reads bring one result for
each segment that an LF ends and one for what is left, if anything is, and then the end; nothing of
the stream is lost in the segments, and each result is what its segment alone is read as.  Behind an
LF reading starts anew, so no line counts for another one, and it is all the same whether an LF ends
the last line. -/
theorem reads_segments :
    (∀ (chunks : List Bytes) (bytes : Bytes), chunks.flatten = bytes →
      (ended bytes).flatMap (· ++ [lf]) ++ leftover bytes = bytes ∧
      (∀ line ∈ lines bytes, lf ∉ line) ∧
      (framing.readings (chunks.map .bytes)).map Reading.outcome =
        (results bytes).map (fun result => .ok (some result)) ++ [.ok none] ∧
      List.Forall₂ ReadAs (lines bytes) (results bytes)) ∧
    (∀ a b : Bytes, results (a ++ lf :: b) = results (a ++ [lf]) ++ results b) ∧
    (∀ a line b : Bytes, lf ∉ line → ∃ result, ReadAs line result ∧
      results (a ++ lf :: (line ++ lf :: b)) = results (a ++ [lf]) ++ result :: results b) ∧
    ∀ a : Bytes, a ≠ [] → a.getLast? ≠ some lf → results (a ++ [lf]) = results a := by
  have happend : ∀ a b : Bytes, results (a ++ lf :: b) = results (a ++ [lf]) ++ results b := by
    intro a b
    rw [results_eq, results_eq, results_eq, lines_append, List.map_append]
  refine ⟨?_, happend, ?_, ?_⟩
  · intro chunks bytes hchunks
    refine ⟨flatMap_ended bytes, fun line => lf_not_mem_of_mem_lines, ?_, ?_⟩
    · rw [Framing.outcomes_bytes framing hchunks, results, messages_eq]
      rfl
    · rw [results_eq, List.forall₂_map_right_iff, List.forall₂_same]
      exact fun line hline => readAs_decode (lf_not_mem_of_mem_lines hline)
  · intro a line b hline
    refine ⟨decode line, readAs_decode hline, ?_⟩
    rw [happend, results_eq (line ++ lf :: b), lines_append_of_not_mem hline, List.map_cons,
      ← results_eq]
  · intro a hne hlast
    rw [results_eq, results_eq, lines_concat hne hlast]

/-- The bytes that are no text cost the lines around them nothing. -/
example : results (encode "one\r\n" ++ [0xFF, cr, lf] ++ encode "\ntwo") =
    [.ok "one", .error ⟨[0xFF], ⟨0, some 1⟩⟩, .ok "", .ok "two"] := by decide +kernel

end Line
end DebugSession
