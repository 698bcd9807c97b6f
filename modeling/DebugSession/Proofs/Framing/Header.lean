/-
Messages with an arbitrary header.  Header lines of any kind name a length, or none, or one that
cannot be used; a message goes on for as many bytes as they name, and ends with its header if they
name no length that can be used (`exact_block`).
-/
import DebugSession.Framing.Message
import DebugSession.Proofs.Framing.Line

namespace DebugSession
namespace Message

open Text (Bytes trimBlank)

/-- A line of a header: no LF is in it, and it is not blank. -/
structure HeaderLine where
  bytes : Bytes
  lf_not_mem : Line.lf ∉ bytes
  not_blank : ∃ b ∈ bytes, b ≠ Line.cr

/-- Whether a line says something about the length. -/
def HeaderLine.NamesLength (l : HeaderLine) : Prop := Text.Utf8.encode lengthName <+: l.bytes

instance (l : HeaderLine) : Decidable l.NamesLength :=
  inferInstanceAs (Decidable (Text.Utf8.encode lengthName <+: l.bytes))

/-- A blank line: CRs and an LF. -/
def blankLine (crs : Nat) : Bytes := List.replicate crs Line.cr ++ [Line.lf]

/-! ## Header lines -/

theorem push_header_of_ne {b : UInt8} (h : b ≠ Line.lf) (hd : Header) :
    framing.push (.header hd) b = (none, .header { hd with line := b :: hd.line }) :=
  if_neg h

theorem push_header_lf (hd : Header) : framing.push (.header hd) Line.lf = endLine hd := by
  simp only [framing, push, if_true]

theorem run_header_of_not_mem {line : Bytes} (h : Line.lf ∉ line) (hd : Header) :
    framing.run (.header hd) line =
      ([], .header { hd with line := line.reverse ++ hd.line }) := by
  induction line generalizing hd with
  | nil => rfl
  | cons b line ih =>
    obtain ⟨hb, hline⟩ := not_or.1 (mt List.mem_cons.2 h)
    rw [Framing.run_of_push_none (push_header_of_ne (Ne.symm hb) hd), ih hline, List.reverse_cons,
      List.append_assoc]
    rfl

/-- A whole line takes the header to what the end of the line makes of it. -/
theorem run_line {line : Bytes} (h : Line.lf ∉ line) (seen : Bool)
    (length : Option (Except String Nat)) :
    framing.run (.header { seen, length }) (line ++ [Line.lf]) =
      framing.run (.header { line := line.reverse, seen, length }) [Line.lf] := by
  rw [Framing.run_append_of_none (run_header_of_not_mem h _), List.append_nil]

theorem endLine_of_not_blank {line : Bytes} (h : Line.body line ≠ []) (seen : Bool)
    (length : Option (Except String Nat)) :
    endLine { line := line.reverse, seen, length } =
      (none, .header { seen := true, length := lengthOf? (Line.body line) <|> length }) := by
  rw [endLine, List.reverse_reverse, if_neg (by simpa using h)]

theorem endLine_of_blank {line : Bytes} (h : Line.body line = []) (seen : Bool)
    (length : Option (Except String Nat)) :
    endLine { line := line.reverse, seen, length } =
      if seen then afterHeader length else (none, start) := by
  rw [endLine, List.reverse_reverse, if_pos (by simpa using h)]

/-- A header line adds to the header what it says about the length. -/
theorem run_headerLine (l : HeaderLine) (seen : Bool) (length : Option (Except String Nat)) :
    framing.run (.header { seen, length }) (l.bytes ++ [Line.lf]) =
      ([], .header { seen := true, length := lengthOf? (Line.body l.bytes) <|> length }) := by
  have hbody : Line.body l.bytes ≠ [] := by
    -- a line of separators only has nothing but CRs, since LF is not in it
    obtain ⟨b, hb, hcr⟩ := l.not_blank
    intro h
    rcases Line.isSeparator_iff.1 (Line.body_eq_nil_iff.1 h b hb) with rfl | rfl
    · exact l.lf_not_mem hb
    · exact hcr rfl
  rw [run_line l.lf_not_mem, Framing.run_of_push_none
    ((push_header_lf _).trans (endLine_of_not_blank hbody seen length))]
  rfl

theorem finish_header (line : Bytes) (seen : Bool) (length : Option (Except String Nat)) :
    framing.finish (.header { line := line.reverse, seen, length }) =
      if line.isEmpty then close (.header { seen, length })
      else
        match endLine { line := line.reverse, seen, length } with
        | (some frame, _) => (some frame, .ok ())
        | (none, s) => close s := by
  have hfinish : ∀ s, framing.finish s = finish s := fun _ => rfl
  rw [hfinish, finish, List.isEmpty_reverse]
  cases line <;> rfl

/-! ## What a header says about the length -/

theorem lengthOf?_of_shown {line : Bytes} {cs : List Char}
    (h : Text.Utf8.shown line = lengthName.toList ++ cs) :
    lengthOf? line = some ((Text.Decimal.parse UInt64.size (trimBlank cs)).mapError
      fun _ => String.ofList (trimBlank cs)) := by
  have hchars : (Text.Utf8.lossy line).toList = lengthName.toList ++ cs := by
    rw [Text.Utf8.lossy_eq_ofList_shown, String.toList_ofList, h]
  rw [lengthOf?]
  simp only [hchars]
  rw [if_pos (by simp), List.drop_left]

/-- A line that does not start with the name says nothing about the length. -/
theorem lengthOf?_eq_none {line : Bytes} (h : ¬ Text.Utf8.encode lengthName <+: line) :
    lengthOf? line = none := by
  rw [lengthOf?]
  simp only
  split
  · next hpre =>
    obtain ⟨cs, hcs⟩ := List.isPrefixOf_iff_prefix.1 hpre
    rw [Text.Utf8.lossy_eq_ofList_shown, String.toList_ofList] at hcs
    obtain ⟨tail, htail, -⟩ := Text.Utf8.exists_of_shown_eq_append (by decide) hcs.symm
    exact absurd ⟨tail, htail.symm⟩ h
  · rfl

/-- What a header says about the length after more lines; the last line that names one counts. -/
def lengthAfter (length : Option (Except String Nat)) (ls : List HeaderLine) :
    Option (Except String Nat) :=
  ls.foldl (fun length l => lengthOf? (Line.body l.bytes) <|> length) length

theorem lengthAfter_cons (length : Option (Except String Nat)) (l : HeaderLine)
    (ls : List HeaderLine) :
    lengthAfter length (l :: ls) = lengthAfter (lengthOf? (Line.body l.bytes) <|> length) ls := rfl

theorem lengthAfter_append (length : Option (Except String Nat)) (xs ys : List HeaderLine) :
    lengthAfter length (xs ++ ys) = lengthAfter (lengthAfter length xs) ys :=
  List.foldl_append

theorem run_headerLines {ls : List HeaderLine} (h : ls ≠ []) (seen : Bool)
    (length : Option (Except String Nat)) :
    framing.run (.header { seen, length }) (ls.flatMap fun l => l.bytes ++ [Line.lf]) =
      ([], .header { seen := true, length := lengthAfter length ls }) := by
  induction ls generalizing seen length with
  | nil => exact absurd rfl h
  | cons l ls ih =>
    rw [List.flatMap_cons, Framing.run_append_of_none (run_headerLine l seen length)]
    by_cases hls : ls = []
    · rw [hls]
      rfl
    · exact ih hls true _

theorem lengthAfter_of_silent {ls : List HeaderLine} (h : ∀ l ∈ ls, ¬ l.NamesLength)
    (length : Option (Except String Nat)) : lengthAfter length ls = length := by
  induction ls generalizing length with
  | nil => rfl
  | cons l ls ih =>
    have hnone : lengthOf? (Line.body l.bytes) = none :=
      lengthOf?_eq_none fun hpre => h l List.mem_cons_self (hpre.trans (Line.body_prefix l.bytes))
    rw [lengthAfter_cons, hnone]
    exact ih (fun l hl => h l (List.mem_cons_of_mem _ hl)) length

/-! ## Blank lines -/

theorem body_replicate_cr (n : Nat) : Line.body (List.replicate n Line.cr) = [] := by
  rw [Line.body_eq_nil_iff]
  intro b hb
  rw [List.eq_of_mem_replicate hb]
  rfl

theorem lf_not_mem_replicate_cr (n : Nat) : Line.lf ∉ List.replicate n Line.cr := fun h =>
  absurd (List.eq_of_mem_replicate h) (by decide)

theorem run_blankLine (crs : Nat) : framing.run start (blankLine crs) = ([], start) := by
  rw [blankLine, start, run_line (lf_not_mem_replicate_cr crs), Framing.run_of_push_none
    ((push_header_lf _).trans (endLine_of_blank (body_replicate_cr crs) false none))]
  rfl

theorem run_strays (strays : List Nat) :
    framing.run start (strays.flatMap blankLine) = ([], start) := by
  induction strays with
  | nil => rfl
  | cons crs strays ih =>
    rw [List.flatMap_cons, Framing.run_append_of_none (run_blankLine crs), ih]

/-! ## Bodies -/

/-- All but the last byte of a body. -/
theorem run_body {bytes : Bytes} {left : Nat} (h : bytes.length < left) (held : Bytes) :
    framing.run (.body left held) bytes =
      ([], .body (left - bytes.length) (bytes.reverse ++ held)) := by
  induction bytes generalizing left held with
  | nil => rfl
  | cons b bytes ih =>
    rw [List.length_cons] at h
    have hpush : framing.push (.body left held) b = (none, .body (left - 1) (b :: held)) :=
      if_neg (by omega)
    rw [Framing.run_of_push_none hpush, ih (by omega), List.length_cons, List.reverse_cons,
      List.append_assoc, Nat.sub_sub, Nat.add_comm 1]
    rfl

theorem run_skip {bytes : Bytes} {left : Nat} (h : bytes.length < left) (length : Nat) :
    framing.run (.skip length left) bytes = ([], .skip length (left - bytes.length)) := by
  induction bytes generalizing left with
  | nil => rfl
  | cons b bytes ih =>
    rw [List.length_cons] at h
    have hpush : framing.push (.skip length left) b = (none, .skip length (left - 1)) :=
      if_neg (by omega)
    rw [Framing.run_of_push_none hpush, ih (by omega), List.length_cons, Nat.sub_sub,
      Nat.add_comm 1]

/-! ## Headers -/

/-- A header as it may be written, with the blank lines before it. -/
structure HeaderBlock where
  strays : List Nat
  lines : List HeaderLine
  lines_ne_nil : lines ≠ []
  /-- The CRs of the blank line that ends the header. -/
  crs : Nat

namespace HeaderBlock

/-- The bytes up to the LF of the blank line. -/
def head (h : HeaderBlock) : Bytes :=
  h.strays.flatMap blankLine ++
    (h.lines.flatMap (fun l => l.bytes ++ [Line.lf]) ++ List.replicate h.crs Line.cr)

def bytes (h : HeaderBlock) : Bytes := h.head ++ [Line.lf]

/-- What the header says about the length. -/
def length (h : HeaderBlock) : Option (Except String Nat) := lengthAfter none h.lines

/-- How many bytes are taken for the body. -/
def bodyLength (h : HeaderBlock) : Nat :=
  match h.length with
  | some (.ok n) => n
  | _ => 0

/-- What the header comes to with a body of the length that it names. -/
def frame (h : HeaderBlock) (body : Bytes) : Frame :=
  match h.length with
  | none => .missingLength
  | some (.error text) => .badLength text
  | some (.ok n) => if greatestLength < n then .tooLong n else .body body

/-- Everything up to the LF of the blank line completes nothing. -/
theorem run_head (h : HeaderBlock) :
    framing.run start h.head = ([], .header
      { line := (List.replicate h.crs Line.cr).reverse, seen := true, length := h.length }) := by
  rw [head, Framing.run_append_of_none (run_strays h.strays), start,
    Framing.run_append_of_none (run_headerLines h.lines_ne_nil false none),
    run_header_of_not_mem (lf_not_mem_replicate_cr h.crs), List.append_nil]
  rfl

theorem push_blankLine (h : HeaderBlock) :
    framing.push (.header
      { line := (List.replicate h.crs Line.cr).reverse, seen := true, length := h.length })
      Line.lf = afterHeader h.length :=
  (push_header_lf _).trans (endLine_of_blank (body_replicate_cr h.crs) true _)

/-- A header without a length that can be used, or with the length 0, is a message of its own. -/
theorem afterHeader_of_bodyLength_eq_zero {h : HeaderBlock} (hzero : h.bodyLength = 0) :
    afterHeader h.length = (some (h.frame []), start) := by
  rw [bodyLength] at hzero
  rw [frame]
  cases hlength : h.length with
  | none => rfl
  | some length =>
    rw [hlength] at hzero
    cases length with
    | error text => rfl
    | ok n =>
      obtain rfl : n = 0 := hzero
      rfl

theorem length_of_bodyLength_pos {h : HeaderBlock} (hpos : 0 < h.bodyLength) :
    h.length = some (.ok h.bodyLength) := by
  rw [bodyLength] at hpos ⊢
  cases hlength : h.length with
  | none =>
    rw [hlength] at hpos
    exact absurd hpos (Nat.lt_irrefl 0)
  | some length =>
    rw [hlength] at hpos
    cases length with
    | error text => exact absurd hpos (Nat.lt_irrefl 0)
    | ok n => rfl

/-- Behind a header that names a length stands a body, which is skipped if it is too long. -/
theorem run_bytes {h : HeaderBlock} (hpos : 0 < h.bodyLength) :
    framing.run start h.bytes = ([], if greatestLength < h.bodyLength
      then .skip h.bodyLength h.bodyLength else .body h.bodyLength []) := by
  have hafter : afterHeader h.length = (none, if greatestLength < h.bodyLength
      then .skip h.bodyLength h.bodyLength else .body h.bodyLength []) := by
    rw [length_of_bodyLength_pos hpos, afterHeader]
    split
    · rfl
    · rw [if_neg (by omega)]
  rw [bytes, Framing.run_append_of_none h.run_head,
    Framing.run_of_push_none (h.push_blankLine.trans hafter)]
  rfl

end HeaderBlock

/-- A header and as many bytes as it names are exactly a message. -/
theorem exact_block (h : HeaderBlock) {body : Bytes} (hbody : body.length = h.bodyLength) :
    framing.Exact (h.bytes ++ body) (h.frame body) := by
  rcases List.eq_nil_or_concat' body with rfl | ⟨front, last, rfl⟩
  · -- without a body the LF of the blank line is the last byte
    refine ⟨h.head, Line.lf, _, ?_, h.run_head, ?_⟩
    · rw [List.append_nil, HeaderBlock.bytes]
    · rw [h.push_blankLine, HeaderBlock.afterHeader_of_bodyLength_eq_zero hbody.symm]
      rfl
  · rw [List.length_append, List.length_singleton] at hbody
    have hpos : 0 < h.bodyLength := by omega
    have hrun := HeaderBlock.run_bytes hpos
    rw [HeaderBlock.frame, HeaderBlock.length_of_bodyLength_pos hpos]
    by_cases hlong : greatestLength < h.bodyLength
    · rw [if_pos hlong] at hrun
      refine ⟨h.bytes ++ front, last, .skip h.bodyLength 1, ?_, ?_, ?_⟩
      · rw [List.append_assoc]
      · refine (Framing.run_append_of_none hrun front).trans ?_
        rw [run_skip (by omega), ← hbody, Nat.add_sub_cancel_left]
      · simp only [if_pos hlong]
        rfl
    · rw [if_neg hlong] at hrun
      refine ⟨h.bytes ++ front, last, .body 1 front.reverse, ?_, ?_, ?_⟩
      · rw [List.append_assoc]
      · refine (Framing.run_append_of_none hrun front).trans ?_
        rw [run_body (by omega), List.append_nil, ← hbody, Nat.add_sub_cancel_left]
      · simp only [if_neg hlong]
        show (some (Frame.body (last :: front.reverse).reverse), start) = _
        rw [List.reverse_cons, List.reverse_reverse]
        rfl

end Message
end DebugSession
