/-
Messages read in rounds.  A reader that takes whole lines reads a header one line in a round, until
a blank line ends it, and then the body at once.  Each round takes at least one byte, so a header
ends within as many rounds as there are bytes and one more; and what comes of such a reader is what
comes of the framing, which takes one byte after the other (`readMessage_eq_next`).
-/
import DebugSession.Proofs.Framing.Progress

namespace DebugSession

open Text (Bytes)

/-! ## Whole lines -/

namespace Line

/-- The first line of a stream with the LF that ends it, if one does, and what is behind it. -/
def cut (bytes : Bytes) : Bytes × Bytes :=
  let line := bytes.takeWhile (· != lf)
  (bytes.take (line.length + 1), bytes.drop (line.length + 1))

theorem cut_append (bytes : Bytes) : (cut bytes).1 ++ (cut bytes).2 = bytes :=
  List.take_append_drop _ _

theorem cut_of_not_mem {bytes : Bytes} (h : lf ∉ bytes) : cut bytes = (bytes, []) := by
  have hall : bytes.takeWhile (· != lf) = bytes := by
    rw [List.takeWhile_eq_self_iff]
    intro b hb
    exact bne_iff_ne.2 fun hlf => h (hlf ▸ hb)
  rw [cut, hall, List.take_of_length_le (Nat.le_succ _), List.drop_of_length_le (Nat.le_succ _)]

theorem cut_of_lf {line : Bytes} (h : lf ∉ line) (rest : Bytes) :
    cut (line ++ lf :: rest) = (line ++ [lf], rest) := by
  have hline : (line ++ lf :: rest).takeWhile (· != lf) = line := by
    rw [List.takeWhile_append_of_pos]
    · rw [List.takeWhile_cons_of_neg (by decide), List.append_nil]
    · intro b hb
      exact bne_iff_ne.2 fun hlf => h (hlf ▸ hb)
  have hlength : line.length + 1 = (line ++ [lf]).length := by simp
  rw [cut, hline, List.append_cons, hlength, List.take_left, List.drop_left]

/-- Only the end of a stream has no line. -/
theorem cut_ne_nil {bytes : Bytes} (h : bytes ≠ []) : (cut bytes).1 ≠ [] := by
  by_cases hlf : lf ∈ bytes
  · obtain ⟨line, rest, rfl, hline⟩ := List.eq_append_cons_of_mem hlf
    rw [cut_of_lf hline]
    exact List.append_ne_nil_of_right_ne_nil _ (List.cons_ne_nil _ _)
  · rw [cut_of_not_mem hlf]
    exact h

theorem length_cut_lt {bytes : Bytes} (h : (cut bytes).1 ≠ []) :
    (cut bytes).2.length < bytes.length := by
  have hall := congrArg List.length (cut_append bytes)
  rw [List.length_append] at hall
  have hpos := List.length_pos_iff.2 h
  omega

theorem body_concat_lf (line : Bytes) : body (line ++ [lf]) = body line := by
  rw [body_eq_rdropWhile, List.rdropWhile_concat_pos _ _ _ rfl]
  rfl

/-- The framing takes a line as a reader does that takes it whole. -/
theorem next_eq_cut (taken : List Arrival) {bytes : Bytes} (h : bytes ≠ []) :
    framing.next framing.start taken (bytes.map .byte) =
      (⟨taken.reverse, .ok (some (decode (cut bytes).1))⟩, (cut bytes).2.map .byte) := by
  by_cases hlf : lf ∈ bytes
  · obtain ⟨line, rest, rfl, hline⟩ := List.eq_append_cons_of_mem hlf
    have hdecode : decode (line ++ [lf]) = decode line := by
      rw [decode, body_concat_lf, decode]
    rw [cut_of_lf hline, hdecode, List.map_append,
      Framing.next_append_of_none (run_of_not_mem hline framing.start), List.map_cons,
      Framing.next, push_lf]
    simp only [framing, List.append_nil, List.reverse_reverse]
  · have hnext := Framing.next_append_of_none (run_of_not_mem hlf framing.start) taken []
    have hne : bytes.reverse ≠ [] := mt List.reverse_eq_nil_iff.1 h
    rw [List.append_nil] at hnext
    rw [cut_of_not_mem hlf, hnext, Framing.next]
    simp only [framing, List.append_nil, List.isEmpty_eq_false_iff.2 hne, List.reverse_reverse]
    rfl

end Line

namespace Message

open Framing (Item bytesOf)

/-! ## Rounds -/

/-- What the lines of a header come to. -/
inductive Ending where
  /-- A blank line behind the header. -/
  | blank (length : Option (Except String Nat)) (rest : Bytes)
  /-- The end of the stream, in a header or not. -/
  | eof (seen : Bool)

/-- What one round comes to. -/
inductive Round where
  | again (seen : Bool) (length : Option (Except String Nat)) (rest : Bytes)
  | over (ending : Ending)

/-- Reads one line of a header. -/
def round (seen : Bool) (length : Option (Except String Nat)) (bytes : Bytes) : Round :=
  let (raw, rest) := Line.cut bytes
  let line := Line.body raw
  if raw = [] then .over (.eof seen)
  else if line = [] then if seen then .over (.blank length rest) else .again seen length rest
  else .again true (lengthOf? line <|> length) rest

/-- Reads a header in at most so many rounds. -/
def readHeader : Nat → Bool → Option (Except String Nat) → Bytes → Option Ending
  | 0, _, _, _ => none
  | n + 1, seen, length, bytes =>
    match round seen length bytes with
    | .again seen length rest => readHeader n seen length rest
    | .over ending => some ending

/-- Reads what a header is followed by: nothing, a body that is skipped, or one that is kept. -/
def readBody (length : Option (Except String Nat)) (bytes : Bytes) :
    Except String (Option Frame) × Bytes :=
  match length with
  | none => (.ok (some .missingLength), bytes)
  | some (.error text) => (.ok (some (.badLength text)), bytes)
  | some (.ok n) =>
    if greatestLength < n then (.ok (some (.tooLong n)), bytes.drop n)
    else if n ≤ bytes.length then (.ok (some (.body (bytes.take n))), bytes.drop n)
    else (.error cutInBody, [])

def Ending.read : Ending → Except String (Option Frame) × Bytes
  | .blank length rest => readBody length rest
  | .eof seen => (if seen then .error cutInHeader else .ok none, [])

/-- Reads a message, and its header in at most so many rounds. -/
def readMessage (n : Nat) (bytes : Bytes) : Option (Except String (Option Frame) × Bytes) :=
  (readHeader n false none bytes).map Ending.read

section Round

variable {seen : Bool} {length : Option (Except String Nat)} {bytes : Bytes}

theorem round_of_blank (hraw : (Line.cut bytes).1 ≠ [])
    (hblank : Line.body (Line.cut bytes).1 = []) :
    round seen length bytes =
      if seen then .over (.blank length (Line.cut bytes).2)
      else .again seen length (Line.cut bytes).2 := by
  rw [round]
  simp only [if_neg hraw, if_pos hblank]

theorem round_of_not_blank (hraw : (Line.cut bytes).1 ≠ [])
    (hblank : Line.body (Line.cut bytes).1 ≠ []) :
    round seen length bytes =
      .again true (lengthOf? (Line.body (Line.cut bytes).1) <|> length) (Line.cut bytes).2 := by
  rw [round]
  simp only [if_neg hraw, if_neg hblank]

end Round

/-- A round that reads a line leaves fewer bytes. -/
theorem length_round_lt (seen : Bool) (length : Option (Except String Nat)) (bytes : Bytes) :
    (∀ seen' length' rest, round seen length bytes = .again seen' length' rest →
      rest.length < bytes.length) ∧
    ∀ length' rest, round seen length bytes = .over (.blank length' rest) →
      rest.length < bytes.length := by
  rw [round]
  simp only
  split
  · exact ⟨nofun, nofun⟩
  · next hraw =>
    have hlt := Line.length_cut_lt hraw
    split
    · split
      · refine ⟨nofun, fun _ _ h => ?_⟩
        cases h
        exact hlt
      · refine ⟨fun _ _ _ h => ?_, nofun⟩
        cases h
        exact hlt
    · refine ⟨fun _ _ _ h => ?_, nofun⟩
      cases h
      exact hlt

/-! ## What the framing makes of a body -/

section Next

variable (taken : List Arrival)

/-- A read that goes on with what a byte comes to. -/
def proceed (step : Option Frame × State) (bytes : Bytes) : Reading Frame × List Item :=
  match step with
  | (some frame, _) => (⟨taken.reverse, .ok (some frame)⟩, bytes.map .byte)
  | (none, s) => framing.next s taken (bytes.map .byte)

theorem next_byte (s : State) (b : UInt8) (bytes : Bytes) :
    framing.next s taken ((b :: bytes).map .byte) = proceed taken (framing.push s b) bytes := by
  rw [List.map_cons, Framing.next]
  rcases framing.push s b with ⟨_ | frame, t⟩ <;> rfl

/-- A body that is too long is skipped, up to the end of the stream if that comes first. -/
theorem next_skip (length : Nat) {left : Nat} (hpos : 0 < left) (bytes : Bytes) :
    framing.next (.skip length left) taken (bytes.map .byte) =
      (⟨taken.reverse, .ok (some (.tooLong length))⟩, (bytes.drop left).map .byte) := by
  induction bytes generalizing left with
  | nil => rw [List.drop_nil]; rfl
  | cons b bytes ih =>
    have hpush : framing.push (.skip length left) b =
        if left ≤ 1 then (some (.tooLong length), start) else (none, .skip length (left - 1)) := rfl
    rw [next_byte, hpush]
    by_cases hlast : left ≤ 1
    · obtain rfl : left = 1 := by omega
      rw [if_pos hlast]
      rfl
    · obtain ⟨m, rfl⟩ : ∃ m, left = m + 1 := ⟨left - 1, by omega⟩
      rw [if_neg hlast]
      exact ih (by omega)

theorem next_body {left : Nat} (hpos : 0 < left) (held bytes : Bytes) :
    framing.next (.body left held) taken (bytes.map .byte) =
      if left ≤ bytes.length then
        (⟨taken.reverse, .ok (some (.body (held.reverse ++ bytes.take left)))⟩,
          (bytes.drop left).map .byte)
      else (⟨taken.reverse, .error cutInBody⟩, []) := by
  induction bytes generalizing left held with
  | nil =>
    rw [if_neg (by simpa using Nat.ne_of_gt hpos)]
    rfl
  | cons b bytes ih =>
    have hpush : framing.push (.body left held) b =
        if left ≤ 1 then (some (.body (b :: held).reverse), start)
        else (none, .body (left - 1) (b :: held)) := rfl
    rw [next_byte, hpush]
    by_cases hlast : left ≤ 1
    · obtain rfl : left = 1 := by omega
      rw [if_pos hlast, List.length_cons, if_pos (Nat.le_add_left 1 _), List.reverse_cons]
      rfl
    · obtain ⟨m, rfl⟩ : ∃ m, left = m + 1 := ⟨left - 1, by omega⟩
      rw [if_neg hlast]
      show framing.next (.body m (b :: held)) taken _ = _
      rw [ih (by omega), List.reverse_cons, List.append_assoc]
      simp only [List.length_cons, Nat.add_le_add_iff_right]
      rfl

/-- Behind a header the framing makes of the bytes what a reader does that takes the body at
once. -/
theorem proceed_afterHeader (length : Option (Except String Nat)) (bytes : Bytes) :
    proceed taken (afterHeader length) bytes =
      (⟨taken.reverse, (readBody length bytes).1⟩, (readBody length bytes).2.map .byte) := by
  rcases length with _ | (text | n)
  · rfl
  · rfl
  · rw [afterHeader, readBody]
    by_cases hlong : greatestLength < n
    · rw [if_pos hlong, if_pos hlong]
      exact next_skip taken n (Nat.zero_lt_of_lt hlong) bytes
    · rw [if_neg hlong, if_neg hlong]
      by_cases hzero : n = 0
      · subst hzero
        rw [if_pos rfl, if_pos (Nat.zero_le _)]
        rfl
      · have hbody := next_body taken (Nat.pos_of_ne_zero hzero) [] bytes
        rw [if_neg hzero]
        show framing.next (.body n []) taken (bytes.map .byte) = _
        rw [hbody]
        split <;> rfl

/-! ## What the framing makes of a line -/

/-- The framing takes a whole line before anything comes of it, also if the stream ends with it. -/
theorem next_line (seen : Bool) (length : Option (Except String Nat)) {bytes : Bytes}
    (h : bytes ≠ []) :
    ∃ line : Bytes, Line.body line = Line.body (Line.cut bytes).1 ∧
      framing.next (.header { seen, length }) taken (bytes.map .byte) =
        proceed taken (endLine { line := line.reverse, seen, length }) (Line.cut bytes).2 := by
  by_cases hlf : Line.lf ∈ bytes
  · obtain ⟨line, rest, rfl, hline⟩ := List.eq_append_cons_of_mem hlf
    have hrun := run_header_of_not_mem hline { seen, length }
    rw [List.append_nil] at hrun
    refine ⟨line, ?_, ?_⟩
    · rw [Line.cut_of_lf hline, Line.body_concat_lf]
    · rw [Line.cut_of_lf hline, List.map_append, Framing.next_append_of_none hrun, next_byte,
        push_header_lf]
  · have hrun := run_header_of_not_mem hlf { seen, length }
    rw [List.append_nil] at hrun
    have hnext := Framing.next_append_of_none hrun taken []
    rw [List.append_nil] at hnext
    have hfinish := finish_header bytes seen length
    rw [if_neg (mt List.isEmpty_iff.1 h)] at hfinish
    refine ⟨bytes, by rw [Line.cut_of_not_mem hlf], ?_⟩
    rw [Line.cut_of_not_mem hlf, hnext, Framing.next, hfinish]
    rcases endLine_cases { line := bytes.reverse, seen, length } with ⟨frame, hend⟩ | ⟨s, hend, hs⟩
    · rw [hend]
      rfl
    · rw [hend]
      show _ = framing.next s taken []
      rw [Framing.next, finish_of_entered hs]

/-- With one round more than there are bytes a header is read to its end, and then it comes to what
the framing makes of it. -/
theorem exists_readHeader {n : Nat} {seen : Bool} {length : Option (Except String Nat)}
    {bytes : Bytes} (hn : bytes.length < n) (hlength : seen = false → length = none) :
    ∃ ending, readHeader n seen length bytes = some ending ∧
      framing.next (.header { seen, length }) taken (bytes.map .byte) =
        (⟨taken.reverse, ending.read.1⟩, ending.read.2.map .byte) := by
  induction n generalizing seen length bytes with
  | zero => exact absurd hn (Nat.not_lt_zero _)
  | succ n ih =>
    rw [readHeader]
    by_cases hnil : bytes = []
    · subst hnil
      refine ⟨.eof seen, rfl, ?_⟩
      cases seen <;> rfl
    · have hraw := Line.cut_ne_nil hnil
      have hrest : (Line.cut bytes).2.length < n :=
        Nat.lt_of_lt_of_le (Line.length_cut_lt hraw) (Nat.le_of_lt_succ hn)
      obtain ⟨line, hbody, hnext⟩ := next_line taken seen length hnil
      by_cases hblank : Line.body (Line.cut bytes).1 = []
      · rw [hnext, endLine_of_blank (hbody.trans hblank), round_of_blank hraw hblank]
        cases seen with
        | true => exact ⟨.blank length (Line.cut bytes).2, rfl, proceed_afterHeader taken _ _⟩
        | false =>
          -- a separator between messages
          obtain rfl := hlength rfl
          exact ih hrest fun _ => rfl
      · rw [hnext, endLine_of_not_blank (hbody ▸ hblank), round_of_not_blank hraw hblank, hbody]
        exact ih hrest nofun

/-- A reader that takes whole lines and the body at once reads what the framing reads, and leaves
what it leaves, if it may read one line more than there are bytes. -/
theorem readMessage_eq_next {n : Nat} {bytes : Bytes} (hn : bytes.length < n) :
    readMessage n bytes = some ((framing.next start taken (bytes.map .byte)).1.outcome,
      bytesOf (framing.next start taken (bytes.map .byte)).2) := by
  obtain ⟨ending, hheader, hnext⟩ := exists_readHeader taken hn fun _ => rfl
  rw [readMessage, hheader, show start = .header { seen := false, length := none } from rfl, hnext,
    Framing.bytesOf_map_byte]
  rfl

end Next

/-! ## What is held of a body -/

/-- What is held of a body and what is missing of it fit the greatest length together. -/
def State.Bounded : State → Prop
  | .body left held => 0 < left ∧ left + held.length ≤ greatestLength
  | _ => True

theorem bounded_of_entered {s : State} (h : Entered s) : s.Bounded := by
  cases h with
  | body n hpos hle => exact ⟨hpos, hle⟩
  | _ => trivial

theorem bounded_push {s : State} (h : s.Bounded) (b : UInt8) : (framing.push s b).2.Bounded := by
  show (push s b).2.Bounded
  cases s with
  | header hd =>
    rw [push]
    split
    · rcases endLine_cases hd with ⟨frame, hend⟩ | ⟨s, hend, hs⟩
      · rw [hend]
        trivial
      · rw [hend]
        exact bounded_of_entered hs
    · trivial
  | body left held =>
    obtain ⟨-, hle⟩ := h
    rw [push]
    split
    · trivial
    · refine ⟨by omega, ?_⟩
      rw [List.length_cons]
      omega
  | skip length left =>
    rw [push]
    split <;> trivial

theorem bounded_run {s : State} (h : s.Bounded) (bytes : Bytes) :
    (framing.run s bytes).2.Bounded := by
  induction bytes generalizing s with
  | nil => exact h
  | cons b bytes ih =>
    have hb := bounded_push h b
    rcases hpush : framing.push s b with ⟨_ | m, t⟩
    · rw [hpush] at hb
      rw [Framing.run_of_push_none hpush]
      exact ih hb
    · rw [hpush] at hb
      rw [Framing.run_of_push_some hpush]
      exact ih hb

/-! ## Bodies that are too long -/

/-- A body that is too long is skipped to the end of the stream, if that comes first. -/
theorem next_tooLong {h : HeaderBlock} (hlong : greatestLength < h.bodyLength) {rest : Bytes}
    (hrest : rest.length < h.bodyLength) (taken : List Arrival) :
    framing.next start taken ((h.bytes ++ rest).map .byte) =
      (⟨taken.reverse, .ok (some (.tooLong h.bodyLength))⟩, []) := by
  have hpos := Nat.zero_lt_of_lt hlong
  have hrun := HeaderBlock.run_bytes hpos
  rw [if_pos hlong] at hrun
  rw [List.map_append, Framing.next_append_of_none hrun, next_skip taken _ hpos,
    List.drop_of_length_le (Nat.le_of_lt hrest)]
  rfl

theorem space_isBlank : ∀ c ∈ [' '], Text.isBlank c = true ∧ c ≠ '\n' := by
  simp [Text.isBlank]

theorem cr_isBlank : ∀ c ∈ ['\r'], Text.isBlank c = true ∧ c ≠ '\n' := by
  simp [Text.isBlank]

def plainLine (n : Nat) : LengthLine n where
  before := [' ']
  number := Text.Decimal.digits n
  after := ['\r']
  before_blank := space_isBlank
  after_blank := cr_isBlank
  number_ne_nil := Text.Decimal.digits_ne_nil n
  number_isDigit := Text.Decimal.isDigit_of_mem_digits
  value_number := Text.Decimal.value_digits n

/-- A header that names a length and nothing else. -/
def plainBlock (n : Nat) : HeaderBlock where
  strays := []
  lines := [(plainLine n).toHeaderLine]
  lines_ne_nil := List.cons_ne_nil _ _
  crs := 1

theorem bytes_plainBlock (n : Nat) :
    (plainBlock n).bytes =
      Text.Utf8.encode (lengthName ++ " " ++ Text.Decimal.render n ++ "\r\n\r\n") := by
  have hname : Text.Utf8.encode " " = [' '].flatMap String.utf8EncodeChar := rfl
  have hend : Text.Utf8.encode "\r\n\r\n" =
      ['\r'].flatMap String.utf8EncodeChar ++ ([Line.lf] ++ ([Line.cr] ++ [Line.lf])) := rfl
  rw [HeaderBlock.bytes, HeaderBlock.head]
  simp only [Text.Utf8.encode_append, Text.Decimal.render, Text.Utf8.encode_ofList, hname, hend]
  simp only [plainBlock, plainLine, LengthLine.bytes_toHeaderLine, LengthLine.bytes,
    LengthLine.text, Text.Utf8.encode, List.flatMap_cons, List.flatMap_nil, List.flatMap_append,
    List.nil_append, List.append_nil, List.append_assoc, List.replicate_one]

theorem bodyLength_plainBlock {n : Nat} (h : n < UInt64.size) : (plainBlock n).bodyLength = n := by
  have hline : lengthOf? (Line.body (plainLine n).toHeaderLine.bytes) = some (.ok n) :=
    (plainLine n).lengthOf?_bytes h
  rw [HeaderBlock.bodyLength, HeaderBlock.length, plainBlock, lengthAfter_cons, hline]
  rfl

end Message
end DebugSession
