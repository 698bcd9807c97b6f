/-
Messages with a header, written in any of the ways that are allowed: blank lines before the header,
header lines of any kind around the one that counts, white space around its number, CRs or none
before an LF.  Reading such a packet takes its bytes and no others, and what comes of it depends on
its body alone (`outcomes_packets`).
-/
import DebugSession.Json.Reader
import DebugSession.Json.Writer
import DebugSession.Proofs.Framing.Header

namespace DebugSession
namespace Message

open Text (Bytes isBlank allBlank trimBlank)
open Text.Decimal (isDigit value)

/-! ## Packets -/

/-- A line that says that the length is `n`, with white space around the digits. -/
structure LengthLine (n : Nat) where
  before : List Char
  number : List Char
  after : List Char
  before_blank : ∀ c ∈ before, isBlank c = true ∧ c ≠ '\n'
  after_blank : ∀ c ∈ after, isBlank c = true ∧ c ≠ '\n'
  number_ne_nil : number ≠ []
  number_isDigit : ∀ c ∈ number, isDigit c = true
  value_number : value number = n

def LengthLine.text {n : Nat} (l : LengthLine n) : List Char :=
  lengthName.toList ++ (l.before ++ (l.number ++ l.after))

def LengthLine.bytes {n : Nat} (l : LengthLine n) : Bytes :=
  l.text.flatMap String.utf8EncodeChar

/-- A message as it may be written. -/
structure Packet where
  /-- The blank lines before the header, each by its number of CRs. -/
  strays : List Nat
  /-- The header lines before the last one about the length; they may be about it, too. -/
  earlier : List HeaderLine
  body : Bytes
  length : LengthLine body.length
  later : List HeaderLine
  /-- The CRs of the blank line that ends the header. -/
  crs : Nat
  fits : body.length < UInt64.size
  later_silent : ∀ l ∈ later, ¬ l.NamesLength

namespace Packet

def headerBytes (p : Packet) : Bytes :=
  p.earlier.flatMap (fun l => l.bytes ++ [Line.lf]) ++ (p.length.bytes ++ [Line.lf]) ++
    p.later.flatMap (fun l => l.bytes ++ [Line.lf])

def bytes (p : Packet) : Bytes :=
  p.strays.flatMap blankLine ++ (p.headerBytes ++ (blankLine p.crs ++ p.body))

/-- What a packet comes to: its body, unless that is too long. -/
def frame (p : Packet) : Frame :=
  if p.body.length ≤ greatestLength then .body p.body else .tooLong p.body.length

/-- What the reader of a packet gets, when `read` reads bodies. -/
def outcome {ε α : Type} (read : Bytes → Except ε α) (p : Packet) : Except (Fault ε) α :=
  if p.body.length ≤ greatestLength then (read p.body).mapError .malformed
  else .error (.tooLong p.body.length)

theorem open?_frame {ε α : Type} (read : Bytes → Except ε α) (p : Packet) :
    open? read p.frame = p.outcome read := by
  rw [frame, outcome]
  split <;> rfl

end Packet

/-! ## What a header says about the length -/

namespace LengthLine

variable {n : Nat}

theorem not_isBlank_number (l : LengthLine n) : ∀ c ∈ l.number, isBlank c = false := fun c hc =>
  Text.Decimal.not_isBlank_of_isDigit (l.number_isDigit c hc)

/-- The digits stop what is taken off the end of the line. -/
theorem body_bytes (l : LengthLine n) :
    Line.body l.bytes = (lengthName.toList ++ (l.before ++ (l.number ++
      Text.dropLastWhile Line.isEnd l.after))).flatMap String.utf8EncodeChar := by
  rcases List.eq_nil_or_concat' l.number with hnil | ⟨front, last, hnumber⟩
  · exact absurd hnil l.number_ne_nil
  · have hlast : Line.isEnd last = false := by
      apply Line.not_isEnd_of_not_isBlank
      apply l.not_isBlank_number
      rw [hnumber]
      exact List.mem_append_right _ List.mem_cons_self
    have hdrop := Text.dropLastWhile_append_of_neg hlast
      (lengthName.toList ++ (l.before ++ front)) l.after
    simp only [List.append_assoc] at hdrop
    rw [bytes, Line.body_flatMap_utf8EncodeChar, text, hnumber]
    simp only [List.append_assoc, List.singleton_append, hdrop]

theorem trimBlank_number (l : LengthLine n) {after : List Char}
    (h : ∀ c ∈ after, isBlank c = true) :
    trimBlank (l.before ++ (l.number ++ after)) = l.number := by
  have hbefore : allBlank l.before = true :=
    List.all_eq_true.2 fun c hc => (l.before_blank c hc).1
  rw [← List.append_assoc]
  exact Text.trimBlank_append_of_ends hbefore (List.all_eq_true.2 h) l.number_ne_nil
    (fun c hc => l.not_isBlank_number c (List.mem_of_mem_head? hc))
    fun c hc => l.not_isBlank_number c (List.mem_of_mem_getLast? hc)

/-- The line says what it should. -/
theorem lengthOf?_bytes (l : LengthLine n) (hn : n < UInt64.size) :
    lengthOf? (Line.body l.bytes) = some (.ok n) := by
  have hshown := Text.Utf8.shown_flatMap_utf8EncodeChar (lengthName.toList ++ (l.before ++
    (l.number ++ Text.dropLastWhile Line.isEnd l.after))) []
  rw [List.append_nil, ← l.body_bytes, Text.Utf8.shown_nil, List.append_nil] at hshown
  have hafter : ∀ c ∈ Text.dropLastWhile Line.isEnd l.after, isBlank c = true := fun c hc =>
    (l.after_blank c ((Text.dropLastWhile_prefix _ _).subset hc)).1
  have hvalue : value l.number < UInt64.size := by
    rw [l.value_number]
    exact hn
  rw [lengthOf?_of_shown hshown, l.trimBlank_number hafter,
    Text.Decimal.parse_of_isDigit l.number_ne_nil l.number_isDigit hvalue, l.value_number]
  rfl

theorem lf_not_mem_bytes (l : LengthLine n) : Line.lf ∉ l.bytes := by
  rw [bytes, Text.Utf8.mem_flatMap_utf8EncodeChar (by decide), text]
  show '\n' ∉ _
  simp only [List.mem_append]
  rintro (h | h | h | h)
  · exact absurd h (by decide)
  · exact (l.before_blank _ h).2 rfl
  · exact absurd (l.number_isDigit _ h) (by decide)
  · exact (l.after_blank _ h).2 rfl

/-- The line as any other line of a header. -/
def toHeaderLine (l : LengthLine n) : HeaderLine where
  bytes := l.bytes
  lf_not_mem := l.lf_not_mem_bytes
  not_blank := by
    refine ⟨0x43, ?_, by decide⟩
    rw [bytes, Text.Utf8.mem_flatMap_utf8EncodeChar (by decide), text]
    exact List.mem_append_left _ (by decide)

theorem bytes_toHeaderLine (l : LengthLine n) : l.toHeaderLine.bytes = l.bytes := rfl

end LengthLine

/-! ## Packets as headers and bodies -/

namespace Packet

/-- What stands before the body of a packet. -/
def block (p : Packet) : HeaderBlock where
  strays := p.strays
  lines := p.earlier ++ p.length.toHeaderLine :: p.later
  lines_ne_nil := List.append_ne_nil_of_right_ne_nil _ (List.cons_ne_nil _ _)
  crs := p.crs

theorem bytes_eq (p : Packet) : p.bytes = p.block.bytes ++ p.body := by
  rw [bytes, headerBytes, HeaderBlock.bytes, HeaderBlock.head, blankLine]
  simp only [block, List.flatMap_append, List.flatMap_cons, List.append_assoc,
    LengthLine.bytes_toHeaderLine]

theorem length_block (p : Packet) : p.block.length = some (.ok p.body.length) := by
  have hline : lengthOf? (Line.body p.length.toHeaderLine.bytes) = some (.ok p.body.length) :=
    p.length.lengthOf?_bytes p.fits
  rw [HeaderBlock.length, block, lengthAfter_append, lengthAfter_cons, hline]
  exact lengthAfter_of_silent p.later_silent _

theorem bodyLength_block (p : Packet) : p.block.bodyLength = p.body.length := by
  rw [HeaderBlock.bodyLength, length_block]

theorem frame_block (p : Packet) : p.block.frame p.body = p.frame := by
  rw [HeaderBlock.frame, length_block, frame]
  by_cases hlong : greatestLength < p.body.length
  · rw [if_neg (Nat.not_le.2 hlong)]
    exact if_pos hlong
  · rw [if_pos (Nat.not_lt.1 hlong)]
    exact if_neg hlong

end Packet

/-- A packet is exactly its frame. -/
theorem exact_packet (p : Packet) : framing.Exact p.bytes p.frame := by
  rw [Packet.bytes_eq, ← Packet.frame_block]
  exact exact_block p.block p.bodyLength_block.symm

theorem Packet.exact_outcome {ε α : Type} (read : Bytes → Except ε α) (p : Packet) :
    (framing.map (open? read)).Exact p.bytes (p.outcome read) := by
  rw [← Packet.open?_frame]
  exact (exact_packet p).map (open? read)

/-! ## Streams -/

/-- The payload of a message as a packet, in the form in which it is written. -/
def Packet.ofPayload (payload : String) (h : payload.utf8ByteSize < UInt64.size) : Packet where
  strays := []
  earlier := []
  body := Text.Utf8.encode payload
  length :=
    { before := [' ']
      number := Text.Decimal.digits payload.utf8ByteSize
      after := ['\r']
      before_blank := by simp [isBlank]
      after_blank := by simp [isBlank]
      number_ne_nil := Text.Decimal.digits_ne_nil _
      number_isDigit := Text.Decimal.isDigit_of_mem_digits
      value_number := by rw [Text.Decimal.value_digits, Text.Utf8.length_encode] }
  later := []
  crs := 1
  fits := by rw [Text.Utf8.length_encode]; exact h
  later_silent := by simp

theorem Packet.bytes_ofPayload (payload : String) (h : payload.utf8ByteSize < UInt64.size) :
    (Packet.ofPayload payload h).bytes = Text.Utf8.encode (encode payload) := by
  have hname : Text.Utf8.encode " " = [' '].flatMap String.utf8EncodeChar := rfl
  have hend : Text.Utf8.encode "\r\n\r\n" =
      ['\r'].flatMap String.utf8EncodeChar ++ ([Line.lf] ++ blankLine 1) := rfl
  rw [encode]
  simp only [Text.Utf8.encode_append, Text.Decimal.render, Text.Utf8.encode_ofList, hname, hend]
  simp only [Packet.bytes, Packet.headerBytes, Packet.ofPayload, LengthLine.bytes, LengthLine.text,
    Text.Utf8.encode, List.flatMap_append, List.flatMap_nil, List.nil_append, List.append_nil,
    List.append_assoc]

theorem Packet.outcome_ofPayload {ε α : Type} (read : Bytes → Except ε α) {payload : String}
    (h : payload.utf8ByteSize ≤ greatestLength) (hfits : payload.utf8ByteSize < UInt64.size) :
    (Packet.ofPayload payload hfits).outcome read =
      (read (Text.Utf8.encode payload)).mapError .malformed := by
  refine if_pos ?_
  show (Text.Utf8.encode payload).length ≤ greatestLength
  rw [Text.Utf8.length_encode]
  exact h

/-- One read takes a packet and no byte more; a stream of packets, in whatever chunks it arrives, is
read packet by packet up to its end; and so messages that `write` writes, if they are not too long
and `read` reads them back, come out of the stream of their frames as they went in. -/
theorem outcomes_packets {ε α : Type} (read : Bytes → Except ε α) :
    (∀ (p : Packet) (taken : List Arrival) (items : List Framing.Item),
      (framing.map (open? read)).read start taken (p.bytes.map .byte ++ items) =
        ⟨taken.reverse, .ok (some (p.outcome read))⟩ ::
          (framing.map (open? read)).read start [] items) ∧
    (∀ (ps : List Packet) (chunks : List Bytes), chunks.flatten = ps.flatMap Packet.bytes →
      ((framing.map (open? read)).readings (chunks.map .bytes)).map Reading.outcome =
        ps.map (fun p => .ok (some (p.outcome read))) ++ [.ok none]) ∧
    ∀ (write : α → String) (ms : List α) (chunks : List Bytes),
      (∀ m ∈ ms, (write m).utf8ByteSize ≤ greatestLength ∧
        read (Text.Utf8.encode (write m)) = .ok m) →
      chunks.flatten = ms.flatMap (fun m => Text.Utf8.encode (encode (write m))) →
      ((framing.map (open? read)).readings (chunks.map .bytes)).map Reading.outcome =
        ms.map (fun m => .ok (some (.ok m))) ++ [.ok none] := by
  have hexact : ∀ p : Packet, (framing.map (open? read)).Exact p.bytes (p.outcome read) :=
    Packet.exact_outcome read
  refine ⟨?_, ?_, ?_⟩
  · exact fun p => (hexact p).read_append
  · intro ps chunks hchunks
    exact Framing.outcomes_of_exact rfl (fun p _ => hexact p) hchunks
  · intro write ms chunks hms hchunks
    have hmessage : ∀ m ∈ ms, (framing.map (open? read)).Exact
        (Text.Utf8.encode (encode (write m))) (.ok m) := by
      intro m hm
      obtain ⟨hlength, hread⟩ := hms m hm
      have hfits : (write m).utf8ByteSize < UInt64.size :=
        Nat.lt_of_le_of_lt hlength (by decide)
      have h := hexact (Packet.ofPayload (write m) hfits)
      rw [Packet.bytes_ofPayload, Packet.outcome_ofPayload read hlength, hread] at h
      exact h
    exact Framing.outcomes_of_exact rfl hmessage hchunks

/-- A packet with all that may stand before a body, and two messages; both streams arrive in two
chunks. -/
theorem outcomes_packets_json :
    ((framing.map (open? Json.parse)).readings ([
        Text.Utf8.encode "\n\r\nContent-Length: 9\r\nA\nContent-Length: 02 \r\nContent\n\r\r\n\x7b",
        Text.Utf8.encode "\x7d"].map .bytes)).map Reading.outcome =
      [.ok (some (.ok (.object []))), .ok none] ∧
    ((framing.map (open? Json.parse)).readings ([
        Text.Utf8.encode "Content-Length: 4\r\n\r\ntrueContent-Len",
        Text.Utf8.encode "gth: 4\r\n\r\nnull"].map .bytes)).map Reading.outcome =
      [.ok (some (.ok (.bool true))), .ok (some (.ok .null)), .ok none] := by
  let packet : Packet :=
    { strays := [0, 1]
      earlier := [⟨Text.Utf8.encode "Content-Length: 9\r", by decide, by decide⟩,
        ⟨Text.Utf8.encode "A", by decide, by decide⟩]
      body := Text.Utf8.encode "\x7b\x7d"
      length :=
        ⟨[' '], ['0', '2'], [' ', '\r'], by simp [isBlank], by simp [isBlank], by decide,
          List.all_eq_true.1 rfl, by decide⟩
      later := [⟨Text.Utf8.encode "Content", by decide, by decide⟩]
      crs := 2
      fits := by decide
      later_silent := by decide }
  have hmessages : ∀ m ∈ [Json.bool true, Json.null], (Json.render m).utf8ByteSize ≤ greatestLength ∧
      Json.parse (Text.Utf8.encode (Json.render m)) = .ok m := by
    intro m hm
    simp only [List.mem_cons, List.not_mem_nil, or_false] at hm
    rcases hm with rfl | rfl
    · exact ⟨by decide, rfl⟩
    · exact ⟨by decide, rfl⟩
  exact ⟨(outcomes_packets Json.parse).2.1 [packet] _ (by decide +kernel),
    (outcomes_packets Json.parse).2.2 Json.render [.bool true, .null] _ hmessages
      (by decide +kernel)⟩

end Message
end DebugSession
