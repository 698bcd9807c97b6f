/-
Streams that are cut off.  What is left of a stream of messages are its first messages and a part of
the next; the part completes nothing, and whether it is an error depends on where the stream was
cut.  For messages with a header every cut inside one is an error.
-/
import DebugSession.Proofs.Framing.Packet

namespace DebugSession
namespace Framing

open Text (Bytes)

variable {S α ι : Type}

/-! ## Input -/

/-- The bytes of an input, whatever happens between them. -/
def stream (input : List Arrival) : Bytes :=
  input.flatMap fun
    | .bytes bs => bs
    | _ => []

theorem heardFrom_stream (F : Framing S α) {input : List Arrival}
    (h : ∀ text, .failure text ∉ input) (s : S) :
    F.heardFrom s input =
      ((F.run s (stream input)).1 ++ (F.finish (F.run s (stream input)).2).1.toList,
        (F.finish (F.run s (stream input)).2).2) := by
  induction input generalizing s with
  | nil => rfl
  | cons a later ih =>
    have hlater := ih fun text hmem => h text (List.mem_cons_of_mem a hmem)
    cases a with
    | bytes bs =>
      have hstream : stream (.bytes bs :: later) = bs ++ stream later := List.flatMap_cons
      rw [heardFrom, hlater, hstream, run_append, List.append_assoc]
    | event e => exact hlater s
    | record r => exact hlater s
    | flush => exact hlater s
    | failure text => exact absurd List.mem_cons_self (h text)

/-- If no read fails, what is heard are the messages of the bytes. -/
theorem heard_stream (F : Framing S α) {input : List Arrival}
    (h : ∀ text, .failure text ∉ input) : F.heard input = F.messages (stream input) :=
  heardFrom_stream F h F.start

/-! ## Cuts -/

/-- The bytes are those of the pieces `whole`, and then a part of the next piece that is not all of
it, if any is left. -/
structure Cut (bytes : ι → Bytes) (is : List ι) (cut : Bytes) (whole : List ι) (part : Bytes) :
    Prop where
  eq : cut = whole.flatMap bytes ++ part
  inside : whole = is ∧ part = [] ∨
    ∃ i later, is = whole ++ i :: later ∧ part <+: bytes i ∧ part ≠ bytes i

/-- Wherever a stream is cut off, it is a cut. -/
theorem exists_cut (bytes : ι → Bytes) {is : List ι} {cut : Bytes}
    (h : cut <+: is.flatMap bytes) : ∃ whole part, Cut bytes is cut whole part := by
  induction is generalizing cut with
  | nil =>
    obtain rfl := List.prefix_nil.1 h
    exact ⟨[], [], rfl, .inl ⟨rfl, rfl⟩⟩
  | cons i is ih =>
    rw [List.flatMap_cons] at h
    rcases List.prefix_or_prefix_of_prefix h (List.prefix_append (bytes i) _) with hpart | hwhole
    · by_cases hall : cut = bytes i
      · obtain ⟨whole, part, hcut⟩ := ih List.nil_prefix
        obtain ⟨hflat, rfl⟩ := List.append_eq_nil_iff.1 hcut.eq.symm
        refine ⟨i :: whole, [], ?_, ?_⟩
        · rw [List.flatMap_cons, hflat, List.append_nil, List.append_nil, hall]
        · rcases hcut.inside with ⟨rfl, -⟩ | ⟨j, later, rfl, hinside⟩
          · exact .inl ⟨rfl, rfl⟩
          · exact .inr ⟨j, later, rfl, hinside⟩
      · exact ⟨[], cut, rfl, .inr ⟨i, is, rfl, hpart, hall⟩⟩
    · obtain ⟨more, rfl⟩ := hwhole
      obtain ⟨whole, part, hcut⟩ := ih ((List.prefix_append_right_inj _).1 h)
      refine ⟨i :: whole, part, ?_, ?_⟩
      · rw [List.flatMap_cons, List.append_assoc, ← hcut.eq]
      · rcases hcut.inside with ⟨rfl, rfl⟩ | ⟨j, later, rfl, hinside⟩
        · exact .inl ⟨rfl, rfl⟩
        · exact .inr ⟨j, later, rfl, hinside⟩

variable {bytes : ι → Bytes} {is whole : List ι} {cut part : Bytes}

theorem Cut.mem (h : Cut bytes is cut whole part) : ∀ i ∈ whole, i ∈ is := by
  intro i hi
  rcases h.inside with ⟨rfl, -⟩ | ⟨j, later, rfl, -⟩
  · exact hi
  · exact List.mem_append_left _ hi

/-- If the part completes nothing, the messages of a stream that is cut off are the whole ones, and
the part decides how it ends. -/
theorem messages_cut {F : Framing S α} {message : ι → α} (h : Cut bytes is cut whole part)
    (hexact : ∀ i ∈ is, F.Exact (bytes i) (message i)) {s : S} {ending : Except String Unit}
    (hpart : F.run F.start part = ([], s)) (hend : F.finish s = (none, ending)) :
    F.messages cut = (whole.map message, ending) := by
  have hwhole := run_flatMap fun i hi => hexact i (h.mem i hi)
  rw [messages, h.eq, run_append, hwhole]
  simp only [hpart, hend]
  rw [List.append_nil, Option.toList_none, List.append_nil]

end Framing

namespace Message

open Text (Bytes)

/-! ## Parts of a message -/

/-- How a stream ends that is cut off behind a part of a message.  Once something stands behind the
header line, what is missing counts as missing from the body. -/
def cutEnding (part : Bytes) : Except String Unit :=
  if part = [] then .ok ()
  else if Line.lf ∈ part.dropLast then .error cutInBody
  else .error cutInHeader

/-- A stream that is cut off ends well exactly between two messages. -/
theorem cutEnding_eq_ok_iff {part : Bytes} : cutEnding part = .ok () ↔ part = [] := by
  rw [cutEnding]
  split
  · next h => exact ⟨fun _ => h, fun _ => rfl⟩
  · next h =>
    split
    · exact ⟨nofun, fun hnil => absurd hnil h⟩
    · exact ⟨nofun, fun hnil => absurd hnil h⟩

section Part

variable {n : Nat} {l : LengthLine n} {part body : Bytes}

/-- A part of the header line counts as a line at the end of the stream, and then a header is
open. -/
theorem finish_part_line (hpre : part <+: l.bytes) (hne : part ≠ []) :
    framing.finish (.header { line := part.reverse }) = (none, .error cutInHeader) := by
  have hbody : Line.body part ≠ [] := by
    -- the first letter of the name is no separator
    obtain ⟨b, more, rfl⟩ := List.exists_cons_of_ne_nil hne
    obtain ⟨tail, htail⟩ : ∃ tail, l.bytes = 0x43 :: tail := ⟨_, rfl⟩
    obtain ⟨rfl, -⟩ := List.cons_prefix_cons.1 (htail ▸ hpre)
    intro hnil
    exact absurd (Line.body_eq_nil_iff.1 hnil 0x43 List.mem_cons_self) (by decide)
  rw [finish_header, if_neg (by simpa using hne), endLine_of_not_blank hbody]
  rfl

/-- The whole header line names the length. -/
theorem run_lengthLine (l : LengthLine n) (hn : n < UInt64.size) :
    framing.run start (l.bytes ++ [Line.lf]) =
      ([], .header { seen := true, length := some (.ok n) }) := by
  have hrun := run_headerLine l.toHeaderLine false none
  rw [LengthLine.bytes_toHeaderLine, l.lengthOf?_bytes hn] at hrun
  exact hrun

theorem afterHeader_of_le (hpos : 0 < n) (hle : n ≤ greatestLength) :
    afterHeader (some (.ok n)) = (none, .body n []) := by
  rw [afterHeader, if_neg (by omega), if_neg (by omega)]

/-- Behind the CR of the blank line the stream ends in front of the body. -/
theorem finish_cr (hpos : 0 < n) (hle : n ≤ greatestLength) :
    framing.finish (.header { line := [Line.cr], seen := true, length := some (.ok n) }) =
      (none, .error cutInBody) := by
  have hend := finish_header [Line.cr] true (some (.ok n))
  rw [endLine_of_blank (by decide), if_neg (by decide), if_pos rfl,
    afterHeader_of_le hpos hle] at hend
  exact hend

/-- Behind the header line the stream ends in the header or, from the CR of the blank line on, in
the body. -/
theorem finish_rest {rest : Bytes} (hpos : 0 < n) (hle : n ≤ greatestLength)
    (hbody : body.length = n) (hpre : rest <+: Line.cr :: Line.lf :: body)
    (hrest : rest ≠ Line.cr :: Line.lf :: body) :
    ∃ s, framing.run (.header { seen := true, length := some (.ok n) }) rest = ([], s) ∧
      framing.finish s = (none, if rest = [] then .error cutInHeader else .error cutInBody) := by
  rcases List.prefix_cons_iff.1 hpre with rfl | ⟨rest, rfl, hlf⟩
  · refine ⟨_, rfl, ?_⟩
    exact finish_header [] true (some (.ok n))
  · have hnot : Line.lf ∉ [Line.cr] := by decide
    have hcr := run_header_of_not_mem hnot { seen := true, length := some (.ok n) }
    rw [if_neg (List.cons_ne_nil _ _)]
    rcases List.prefix_cons_iff.1 hlf with rfl | ⟨front, rfl, hfront⟩
    · exact ⟨_, hcr, finish_cr hpos hle⟩
    · have hlt : front.length < n := by
        refine hbody ▸ Nat.lt_of_le_of_ne hfront.length_le fun hlength => hrest ?_
        rw [hfront.eq_of_length hlength]
      have hempty : Line.body [Line.cr] = [] := by decide
      have hblank := endLine_of_blank hempty true (some (.ok n))
      rw [if_pos rfl, afterHeader_of_le hpos hle] at hblank
      refine ⟨_, (Framing.run_append_of_none hcr (Line.lf :: front)).trans
        ((Framing.run_of_push_none ((push_header_lf _).trans hblank) front).trans
          (run_body hlt [])), rfl⟩

/-- Where a message with a header line and a body is cut off, nothing is complete, and the stream
ends with an error if anything of the message is there. -/
theorem finish_part (hpos : 0 < n) (hle : n ≤ greatestLength) (hbody : body.length = n)
    (hpre : part <+: l.bytes ++ Line.lf :: Line.cr :: Line.lf :: body)
    (hpart : part ≠ l.bytes ++ Line.lf :: Line.cr :: Line.lf :: body) :
    ∃ s, framing.run start part = ([], s) ∧ framing.finish s = (none, cutEnding part) := by
  rw [cutEnding]
  by_cases hline : part <+: l.bytes
  · have hlf : Line.lf ∉ part := fun h => l.lf_not_mem_bytes (hline.subset h)
    refine ⟨_, run_header_of_not_mem hlf {}, ?_⟩
    rw [List.append_nil]
    by_cases hne : part = []
    · rw [if_pos hne, hne]
      rfl
    · rw [if_neg hne, if_neg (mt (fun h => (List.dropLast_prefix part).subset h) hlf)]
      exact finish_part_line hline hne
  · obtain ⟨q, rfl⟩ :=
      (List.prefix_or_prefix_of_prefix hpre (List.prefix_append l.bytes _)).resolve_left hline
    have hq := (List.prefix_append_right_inj l.bytes).1 hpre
    rcases List.prefix_cons_iff.1 hq with rfl | ⟨rest, rfl, hrest⟩
    · exact absurd (by simp) hline
    · obtain ⟨s, hs, hend⟩ := finish_rest hpos hle hbody hrest fun h => hpart (by rw [h])
      have hrun := run_lengthLine l (Nat.lt_of_le_of_lt hle (by decide))
      have hne : l.bytes ++ Line.lf :: rest ≠ [] :=
        List.append_ne_nil_of_right_ne_nil _ (List.cons_ne_nil _ _)
      refine ⟨s, ?_, ?_⟩
      · rw [List.append_cons, Framing.run_append_of_none hrun, hs]
      · rw [hend, if_neg hne, List.dropLast_append_of_ne_nil (List.cons_ne_nil _ _)]
        cases rest with
        | nil =>
          rw [if_pos rfl, List.dropLast_singleton, List.append_nil, if_neg l.lf_not_mem_bytes]
        | cons b rest =>
          rw [if_neg (List.cons_ne_nil _ _), List.dropLast_cons_cons,
            if_pos (List.mem_append_right _ List.mem_cons_self)]

end Part

/-! ## Streams of payloads -/

theorem encode_eq {payload : String} (h : payload.utf8ByteSize < UInt64.size) :
    Text.Utf8.encode (encode payload) = (Packet.ofPayload payload h).length.bytes ++
      Line.lf :: Line.cr :: Line.lf :: Text.Utf8.encode payload := by
  rw [← Packet.bytes_ofPayload payload h, Packet.bytes, Packet.headerBytes]
  simp only [Packet.ofPayload, blankLine, List.flatMap_nil, List.nil_append, List.append_nil,
    List.append_assoc, List.cons_append, List.replicate_one]

theorem finish_part_encode {payload : String} (hne : payload ≠ "")
    (hle : payload.utf8ByteSize ≤ greatestLength) {part : Bytes}
    (hpre : part <+: Text.Utf8.encode (encode payload))
    (hpart : part ≠ Text.Utf8.encode (encode payload)) :
    ∃ s, framing.run start part = ([], s) ∧ framing.finish s = (none, cutEnding part) := by
  have hfits : payload.utf8ByteSize < UInt64.size := Nat.lt_of_le_of_lt hle (by decide)
  have hlength : (Packet.ofPayload payload hfits).body.length = payload.utf8ByteSize :=
    Text.Utf8.length_encode payload
  rw [encode_eq hfits] at hpre hpart
  refine finish_part ?_ ?_ rfl hpre hpart
  · rw [hlength]
    exact Nat.pos_of_ne_zero (mt String.utf8ByteSize_eq_zero_iff.1 hne)
  · rw [hlength]
    exact hle

section Payloads

variable {ι ε α : Type} (read : Bytes → Except ε α) (payload : ι → String) (value : ι → α)

/-- A payload that can be sent and is read as its value. -/
structure Readable (i : ι) : Prop where
  ne : payload i ≠ ""
  le : (payload i).utf8ByteSize ≤ greatestLength
  read : read (Text.Utf8.encode (payload i)) = .ok (value i)

def frameBytes (i : ι) : Bytes := Text.Utf8.encode (encode (payload i))

variable {read payload value}

theorem Readable.exact {i : ι} (h : Readable read payload value i) :
    (framing.map (open? read)).Exact (frameBytes payload i) (.ok (value i)) := by
  have hfits : (payload i).utf8ByteSize < UInt64.size := Nat.lt_of_le_of_lt h.le (by decide)
  have hexact := (Packet.ofPayload (payload i) hfits).exact_outcome read
  rw [Packet.bytes_ofPayload, Packet.outcome_ofPayload read h.le, h.read] at hexact
  exact hexact

/-- The messages of a stream that is cut off are those of the whole frames. -/
theorem messages_cut {is whole : List ι} {cut part : Bytes}
    (h : ∀ i ∈ is, Readable read payload value i)
    (hcut : Framing.Cut (frameBytes payload) is cut whole part) :
    (framing.map (open? read)).messages cut =
      (whole.map fun i => .ok (value i), cutEnding part) := by
  obtain ⟨s, hs, hend⟩ :
      ∃ s, framing.run start part = ([], s) ∧ framing.finish s = (none, cutEnding part) := by
    rcases hcut.inside with ⟨-, rfl⟩ | ⟨i, later, rfl, hpre, hpart⟩
    · exact ⟨start, rfl, rfl⟩
    · have hi := h i (List.mem_append_right _ List.mem_cons_self)
      exact finish_part_encode hi.ne hi.le hpre hpart
  refine Framing.messages_cut hcut (fun i hi => (h i hi).exact) (s := s) ?_ ?_
  · exact (Framing.run_map (open? read) framing start part).trans (by rw [hs]; rfl)
  · show ((framing.finish s).1.map _, (framing.finish s).2) = _
    rw [hend]
    rfl

end Payloads

end Message
end DebugSession
