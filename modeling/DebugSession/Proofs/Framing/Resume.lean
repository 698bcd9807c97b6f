/-
Reading on after an error.  A message that is refused because of its body or its length was taken
off the stream; where the header names no length that can be used, the body stays, and its lines are
taken for lines of the next header.  So the messages behind it are read as they are just if the rest
of the body is blank lines (`outcomes_after_error`).
-/
import DebugSession.Proofs.Framing.Packet

namespace DebugSession
namespace Message

open Text (Bytes)

/-! ## Streams without a message -/

/-- Something of a message was read. -/
def State.Busy : State → Prop
  | .header h => h.seen = true
  | _ => True

theorem busy_afterHeader {length : Option (Except String Nat)}
    (h : (afterHeader length).1 = none) : (afterHeader length).2.Busy := by
  cases length with
  | none => exact absurd h (Option.some_ne_none _)
  | some length =>
    cases length with
    | error text => exact absurd h (Option.some_ne_none _)
    | ok n =>
      rw [afterHeader] at h ⊢
      split at h
      · next hlong =>
        rw [if_pos hlong]
        trivial
      · next hlong =>
        rw [if_neg hlong]
        split at h
        · exact absurd h (Option.some_ne_none _)
        · next hzero =>
          rw [if_neg hzero]
          trivial

theorem busy_endLine {h : Header} (hseen : h.seen = true) (hnone : (endLine h).1 = none) :
    (endLine h).2.Busy := by
  rw [endLine] at hnone ⊢
  rw [hseen] at hnone ⊢
  by_cases hblank : (Line.body h.line.reverse).isEmpty
  · simp only [hblank, if_true] at hnone ⊢
    exact busy_afterHeader hnone
  · simp only [hblank, if_false, Bool.false_eq_true]
    trivial

theorem busy_push {s : State} (hs : s.Busy) {b : UInt8} (hnone : (framing.push s b).1 = none) :
    (framing.push s b).2.Busy := by
  cases s with
  | header h =>
    by_cases hb : b = Line.lf
    · subst hb
      rw [push_header_lf] at hnone ⊢
      exact busy_endLine hs hnone
    · rw [push_header_of_ne hb]
      exact hs
  | body left held =>
    by_cases hleft : left ≤ 1
    · rw [show framing.push (.body left held) b = _ from if_pos hleft] at hnone
      exact absurd hnone (Option.some_ne_none _)
    · rw [show framing.push (.body left held) b = _ from if_neg hleft]
      trivial
  | skip length left =>
    by_cases hleft : left ≤ 1
    · rw [show framing.push (.skip length left) b = _ from if_pos hleft] at hnone
      exact absurd hnone (Option.some_ne_none _)
    · rw [show framing.push (.skip length left) b = _ from if_neg hleft]
      trivial

theorem close_ne_of_busy {s : State} (hs : s.Busy) : close s ≠ (none, .ok ()) := by
  cases s with
  | header h =>
    rw [close, if_pos (show h.seen = true from hs)]
    simp
  | body left held => simp [close]
  | skip length left => simp [close]

theorem finish_ne_of_busy {s : State} (hs : s.Busy) : framing.finish s ≠ (none, .ok ()) := by
  show finish s ≠ _
  cases s with
  | header h =>
    rw [finish]
    split
    · exact close_ne_of_busy (s := .header h) hs
    · split
      · simp
      · next s hend =>
        have hbusy := busy_endLine hs (congrArg Prod.fst hend)
        rw [hend] at hbusy
        exact close_ne_of_busy hbusy
  | body left held => exact close_ne_of_busy (s := .body left held) hs
  | skip length left => exact close_ne_of_busy (s := .skip length left) hs

/-- What was begun ends in a message or an error. -/
theorem run_ne_of_busy {s : State} (hs : s.Busy) (bytes : Bytes) :
    (framing.run s bytes).1 ≠ [] ∨ framing.finish (framing.run s bytes).2 ≠ (none, .ok ()) := by
  induction bytes generalizing s with
  | nil => exact .inr (finish_ne_of_busy hs)
  | cons b bytes ih =>
    rcases hpush : framing.push s b with ⟨_ | m, t⟩
    · have hbusy := busy_push hs (congrArg Prod.fst hpush)
      rw [hpush] at hbusy
      rw [Framing.run_of_push_none hpush]
      exact ih hbusy
    · rw [Framing.run_of_push_some hpush]
      exact .inl (List.cons_ne_nil _ _)

theorem messages_ne_of_busy {bytes : Bytes} {s : State} (hrun : framing.run start bytes = ([], s))
    (hs : s.Busy) (rest : Bytes) : framing.messages (bytes ++ rest) ≠ ([], .ok ()) := by
  intro h
  have hall : framing.run start (bytes ++ rest) = framing.run s rest :=
    Framing.run_append_of_none hrun rest
  rw [Framing.messages, show framing.start = start from rfl, hall] at h
  obtain ⟨hcomplete, hending⟩ := Prod.ext_iff.1 h
  obtain ⟨hrest, hlast⟩ := List.append_eq_nil_iff.1 hcomplete
  rcases run_ne_of_busy hs rest with hne | hne
  · exact hne hrest
  · exact hne (Prod.ext (Option.toList_eq_nil_iff.1 hlast) hending)

theorem eq_replicate_of_blank {line : Bytes} (hlf : Line.lf ∉ line) (hblank : Line.body line = []) :
    line = List.replicate line.length Line.cr := by
  refine List.eq_replicate_of_mem ?_
  intro b hb
  rcases Line.isSeparator_iff.1 (Line.body_eq_nil_iff.1 hblank b hb) with rfl | rfl
  · exact absurd hb hlf
  · rfl

/-- A stream without a message that ends well has blank lines only, the last perhaps without LF. -/
theorem blank_of_messages_eq_nil {bytes : Bytes} (h : framing.messages bytes = ([], .ok ())) :
    ∃ (strays : List Nat) (crs : Nat), bytes = strays.flatMap blankLine ++ List.replicate crs Line.cr := by
  induction bytes using Line.byLines with
  | step line rest hline ih =>
    rw [List.append_cons] at h
    by_cases hblank : Line.body line = []
    · have hrun : framing.run start (line ++ [Line.lf]) = ([], start) := by
        rw [eq_replicate_of_blank hline hblank]
        exact run_blankLine _
      rw [Framing.messages_append_of_none hrun] at h
      obtain ⟨strays, crs, hrest⟩ := ih h
      refine ⟨line.length :: strays, crs, ?_⟩
      rw [List.flatMap_cons, blankLine, ← eq_replicate_of_blank hline hblank, hrest]
      simp only [List.append_assoc, List.cons_append, List.nil_append]
    · -- from a line that is not blank on there is a message or an error
      have hrun : framing.run start (line ++ [Line.lf]) =
          ([], .header { seen := true, length := lengthOf? (Line.body line) <|> none }) := by
        rw [start, run_line hline, Framing.run_of_push_none
          ((push_header_lf _).trans (endLine_of_not_blank hblank false none))]
        rfl
      have hbusy : State.Busy
          (.header { seen := true, length := lengthOf? (Line.body line) <|> none }) := rfl
      exact absurd h (messages_ne_of_busy hrun hbusy rest)
  | last rest hlf =>
    refine ⟨[], rest.length, eq_replicate_of_blank hlf ?_⟩
    by_cases hempty : rest.isEmpty
    · rw [List.isEmpty_iff.1 hempty]
      rfl
    · -- a last line that is not blank leaves a header open
      by_contra hblank
      have hend := finish_header rest false none
      rw [if_neg hempty, endLine_of_not_blank hblank] at hend
      have hrun := run_header_of_not_mem hlf {}
      rw [List.append_nil] at hrun
      have hmessages := Framing.messages_of_none hrun
      rw [hend] at hmessages
      have hending : (Except.error cutInHeader : Except String Unit) = .ok () :=
        congrArg Prod.snd (hmessages.symm.trans h)
      cases hending

/-! ## Behind a header -/

/-- Of what stands behind a header the body is taken, or all if the body is longer than that. -/
theorem messages_block (h : HeaderBlock) (rest : Bytes) :
    framing.messages (h.bytes ++ rest) =
      if h.bodyLength ≤ rest.length then
        (h.frame (rest.take h.bodyLength) :: (framing.messages (rest.drop h.bodyLength)).1,
          (framing.messages (rest.drop h.bodyLength)).2)
      else if greatestLength < h.bodyLength then ([.tooLong h.bodyLength], .ok ())
      else ([], .error cutInBody) := by
  by_cases hle : h.bodyLength ≤ rest.length
  · rw [if_pos hle]
    have hexact := exact_block h (List.length_take_of_le hle)
    have hmessages := hexact.messages_append (rest.drop h.bodyLength)
    rw [List.append_assoc, List.take_append_drop] at hmessages
    exact hmessages
  · rw [if_neg hle]
    have hrun := HeaderBlock.run_bytes (h := h) (by omega)
    by_cases hlong : greatestLength < h.bodyLength
    · rw [if_pos hlong] at hrun ⊢
      have hall := Framing.run_append_of_none hrun rest
      rw [run_skip (by omega)] at hall
      exact Framing.messages_of_none hall
    · rw [if_neg hlong] at hrun ⊢
      have hall := Framing.run_append_of_none hrun rest
      rw [run_body (by omega)] at hall
      exact Framing.messages_of_none hall

section Outcomes

variable {ε α : Type} (read : Bytes → Except ε α)

/-- What the reads of a stream come to that arrives in these chunks. -/
def outcomes (chunks : List Bytes) : List (Except String (Option (Except (Fault ε) α))) :=
  ((framing.map (open? read)).readings (chunks.map .bytes)).map Reading.outcome

theorem outcomes_eq {chunks : List Bytes} {bytes : Bytes} (h : chunks.flatten = bytes) :
    outcomes read chunks = (framing.messages bytes).1.map (fun m => .ok (some (open? read m))) ++
      [(framing.messages bytes).2.map fun _ => none] := by
  rw [outcomes, Framing.outcomes_bytes _ h, Framing.messages_map, List.map_map]
  rfl

theorem outcomes_block (h : HeaderBlock) {rest : Bytes} {chunks : List Bytes}
    (hchunks : chunks.flatten = h.bytes ++ rest) :
    outcomes read chunks =
      if h.bodyLength ≤ rest.length then
        .ok (some (open? read (h.frame (rest.take h.bodyLength)))) ::
          outcomes read [rest.drop h.bodyLength]
      else if greatestLength < h.bodyLength then
        [.ok (some (.error (.tooLong h.bodyLength))), .ok none]
      else [.error cutInBody] := by
  rw [outcomes_eq read hchunks, messages_block]
  split
  · rw [outcomes_eq read (List.flatten_singleton)]
    rfl
  · split <;> rfl

theorem outcomes_packets_behind {leftover : Bytes} (h : framing.run start leftover = ([], start))
    (ps : List Packet) :
    outcomes read [leftover ++ ps.flatMap Packet.bytes] =
      ps.map (fun p => .ok (some (p.outcome read))) ++ [.ok none] := by
  have hps : outcomes read [ps.flatMap Packet.bytes] =
      ps.map (fun p => .ok (some (p.outcome read))) ++ [.ok none] :=
    Framing.outcomes_of_exact rfl (fun p _ => p.exact_outcome read) List.flatten_singleton
  rw [← hps, outcomes_eq read List.flatten_singleton, outcomes_eq read List.flatten_singleton,
    Framing.messages_append_of_none h]

theorem messages_of_outcomes {bytes : Bytes} (h : outcomes read [bytes] = [.ok none]) :
    framing.messages bytes = ([], .ok ()) := by
  rw [outcomes_eq read List.flatten_singleton] at h
  rcases hmessages : framing.messages bytes with ⟨_ | ⟨m, ms⟩, ending⟩
  · rw [hmessages] at h
    cases ending with
    | ok _ => rfl
    | error text => simp [Except.map] at h
  · rw [hmessages] at h
    exact absurd (congrArg List.length h) (by simp)

end Outcomes

/-! ## What is left of a body -/

/-- A header line behind CRs. -/
def HeaderLine.behind (l : HeaderLine) (crs : Nat) : HeaderLine where
  bytes := List.replicate crs Line.cr ++ l.bytes
  lf_not_mem := by
    rw [List.mem_append, not_or]
    exact ⟨lf_not_mem_replicate_cr crs, l.lf_not_mem⟩
  not_blank := by
    obtain ⟨b, hb, hcr⟩ := l.not_blank
    exact ⟨b, List.mem_append_right _ hb, hcr⟩

/-- A line that starts with a CR names no length. -/
theorem lengthOf?_behind (l : HeaderLine) (crs : Nat) :
    lengthOf? (Line.body (l.behind (crs + 1)).bytes) = none := by
  refine lengthOf?_eq_none ?_
  intro hname
  have hpre : Text.Utf8.encode lengthName <+: Line.cr :: (List.replicate crs Line.cr ++ l.bytes) :=
    hname.trans (Line.body_prefix _)
  obtain ⟨tail, htail⟩ : ∃ tail, Text.Utf8.encode lengthName = 0x43 :: tail := ⟨_, rfl⟩
  rw [htail] at hpre
  exact absurd (List.cons_prefix_cons.1 hpre).1 (by decide)

def emptyPacket : Packet := .ofPayload "" (by decide)

/-- Blank lines and CRs in front of a packet without a body, as one header. -/
def crBlock (strays : List Nat) (crs : Nat) : HeaderBlock where
  strays := strays
  lines := [emptyPacket.length.toHeaderLine.behind crs]
  lines_ne_nil := List.cons_ne_nil _ _
  crs := 1

theorem bytes_crBlock (strays : List Nat) (crs : Nat) :
    (crBlock strays crs).bytes =
      strays.flatMap blankLine ++ List.replicate crs Line.cr ++ emptyPacket.bytes := by
  have hbody : emptyPacket.body = [] := by decide +kernel
  rw [Packet.bytes_eq, hbody, HeaderBlock.bytes, HeaderBlock.head, HeaderBlock.bytes,
    HeaderBlock.head]
  simp only [crBlock, emptyPacket, Packet.ofPayload, Packet.block, HeaderLine.behind,
    LengthLine.bytes_toHeaderLine, List.flatMap_cons, List.flatMap_nil, List.nil_append,
    List.append_nil, List.append_assoc]

theorem frame_crBlock (strays : List Nat) (crs : Nat) (body : Bytes) :
    (crBlock strays (crs + 1)).bodyLength = 0 ∧
      (crBlock strays (crs + 1)).frame body = .missingLength := by
  have hlength : (crBlock strays (crs + 1)).length = none := by
    rw [HeaderBlock.length, crBlock, lengthAfter_cons, lengthOf?_behind]
    rfl
  rw [HeaderBlock.bodyLength, HeaderBlock.frame, hlength]
  exact ⟨rfl, rfl⟩

section Outcomes

variable {ε α : Type} (read : Bytes → Except ε α)

/-- Packets are read behind what is left of a body exactly if that is blank lines. -/
theorem outcomes_leftover_iff (leftover : Bytes) :
    (∀ ps : List Packet, outcomes read [leftover ++ ps.flatMap Packet.bytes] =
      ps.map (fun p => .ok (some (p.outcome read))) ++ [.ok none]) ↔
        ∃ strays : List Nat, leftover = strays.flatMap blankLine := by
  constructor
  · intro h
    have hnone := h []
    rw [List.flatMap_nil, List.append_nil] at hnone
    obtain ⟨strays, crs, rfl⟩ := blank_of_messages_eq_nil (messages_of_outcomes read hnone)
    cases crs with
    | zero => exact ⟨strays, List.append_nil _⟩
    | succ crs =>
      -- a packet behind the CRs is taken for a header without a length
      exfalso
      have hempty := h [emptyPacket]
      rw [List.flatMap_singleton, ← bytes_crBlock] at hempty
      obtain ⟨hlength, hframe⟩ := frame_crBlock strays crs []
      have hbytes : [(crBlock strays (crs + 1)).bytes].flatten =
          (crBlock strays (crs + 1)).bytes ++ [] := rfl
      have hblock := outcomes_block read (crBlock strays (crs + 1)) hbytes
      rw [hempty, hlength, if_pos (Nat.zero_le _), List.take_nil, hframe] at hblock
      have houtcome : emptyPacket.outcome read = .error .missingLength :=
        Option.some.inj (Except.ok.inj (List.cons.inj hblock).1)
      rw [emptyPacket, Packet.outcome_ofPayload read (Nat.zero_le _)] at houtcome
      cases hread : read (Text.Utf8.encode "") <;> rw [hread] at houtcome <;>
        simp [Except.mapError] at houtcome
  · rintro ⟨strays, rfl⟩ ps
    exact outcomes_packets_behind read (run_strays strays) ps

end Outcomes

/-- What a header and all that is behind it come to.  It takes as many bytes as it names, none if it
names no length that can be used, and reading goes on behind them.  So where it comes to an error
that is not the end, the packets behind its body are all read, whichever they are, exactly if what
it does not take of its body is blank lines. -/
theorem outcomes_after_error {ε α : Type} (read : Bytes → Except ε α) (h : HeaderBlock) :
    (∀ (rest : Bytes) (chunks : List Bytes), chunks.flatten = h.bytes ++ rest →
      outcomes read chunks =
        if h.bodyLength ≤ rest.length then
          .ok (some (open? read (h.frame (rest.take h.bodyLength)))) ::
            outcomes read [rest.drop h.bodyLength]
        else if greatestLength < h.bodyLength then
          [.ok (some (.error (.tooLong h.bodyLength))), .ok none]
        else [.error cutInBody]) ∧
    ∀ (body : Bytes) (fault : Fault ε), h.bodyLength ≤ body.length →
      open? read (h.frame (body.take h.bodyLength)) = .error fault →
      ((∀ (ps : List Packet) (chunks : List Bytes),
          chunks.flatten = h.bytes ++ (body ++ ps.flatMap Packet.bytes) →
          outcomes read chunks = .ok (some (.error fault)) ::
            (ps.map (fun p => .ok (some (p.outcome read))) ++ [.ok none])) ↔
        ∃ strays : List Nat, body.drop h.bodyLength = strays.flatMap blankLine) := by
  refine ⟨fun rest chunks hchunks => outcomes_block read h hchunks, ?_⟩
  intro body fault hle hfault
  have hfirst : ∀ (ps : List Packet) (chunks : List Bytes),
      chunks.flatten = h.bytes ++ (body ++ ps.flatMap Packet.bytes) →
      outcomes read chunks = .ok (some (.error fault)) ::
        outcomes read [body.drop h.bodyLength ++ ps.flatMap Packet.bytes] := by
    intro ps chunks hchunks
    have hlong : h.bodyLength ≤ (body ++ ps.flatMap Packet.bytes).length :=
      Nat.le_trans hle (by simp)
    rw [outcomes_block read h hchunks, if_pos hlong, List.take_append_of_le_length hle,
      List.drop_append_of_le_length hle, hfault]
  -- behind the first read both sides are about what is left of the body
  rw [← outcomes_leftover_iff read]
  constructor
  · intro hall ps
    have hps := hall ps [h.bytes ++ (body ++ ps.flatMap Packet.bytes)] List.flatten_singleton
    rw [hfirst ps _ List.flatten_singleton] at hps
    exact (List.cons.inj hps).2
  · intro hleft ps chunks hchunks
    rw [hfirst ps chunks hchunks, hleft ps]

/-- The header `X-Other: 1`, which names no length. -/
def otherBlock : HeaderBlock where
  strays := []
  lines := [{
    bytes := Text.Utf8.encode "X-Other: 1\r"
    lf_not_mem := by decide +kernel
    not_blank := ⟨0x58, by decide +kernel, by decide⟩ }]
  lines_ne_nil := List.cons_ne_nil _ _
  crs := 1

/-- Behind this header a blank line is passed over, and an object is not. -/
theorem outcomes_after_error_otherBlock :
    let next := Packet.ofPayload "\x7b\"seq\":5\x7d" (by decide)
    let blank := blankLine 1
    let object := Text.Utf8.encode "\x7b\x7d"
    outcomes Json.parse [otherBlock.bytes ++ (blank ++ [next].flatMap Packet.bytes)] =
        .ok (some (.error .missingLength)) ::
          ([next].map (fun p => .ok (some (p.outcome Json.parse))) ++ [.ok none]) ∧
      ¬ ∀ (ps : List Packet) (chunks : List Bytes),
        chunks.flatten = otherBlock.bytes ++ (object ++ ps.flatMap Packet.bytes) →
        outcomes Json.parse chunks = .ok (some (.error .missingLength)) ::
          (ps.map (fun p => .ok (some (p.outcome Json.parse))) ++ [.ok none]) := by
  intro next blank object
  have hlength : otherBlock.length = none := by decide +kernel
  have hnone : otherBlock.bodyLength = 0 := by rw [HeaderBlock.bodyLength, hlength]
  have hfault : ∀ body : Bytes,
      open? Json.parse (otherBlock.frame (body.take otherBlock.bodyLength)) =
        .error .missingLength := by
    intro body
    rw [HeaderBlock.frame, hlength]
    rfl
  have hle : ∀ body : Bytes, otherBlock.bodyLength ≤ body.length := by
    intro body
    rw [hnone]
    exact Nat.zero_le _
  obtain ⟨-, hafter⟩ := outcomes_after_error Json.parse otherBlock
  constructor
  · refine (hafter blank .missingLength (hle blank) (hfault blank)).2 ⟨[1], ?_⟩ [next] _
      List.flatten_singleton
    rw [hnone]
    rfl
  · intro hall
    obtain ⟨strays, hstrays⟩ :=
      (hafter object .missingLength (hle object) (hfault object)).1 hall
    -- a blank line has no other bytes than CR and LF
    have hbrace : 0x7B ∈ strays.flatMap blankLine := by
      rw [← hstrays, hnone]
      decide +kernel
    obtain ⟨crs, -, hmem⟩ := List.mem_flatMap.1 hbrace
    rcases List.mem_append.1 hmem with hcr | hlf
    · exact absurd (List.eq_of_mem_replicate hcr) (by decide)
    · exact absurd (List.mem_singleton.1 hlf) (by decide)

/-- A body without a length is read as the begin of the next header, which it spoils. -/
theorem outcomes_body_as_header :
    outcomes Json.parse
        [Text.Utf8.encode "X-Other: 1\r\n\r\n\x7b\x7dContent-Length: 9\r\n\r\n\x7b\"seq\":5\x7d"] =
      [.ok (some (.error .missingLength)), .ok (some (.error .missingLength)),
        .error cutInHeader] := by
  rw [outcomes_eq Json.parse List.flatten_singleton]
  have hmessages : framing.messages (Text.Utf8.encode
      "X-Other: 1\r\n\r\n\x7b\x7dContent-Length: 9\r\n\r\n\x7b\"seq\":5\x7d") =
        ([.missingLength, .missingLength], .error cutInHeader) := by decide +kernel
  rw [hmessages]
  rfl

end Message
end DebugSession
