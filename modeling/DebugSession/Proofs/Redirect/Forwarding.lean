/-
A captured stream from its first byte to its end.  Whatever a source hands out, and however often a
read is interrupted, the chunks are what it holds in front of its end; each chunk makes at most one
event, the end makes at most one more, and together they show the whole text.  A chunk counts as
delivered once its event is out, wherever the forwarder is stopped (`stream_forwarded`).
-/
import DebugSession.Proofs.Redirect.Traffic

namespace DebugSession
namespace Redirect

open Supervisor (brought textOn textOn_append textOn_nil textOn_outputEvents textOn_map_output)
open Text (Bytes)
open Text.Utf8 (Decoder lossy)

/-! ## The chunks of a stream -/

/-- The bytes that a source hands out in front of its end. -/
def content (source : List Read) : Bytes :=
  (source.takeWhile fun r => !r.ends).flatMap brought

/-- The reads in which a source hands out what it has. -/
def handedOut (source : List Read) : List Read := source.flatMap Read.split

theorem nil_not_mem_pieces (bytes : Bytes) : [] ∉ pieces bytes :=
  fun h => absurd (length_le_of_mem_pieces h).1 (Nat.lt_irrefl 0)

theorem pieces_nil : pieces [] = [] := by
  rw [pieces]
  rfl

theorem chunks_split_append (r : Read) (reads : List Read) :
    chunks (r.split ++ reads) = if r.ends then [] else pieces (brought r) ++ chunks reads := by
  cases r with
  | data bytes =>
    cases bytes with
    | nil => rfl
    | cons b bytes => exact chunks_append_data (nil_not_mem_pieces _) reads
  | interrupted =>
    show chunks reads = pieces [] ++ chunks reads
    rw [pieces_nil, List.nil_append]
  | failed text => rfl

/-- Each read in front of the end is cut into pieces on its own. -/
theorem chunks_handedOut (source : List Read) :
    chunks (handedOut source) =
      (source.takeWhile fun r => !r.ends).flatMap fun r => pieces (brought r) := by
  induction source with
  | nil => rfl
  | cons r source ih =>
    rw [handedOut, List.flatMap_cons, chunks_split_append, List.takeWhile_cons]
    cases r.ends with
    | true => rfl
    | false =>
      rw [if_neg Bool.false_ne_true, Bool.not_false, if_pos rfl, List.flatMap_cons, ← ih]
      rfl

theorem length_le_of_mem_chunks {source : List Read} {chunk : Bytes}
    (h : chunk ∈ chunks (handedOut source)) : 0 < chunk.length ∧ chunk.length ≤ bufferSize := by
  rw [chunks_handedOut] at h
  obtain ⟨r, -, hpiece⟩ := List.mem_flatMap.1 h
  exact length_le_of_mem_pieces hpiece

theorem flatten_chunks_handedOut (source : List Read) :
    (chunks (handedOut source)).flatten = content source := by
  rw [chunks_handedOut, content, List.flatten_eq_flatMap, List.flatMap_assoc]
  simp only [← List.flatten_eq_flatMap, flatten_pieces]

/-- An interrupted read is as good as none. -/
theorem chunks_handedOut_filter (source : List Read) :
    chunks (handedOut (source.filter (· ≠ .interrupted))) = chunks (handedOut source) := by
  induction source with
  | nil => rfl
  | cons r source ih =>
    have hsource : chunks (handedOut (r :: source)) =
        if r.ends then [] else pieces (brought r) ++ chunks (handedOut source) :=
      chunks_split_append r _
    by_cases hr : r = .interrupted
    · subst hr
      rw [List.filter_cons_of_neg (by decide), ih, hsource]
      show _ = pieces [] ++ chunks (handedOut source)
      rw [pieces_nil, List.nil_append]
    · rw [List.filter_cons_of_pos (by simpa using hr), hsource, ← ih]
      exact chunks_split_append r _

/-! ## The events of a stream -/

namespace Forwarder

/-- The forwarder shows one text for each chunk, unless it is empty. -/
theorem forwardAll_eq (f : Forwarder) (chunks : List Bytes) :
    f.forwardAll chunks =
      ((f.decoder.decodeAll chunks).1.flatMap (outputEvents f.channel), { f with
        decoder := (f.decoder.decodeAll chunks).2
        delivered := f.delivered + chunks.flatten.length }) := by
  induction chunks generalizing f with
  | nil => rfl
  | cons chunk chunks ih =>
    have hlater := ih (f.forward chunk).2
    show ((f.forward chunk).1 ++ ((f.forward chunk).2.forwardAll chunks).1,
      ((f.forward chunk).2.forwardAll chunks).2) = _
    rw [hlater, List.flatten_cons, List.length_append, ← Nat.add_assoc]
    rfl

theorem length_decodeAll (d : Decoder) (chunks : List Bytes) :
    (d.decodeAll chunks).1.length = chunks.length := by
  induction chunks generalizing d with
  | nil => rfl
  | cons chunk chunks ih => exact congrArg (· + 1) (ih _)

theorem length_outputEvents_le (channel : Channel) (text : String) :
    (outputEvents channel text).length ≤ 1 := by
  rw [outputEvents]
  split
  · exact Nat.zero_le 1
  · exact Nat.le_refl 1

theorem textOn_flatMap_outputEvents (channel : Channel) (texts : List String) :
    textOn channel (texts.flatMap (outputEvents channel)) = String.join texts := by
  induction texts with
  | nil => rfl
  | cons text texts ih =>
    rw [List.flatMap_cons, textOn_append, textOn_outputEvents, ih]
    exact String.join_cons.symm

/-- An event with a text on the forwarder's channel. -/
def Shows (channel : Channel) (e : Event) : Prop := ∃ text, text ≠ "" ∧ e = .output channel text

theorem shows_of_mem_outputEvents {channel : Channel} {text : String} {e : Event}
    (h : e ∈ outputEvents channel text) : Shows channel e := by
  rw [outputEvents] at h
  split at h
  · exact absurd h List.not_mem_nil
  · next hne => exact ⟨text, mt String.isEmpty_iff.2 hne, List.mem_singleton.1 h⟩

theorem shows_of_mem_finish {f : Forwarder} {e : Event} (h : e ∈ f.finish.1) :
    Shows f.channel e := by
  obtain ⟨text, htext, rfl⟩ := List.mem_map.1 h
  refine ⟨text, ?_, rfl⟩
  have hfinish : f.decoder.finish.1 = some text := Option.mem_toList.1 htext
  rw [Decoder.finish] at hfinish
  split at hfinish
  · cases hfinish
  · rw [← Option.some.inj hfinish]
    decide

theorem length_finish_le (f : Forwarder) : f.finish.1.length ≤ 1 := by
  show (f.decoder.finish.1.toList.map _).length ≤ 1
  cases f.decoder.finish.1 with
  | none => exact Nat.zero_le 1
  | some text => exact Nat.le_refl 1

/-- All that is shown of chunks and of their end is their text. -/
theorem textOn_forwardAll_finish (channel : Channel) (delivered : Nat) (chunks : List Bytes) :
    let f : Forwarder := { channel, delivered }
    textOn channel ((f.forwardAll chunks).1 ++ (f.forwardAll chunks).2.finish.1) =
      lossy chunks.flatten := by
  intro f
  rw [forwardAll_eq, textOn_append, textOn_flatMap_outputEvents]
  show _ ++ textOn channel (((Decoder.decodeAll {} chunks).2.finish.1.toList).map _) = _
  rw [textOn_map_output, ← String.join_append]
  exact (Decoder.join_decodeAll_finish chunks).1

end Forwarder

/-! ## Stopping a forwarder -/

namespace Lane

theorem moves_append (l : Lane) (a b : List Move) :
    l.moves (a ++ b) = ((l.moves a).1 ++ ((l.moves a).2.moves b).1, ((l.moves a).2.moves b).2) := by
  induction a generalizing l with
  | nil => rfl
  | cons m a ih => simp only [List.cons_append, moves, ih, List.append_assoc]

/-- A forwarder that does all of its work at once. -/
theorem moves_forward {l : Lane} (hhand : l.hand = .empty) {k : Nat}
    (hchunk : l.pipe.held.take (min k bufferSize) ≠ []) :
    l.moves [.take k, .publish, .deliver] =
      ((l.pipe.forward k).1, { l with pipe := (l.pipe.forward k).2 }) := by
  have htake : l.move (.take k) = ([], { l with
      pipe := { l.pipe with held := l.pipe.held.drop (min k bufferSize) }
      hand := .taken (l.pipe.held.take (min k bufferSize)) }) := if_pos ⟨hhand, hchunk⟩
  obtain ⟨pipe, writer, hand, complete⟩ := l
  obtain rfl : hand = .empty := hhand
  simp only [moves, htake, List.nil_append]
  exact congrArg (·, _) (List.append_nil _)

/-- The moves with which the forwarder passes chunks on, one after the other. -/
def passing (chunks : List Bytes) : List Move :=
  chunks.flatMap fun chunk => [.take chunk.length, .publish, .deliver]

/-- Chunks that are in the pipe are passed on as a whole forwarder passes them on. -/
theorem moves_passing {l : Lane} {chunks : List Bytes} {rest : Bytes} (hhand : l.hand = .empty)
    (hheld : l.pipe.held = chunks.flatten ++ rest)
    (hchunks : ∀ chunk ∈ chunks, 0 < chunk.length ∧ chunk.length ≤ bufferSize) :
    l.moves (passing chunks) = ((l.pipe.forwarder.forwardAll chunks).1, { l with
      pipe := { l.pipe with
        held := rest
        forwarder := (l.pipe.forwarder.forwardAll chunks).2 } }) := by
  induction chunks generalizing l with
  | nil =>
    obtain ⟨⟨held, written, forwarder⟩, writer, hand, complete⟩ := l
    obtain rfl : held = rest := hheld
    rfl
  | cons chunk chunks ih =>
    obtain ⟨hpos, hle⟩ := hchunks chunk List.mem_cons_self
    rw [List.flatten_cons, List.append_assoc] at hheld
    have htake : l.pipe.held.take (min chunk.length bufferSize) = chunk := by
      rw [Nat.min_eq_left hle, hheld, List.take_left]
    have hdrop : l.pipe.held.drop (min chunk.length bufferSize) = chunks.flatten ++ rest := by
      rw [Nat.min_eq_left hle, hheld, List.drop_left]
    have hforward : l.pipe.forward chunk.length = ((l.pipe.forwarder.forward chunk).1,
        { l.pipe with
          held := chunks.flatten ++ rest, forwarder := (l.pipe.forwarder.forward chunk).2 }) := by
      rw [Pipe.forward, htake, hdrop]
    have hfirst := moves_forward hhand (htake ▸ List.length_pos_iff.1 hpos)
    have hlater := ih (l := { l with pipe := (l.pipe.forward chunk.length).2 }) hhand
      (by rw [hforward]) fun c hc => hchunks c (List.mem_cons_of_mem chunk hc)
    rw [passing, List.flatMap_cons, moves_append, hfirst, ← passing, hlater, hforward]
    rfl

/-- A chunk whose event is out counts as delivered with the next move, and not before. -/
theorem moves_shown {l : Lane} {chunk rest : Bytes} (hhand : l.hand = .empty)
    (hheld : l.pipe.held = chunk ++ rest)
    (hchunk : 0 < chunk.length ∧ chunk.length ≤ bufferSize) :
    let shown := l.moves [.take chunk.length, .publish]
    shown.1 = (l.pipe.forwarder.forward chunk).1 ∧
      shown.2.pipe.forwarder.delivered = l.pipe.forwarder.delivered ∧
      (shown.2.move .deliver).1 = [] ∧
      (shown.2.move .deliver).2.pipe.forwarder.delivered =
        l.pipe.forwarder.delivered + chunk.length := by
  obtain ⟨hpos, hle⟩ := hchunk
  have hfront : l.pipe.held.take (min chunk.length bufferSize) = chunk := by
    rw [Nat.min_eq_left hle, hheld, List.take_left]
  have hne : l.pipe.held.take (min chunk.length bufferSize) ≠ [] := by
    rw [hfront]
    exact List.length_pos_iff.1 hpos
  have htake : l.move (.take chunk.length) = ([], { l with
      pipe := { l.pipe with held := l.pipe.held.drop (min chunk.length bufferSize) }
      hand := .taken (l.pipe.held.take (min chunk.length bufferSize)) }) := if_pos ⟨hhand, hne⟩
  intro shown
  have hshown : shown = ((l.pipe.forwarder.forward chunk).1, { l with
      pipe := { l.pipe with
        held := l.pipe.held.drop (min chunk.length bufferSize)
        forwarder := { l.pipe.forwarder with
          decoder := (l.pipe.forwarder.forward chunk).2.decoder } }
      hand := .shown chunk.length }) := by
    simp only [shown, moves, htake, hfront, List.nil_append]
    exact congrArg (·, _) (List.append_nil _)
  rw [hshown]
  exact ⟨rfl, rfl, rfl, rfl⟩

/-- The same behind chunks that were passed on before. -/
theorem moves_passing_shown {l : Lane} {before : List Bytes} {chunk rest : Bytes}
    (hhand : l.hand = .empty) (hheld : l.pipe.held = before.flatten ++ (chunk ++ rest))
    (hchunks : ∀ c ∈ before ++ [chunk], 0 < c.length ∧ c.length ≤ bufferSize) :
    let shown := l.moves (passing before ++ [.take chunk.length, .publish])
    shown.1 = (l.pipe.forwarder.forwardAll (before ++ [chunk])).1 ∧
      shown.2.pipe.forwarder.delivered = l.pipe.forwarder.delivered + before.flatten.length ∧
      (shown.2.move .deliver).1 = [] ∧
      (shown.2.move .deliver).2.pipe.forwarder.delivered =
        l.pipe.forwarder.delivered + before.flatten.length + chunk.length := by
  have hbefore := moves_passing hhand hheld fun c hc => hchunks c (List.mem_append_left _ hc)
  have hcount := Forwarder.delivered_forwardAll l.pipe.forwarder before
  have hall := Forwarder.forwardAll_append l.pipe.forwarder before [chunk]
  obtain ⟨hevents, hstill, hquiet, hcounted⟩ := moves_shown
    (l := (l.moves (passing before)).2) (by rw [hbefore]; exact hhand) (by rw [hbefore])
    (hchunks chunk List.mem_concat_self)
  simp only [moves_append]
  refine ⟨?_, hstill.trans ?_, hquiet, hcounted.trans ?_⟩
  · rw [hevents, hbefore, hall]
    exact congrArg _ (List.append_nil _).symm
  · rw [hbefore]
    exact hcount
  · rw [hbefore]
    exact congrArg (· + chunk.length) hcount

/-- The chunks whose events are out while they do not count as delivered: the one in hand, if
any. -/
inductive Uncounted : Hand → List Bytes → Prop where
  | empty : Uncounted .empty []
  | taken (chunk : Bytes) : Uncounted (.taken chunk) []
  | shown (chunk : Bytes) : Uncounted (.shown chunk.length) [chunk]

theorem Uncounted.length_le {hand : Hand} {shown : List Bytes} (h : Uncounted hand shown) :
    shown.length ≤ 1 := by
  cases h with
  | shown chunk => exact Nat.le_refl 1
  | _ => exact Nat.zero_le 1

/-- How far the chunks of a lane have come that held `bytes` and whose forwarder was `f`: it has
published `events` for the chunks that count as delivered and for the one in hand. -/
structure Passed (f : Forwarder) (bytes : Bytes) (l : Lane) (events : List Event)
    (counted shown : List Bytes) : Prop where
  stream : bytes ++ l.stream = (counted ++ shown).flatten ++ l.hand.unseen ++ l.pipe.held
  events : events = (f.forwardAll (counted ++ shown)).1
  forwarder : l.pipe.forwarder =
    { (f.forwardAll (counted ++ shown)).2 with delivered := f.delivered + counted.flatten.length }
  hand : Uncounted l.hand shown

namespace Passed

variable {f : Forwarder} {bytes : Bytes} {l l' : Lane} {events more : List Event}
  {counted shown : List Bytes}

theorem moved (h : Passed f bytes l events counted shown) (hmoved : Moved l more l') :
    ∃ counted shown, Passed f bytes l' (events ++ more) counted shown := by
  obtain ⟨hstream, hevents, hforwarder, hhand⟩ := h
  cases hmoved with
  | wrote l' written stream held _ forwarder hand =>
    refine ⟨counted, shown, ?_, ?_, forwarder.trans hforwarder, hand ▸ hhand⟩
    · rw [stream, held, hand, ← List.append_assoc, hstream, List.append_assoc]
    · rw [List.append_nil, hevents]
  | took chunk rest hand held size =>
    rw [hand] at hstream hhand
    cases hhand
    refine ⟨counted, [], ?_, ?_, hforwarder, .taken chunk⟩
    · show bytes ++ l.stream = (counted ++ []).flatten ++ chunk ++ rest
      rw [hstream, show Hand.empty.unseen = [] from rfl, List.append_nil, held, List.append_assoc]
    · rw [List.append_nil, hevents]
  | published chunk hand =>
    rw [hand] at hstream hhand
    cases hhand
    rw [List.append_nil] at hstream hevents hforwarder
    have hall := Forwarder.forwardAll_append f counted [chunk]
    refine ⟨counted, [chunk], ?_, ?_, ?_, .shown chunk⟩
    · show bytes ++ l.stream = (counted ++ [chunk]).flatten ++ [] ++ l.pipe.held
      rw [hstream, List.flatten_append, List.flatten_singleton, List.append_nil]
      rfl
    · rw [hall, hevents, hforwarder]
      exact congrArg _ (List.append_nil _).symm
    · rw [hall, hforwarder]
      rfl
  | delivered n hand =>
    rw [hand] at hstream hhand
    cases hhand with
    | shown chunk =>
      refine ⟨counted ++ [chunk], [], ?_, ?_, ?_, .empty⟩
      · rw [List.append_nil (counted ++ [chunk])]
        exact hstream
      · rw [List.append_nil, List.append_nil (counted ++ [chunk]), hevents]
      · rw [List.append_nil (counted ++ [chunk]), hforwarder, List.flatten_append,
          List.flatten_singleton, List.length_append, ← Nat.add_assoc]

/-- Wherever the moves of a lane stop, its chunks have come so far. -/
theorem moves (h : Passed f bytes l events counted shown) (ms : List Move) :
    ∃ counted shown,
      Passed f bytes (l.moves ms).2 (events ++ (l.moves ms).1) counted shown := by
  induction ms generalizing l events counted shown with
  | nil =>
    rw [Lane.moves, List.append_nil]
    exact ⟨counted, shown, h⟩
  | cons m ms ih =>
    obtain ⟨counted, shown, hm⟩ := h.moved (l.moved m)
    have hlater := ih hm
    rw [List.append_assoc] at hlater
    exact hlater

end Passed

end Lane

/-! ## The whole stream -/

/-- What a source hands out is forwarded completely, on any channel and whatever was delivered
before.

The chunks are not empty and fit the buffer; together they are all that is in front of the end, and
interrupted reads make no difference.

There is at most one event for each chunk and at most one more for the end.  Each has a text and is
on the channel, and the texts are together the lenient text of the stream.

The counter goes on by the number of bytes.  A forwarder that takes the chunks out of a pipe one by
one ends with these events and this count.  On the way each chunk counts, with just its bytes, when
its event is out; and wherever the moves of a lane stop, the events of the chunks that count as
delivered are out, and so is that of at most one more chunk. -/
theorem stream_forwarded (channel : Channel) (delivered : Nat) (source : List Read) :
    let f : Forwarder := { channel, delivered }
    let passed := chunks (handedOut source)
    let out := f.run (handedOut source)
    let lane : Lane := { pipe := { held := content source, forwarder := f } }
    ((∀ chunk ∈ passed, 0 < chunk.length ∧ chunk.length ≤ bufferSize) ∧
      passed.flatten = content source ∧
      chunks (handedOut (source.filter (· ≠ .interrupted))) = passed) ∧
    (∃ (published : List (List Event)) (tail : List Event),
      out.1 = published.flatten ++ tail ∧ published.length = passed.length ∧
      (∀ events ∈ published, events.length ≤ 1) ∧ tail.length ≤ 1 ∧
      (∀ e ∈ out.1, ∃ text, text ≠ "" ∧ e = .output channel text) ∧
      textOn channel out.1 = lossy (content source) ∧
      (lane.moves (Lane.passing passed)).1 = published.flatten ∧
      (lane.moves (Lane.passing passed)).2.Clear) ∧
    out.2.delivered = delivered + (content source).length ∧
    (lane.moves (Lane.passing passed)).2.pipe.forwarder.delivered = out.2.delivered ∧
    (∀ before chunk after, passed = before ++ chunk :: after →
      let shown := lane.moves (Lane.passing before ++ [.take chunk.length, .publish])
      shown.1 = (f.forwardAll (before ++ [chunk])).1 ∧
        shown.2.pipe.forwarder.delivered = delivered + before.flatten.length ∧
        (shown.2.move .deliver).1 = [] ∧
        (shown.2.move .deliver).2.pipe.forwarder.delivered =
          delivered + before.flatten.length + chunk.length) ∧
    ∀ moves, ∃ counted shown : List Bytes, shown.length ≤ 1 ∧
      content source ++ (lane.moves moves).2.stream = (counted ++ shown).flatten ++
        (lane.moves moves).2.hand.unseen ++ (lane.moves moves).2.pipe.held ∧
      (lane.moves moves).1 = (f.forwardAll (counted ++ shown)).1 ∧
      (lane.moves moves).2.pipe.forwarder.delivered = delivered + counted.flatten.length := by
  intro f passed out lane
  have hsize : ∀ chunk ∈ passed, 0 < chunk.length ∧ chunk.length ≤ bufferSize :=
    fun chunk => length_le_of_mem_chunks
  have hcontent : passed.flatten = content source := flatten_chunks_handedOut source
  have hout : out.1 = (f.forwardAll passed).1 ++ (f.forwardAll passed).2.finish.1 := rfl
  have hevents : (f.forwardAll passed).1 =
      (((Decoder.decodeAll {} passed).1.map (outputEvents channel))).flatten := by
    rw [Forwarder.forwardAll_eq, List.flatMap_def]
  have hheld : lane.pipe.held = passed.flatten ++ [] := by
    rw [List.append_nil, hcontent]
  have hpassing := Lane.moves_passing (l := lane) rfl hheld hsize
  have hdelivered : out.2.delivered = delivered + (content source).length :=
    hcontent ▸ Forwarder.delivered_forwardAll f passed
  refine ⟨⟨hsize, hcontent, chunks_handedOut_filter source⟩, ?_, hdelivered, ?_, ?_, ?_⟩
  · refine ⟨(Decoder.decodeAll {} passed).1.map (outputEvents channel),
      (f.forwardAll passed).2.finish.1, ?_, ?_, ?_, Forwarder.length_finish_le _, ?_, ?_, ?_, ?_⟩
    · rw [hout, hevents]
    · rw [List.length_map, Forwarder.length_decodeAll]
    · intro events hmem
      obtain ⟨text, -, rfl⟩ := List.mem_map.1 hmem
      exact Forwarder.length_outputEvents_le channel text
    · intro e he
      rw [hout, hevents] at he
      rcases List.mem_append.1 he with hchunk | hend
      · obtain ⟨events, hmem, he⟩ := List.mem_flatten.1 hchunk
        obtain ⟨text, -, rfl⟩ := List.mem_map.1 hmem
        exact Forwarder.shows_of_mem_outputEvents he
      · have hshows := Forwarder.shows_of_mem_finish hend
        rw [Forwarder.forwardAll_eq] at hshows
        exact hshows
    · rw [hout, Forwarder.textOn_forwardAll_finish, hcontent]
    · rw [hpassing, ← hevents]
    · rw [hpassing]
      exact ⟨rfl, rfl⟩
  · rw [hpassing]
    rfl
  · intro before chunk after hsplit
    have hfront : lane.pipe.held = before.flatten ++ (chunk ++ after.flatten) := by
      rw [hheld, hsplit, List.append_nil, List.flatten_append, List.flatten_cons]
    refine Lane.moves_passing_shown rfl hfront fun c hc => hsize c ?_
    rw [hsplit, List.append_cons]
    exact List.mem_append_left after hc
  · intro moves
    have hstart : Lane.Passed f (content source) lane [] [] [] :=
      ⟨List.append_nil _, rfl, rfl, .empty⟩
    obtain ⟨counted, shown, hstream, hevents, hforwarder, hhand⟩ := hstart.moves moves
    rw [List.nil_append] at hevents
    exact ⟨counted, shown, hhand.length_le, hstream, hevents,
      congrArg Forwarder.delivered hforwarder⟩

/-- A character arrives in two reads, another one is cut off where the source fails. -/
example : (Forwarder.run { channel := .stdout } (handedOut [.data [0xC3], .interrupted,
    .data [0xA9, 0x41], .data [0xE2], .failed "gone", .data [0x42]])).1 =
      [.output .stdout "éA", .output .stdout "\uFFFD"] := by decide +kernel

end Redirect
end DebugSession
