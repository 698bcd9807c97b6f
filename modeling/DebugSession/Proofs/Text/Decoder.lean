/-
Decoding in chunks.  The text that a decoder gives for the chunks of a stream, one after the other,
does not depend on where the stream is cut: with what the end of the stream adds it is the lenient
text of the whole stream (`join_decodeAll_finish`).  On the way the decoder holds back nothing but
the beginning of a character.

The decoder takes one byte after the other.  What it makes of a chunk is what passes of the strict
reader make of it (`decode_eq_pass`).

`Reads p bs t q` says what the decoder makes of `bs` when it holds `p`: it gives `t` and holds `q`.
A single byte is a case analysis over `completes` and `begins`; everything longer is a chain of
such reads.
-/
import DebugSession.Proofs.Text.Utf8
import DebugSession.Text.Utf8.Decoder

namespace DebugSession
namespace Text
namespace Utf8

/-- A character cut off: one to three bytes with which its encoding starts and does not end. -/
def CutOff (p : Bytes) : Prop :=
  (1 ≤ p.length ∧ p.length ≤ 3) ∧
    ∃ (c : Char) (rest : Bytes), rest ≠ [] ∧ String.utf8EncodeChar c = p ++ rest

theorem cutOff_of_begins {p : Bytes} (h : begins p = true) : CutOff p :=
  ⟨length_of_begins h, (begins_iff.1 h).2⟩

namespace Decoder

/-! ## One byte -/

theorem start_of_completes {b : UInt8} {c : Char} (h : completes [b] = some c) :
    start b = ([c], ⟨[]⟩) := by
  obtain ⟨ha, rfl⟩ := completes_one.1 h
  rw [start, if_pos ha]

theorem start_of_begins {b : UInt8} (h : begins [b] = true) : start b = ([], ⟨[b]⟩) := by
  have hn : isAscii b = false := by simpa [completes] using completes_eq_none_of_begins h
  rw [start, if_neg (by simp [hn]), if_pos (by simpa [begins] using h)]

theorem start_of_stray {b : UInt8} (hc : completes [b] = none) (hb : begins [b] = false) :
    start b = ([replacement], ⟨[]⟩) := by
  have hn : isAscii b = false := by simpa [completes] using hc
  rw [start, if_neg (by simp [hn]), if_neg (by simpa [begins] using hb)]

/-- A byte that completes the held ones gives their character. -/
theorem push_of_completes {p : Bytes} {b : UInt8} {c : Char} (hp : begins p = true)
    (h : completes (p ++ [b]) = some c) : push ⟨p⟩ b = ([c], ⟨[]⟩) := by
  match p with
  | [a] =>
    obtain ⟨⟨ha, hb⟩, rfl⟩ := completes_two.1 h
    simp [push, ha, hb]
  | [a, a'] =>
    obtain ⟨⟨⟨ha, _⟩, hb⟩, rfl⟩ := completes_three.1 h
    simp [push, ha, hb]
  | [a, a', a''] =>
    obtain ⟨⟨_, hb⟩, rfl⟩ := completes_four.1 h
    simp [push, hb]
  | [] => simp [begins] at hp
  | _ :: _ :: _ :: _ :: _ => simp [begins] at hp

/-- A byte that goes on with the held ones is held too. -/
theorem push_of_begins {p : Bytes} {b : UInt8} (hp : begins p = true)
    (h : begins (p ++ [b]) = true) : push ⟨p⟩ b = ([], ⟨p ++ [b]⟩) := by
  match p with
  | [a] =>
    rcases begins_two.1 h with ⟨ha, hb⟩ | ⟨ha, hb⟩
    · simp [push, not_of_isLead3 ha, ha, hb]
    · simp [push, not_of_isLead4 ha, ha, hb]
  | [a, a'] =>
    obtain ⟨⟨ha, _⟩, hb⟩ := begins_three.1 h
    simp [push, not_of_isLead4 ha, hb]
  | [] => simp [begins] at hp
  | _ :: _ :: _ :: _ => simp [begins] at h

/-- A byte that does not belong to the held ones makes a replacement of them. -/
theorem push_of_broken {p : Bytes} {b : UInt8} (hp : begins p = true)
    (hc : completes (p ++ [b]) = none) (hb : begins (p ++ [b]) = false) :
    push ⟨p⟩ b = restart b := by
  match p with
  | [a] =>
    simp only [List.cons_append, List.nil_append, completes, begins] at hc hb
    have hn : (isLead2 a && isContinuation b) = false := by simpa using hc
    simp [push, hn, hb]
  | [a, a'] =>
    simp only [List.cons_append, List.nil_append, completes, begins] at hc hb
    rcases begins_two.1 hp with ⟨ha, ha'⟩ | ⟨ha, ha'⟩
    · have hn : isContinuation b = false := by simpa [ha, ha'] using hc
      simp [push, hn]
    · have hn : isContinuation b = false := by simpa [ha, ha'] using hb
      simp [push, hn]
  | [a, a', a''] =>
    simp only [List.cons_append, List.nil_append, completes] at hc
    obtain ⟨⟨ha, ha'⟩, ha''⟩ := begins_three.1 hp
    have hn : isContinuation b = false := by simpa [ha, ha', ha''] using hc
    simp [push, hn]
  | [] => simp [begins] at hp
  | _ :: _ :: _ :: _ :: _ => simp [begins] at hp

/-! ## Reads -/

/-- Bytes that a decoder may hold back. -/
def Held (p : Bytes) : Prop := p = [] ∨ begins p = true

/-- Holding `p`, the decoder makes the text `t` of `bs` and holds `q` then. -/
structure Reads (p bs : Bytes) (t : List Char) (q : Bytes) : Prop where
  held : Held q
  /-- What comes later is read as if it followed `q`. -/
  later : ∀ rest, shown (p ++ bs ++ rest) = t ++ shown (q ++ rest)
  /-- The text is that of the bytes before `q`; those are none, or all that was held is among
  them. -/
  settled : ∃ s, p ++ bs = s ++ q ∧ t = shown s ∧ (s = [] ∨ ∃ more, s = p ++ more)

theorem Reads.refl {p : Bytes} (h : Held p) : Reads p [] [] p where
  held := h
  later rest := by rw [List.append_nil, List.nil_append]
  settled := ⟨[], List.append_nil p, shown_nil.symm, .inl rfl⟩

theorem Reads.trans {p a q b r : Bytes} {t u : List Char} (h₁ : Reads p a t q)
    (h₂ : Reads q b u r) : Reads p (a ++ b) (t ++ u) r where
  held := h₂.held
  later rest := by
    have e₁ := h₁.later (b ++ rest)
    have e₂ := h₂.later rest
    rw [List.append_assoc] at e₂
    rw [← List.append_assoc p a b, List.append_assoc (p ++ a) b rest, e₁, e₂, List.append_assoc]
  settled := by
    obtain ⟨s, hs, ht, hps⟩ := h₁.settled
    obtain ⟨s', hs', hu, hqs⟩ := h₂.settled
    have hsplit : p ++ (a ++ b) = s ++ s' ++ r := by
      rw [← List.append_assoc, hs, List.append_assoc, hs', List.append_assoc]
    refine ⟨s ++ s', hsplit, ?_, ?_⟩
    · rcases hqs with rfl | ⟨more, rfl⟩
      · rw [hu, shown_nil, List.append_nil, List.append_nil, ht]
      · -- the text of `q` and what follows it is the same behind the bytes before `q`
        rw [hu, ← h₁.later more, hs, List.append_assoc]
    · rcases hqs with rfl | ⟨more, rfl⟩
      · rw [List.append_nil]
        exact hps
      · exact .inr ⟨a ++ more, by rw [← List.append_assoc, ← hs, List.append_assoc]⟩

theorem reads_start (b : UInt8) : Reads [] [b] (start b).1 (start b).2.pending := by
  cases hc : completes [b] with
  | some c =>
    rw [start_of_completes hc]
    have h := shown_of_completes hc []
    rw [shown_nil, List.append_nil] at h
    exact ⟨.inl rfl, shown_of_completes hc, [b], rfl, h.symm, .inr ⟨[b], rfl⟩⟩
  | none =>
    cases hb : begins [b] with
    | true =>
      rw [start_of_begins hb]
      exact ⟨.inr hb, fun _ => rfl, [], rfl, shown_nil.symm, .inl rfl⟩
    | false =>
      rw [start_of_stray hc hb]
      have h := shown_of_stray hc hb []
      rw [shown_nil] at h
      exact ⟨.inl rfl, shown_of_stray hc hb, [b], rfl, h.symm, .inr ⟨[b], rfl⟩⟩

theorem reads_push {p : Bytes} (hp : begins p = true) (b : UInt8) :
    Reads p [b] (push ⟨p⟩ b).1 (push ⟨p⟩ b).2.pending := by
  cases hc : completes (p ++ [b]) with
  | some c =>
    rw [push_of_completes hp hc]
    have h := shown_of_completes hc []
    rw [shown_nil, List.append_nil] at h
    exact ⟨.inl rfl, shown_of_completes hc, p ++ [b], (List.append_nil _).symm, h.symm,
      .inr ⟨[b], rfl⟩⟩
  | none =>
    cases hb : begins (p ++ [b]) with
    | true =>
      rw [push_of_begins hp hb]
      exact ⟨.inr hb, fun _ => rfl, [], rfl, shown_nil.symm, .inl rfl⟩
    | false =>
      rw [push_of_broken hp hc hb]
      have h := reads_start b
      obtain ⟨s, hs, ht, -⟩ := h.settled
      refine ⟨h.held, fun rest => ?_, p ++ s, ?_, ?_, .inr ⟨s, rfl⟩⟩
      · rw [List.append_assoc]
        exact (shown_of_broken hp hc hb rest).trans (congrArg _ (h.later rest))
      · rw [List.append_assoc]
        exact congrArg _ hs
      · cases s with
        | nil =>
          rw [List.append_nil, shown_of_begins hp]
          exact congrArg _ (ht.trans shown_nil)
        | cons x s =>
          obtain ⟨rfl, htail⟩ := List.cons.inj hs
          obtain ⟨rfl, -⟩ := List.append_eq_nil_iff.1 htail.symm
          exact (congrArg _ ht).trans (shown_of_broken hp hc hb []).symm

/-! ## Streams -/

theorem reads_run {p : Bytes} (hp : Held p) (bs : Bytes) :
    Reads p bs (run ⟨p⟩ bs).1 (run ⟨p⟩ bs).2.pending := by
  induction bs generalizing p with
  | nil => exact .refl hp
  | cons b bs ih =>
    have hb : Reads p [b] (push ⟨p⟩ b).1 (push ⟨p⟩ b).2.pending := by
      rcases hp with rfl | hp
      · exact reads_start b
      · exact reads_push hp b
    exact hb.trans (ih hb.held)

/-- The texts of chunks that are decoded one after the other, and the decoder after them. -/
def decodeAll (d : Decoder) : List Bytes → List String × Decoder
  | [] => ([], d)
  | chunk :: chunks =>
    let (text, d) := d.decode chunk
    let (texts, d) := d.decodeAll chunks
    (text :: texts, d)

theorem reads_decodeAll {p : Bytes} (hp : Held p) (chunks : List Bytes) :
    ∃ t, String.join (decodeAll ⟨p⟩ chunks).1 = String.ofList t ∧
      Reads p chunks.flatten t (decodeAll ⟨p⟩ chunks).2.pending := by
  induction chunks generalizing p with
  | nil => exact ⟨[], rfl, .refl hp⟩
  | cons chunk chunks ih =>
    have hrun := reads_run hp chunk
    obtain ⟨t, ht, hreads⟩ := ih hrun.held
    refine ⟨(run ⟨p⟩ chunk).1 ++ t, ?_, hrun.trans hreads⟩
    rw [String.ofList_append, ← ht]
    exact String.join_cons

theorem finish_of_held {p : Bytes} (hp : Held p) :
    String.join (finish ⟨p⟩).1.toList = String.ofList (shown p) ∧
      (finish ⟨p⟩).2.pending = [] := by
  rcases hp with rfl | hp
  · rw [shown_nil]
    exact ⟨rfl, rfl⟩
  · have hne : p.isEmpty = false := by
      cases p with
      | nil => simp [begins] at hp
      | cons _ _ => rfl
    rw [shown_of_begins hp, finish, hne]
    refine ⟨?_, rfl⟩
    rw [if_neg Bool.false_ne_true, String.singleton_eq_ofList]
    exact String.join_cons.trans (by simp)

/-- The texts of all chunks and of the end are together the lenient text of the stream, wherever it
is cut.  After any number of chunks the texts so far are the lenient text of the bytes so far but
for the bytes held back, and these are none or a character cut off. -/
theorem join_decodeAll_finish (chunks : List Bytes) :
    String.join ((decodeAll {} chunks).1 ++ (decodeAll {} chunks).2.finish.1.toList) =
        lossy chunks.flatten ∧
      (decodeAll {} chunks).2.finish.2.pending = [] ∧
      ∀ n, let (texts, d) := decodeAll {} (chunks.take n)
        (d.pending = [] ∨ CutOff d.pending) ∧
          ∃ done, (chunks.take n).flatten = done ++ d.pending ∧ String.join texts = lossy done := by
  have hnil : Held [] := .inl rfl
  obtain ⟨t, ht, hreads⟩ := reads_decodeAll hnil chunks
  obtain ⟨hfinish, hempty⟩ := finish_of_held hreads.held
  refine ⟨?_, hempty, fun n => ?_⟩
  · have hall := hreads.later []
    rw [List.append_nil, List.append_nil, List.nil_append] at hall
    rw [String.join_append, ht, hfinish, ← String.ofList_append, lossy_eq_ofList_shown, hall]
  · obtain ⟨t, ht, hreads⟩ := reads_decodeAll hnil (chunks.take n)
    obtain ⟨done, hdone, htext, -⟩ := hreads.settled
    refine ⟨?_, done, hdone, ht.trans (congrArg _ htext)⟩
    rcases hreads.held with hp | hp
    · exact .inl hp
    · exact .inr (cutOff_of_begins hp)

/-! ## Passes of the strict reader -/

theorem run_cons_of_push {d e : Decoder} {b : UInt8} {cs : List Char} (h : d.push b = (cs, e))
    (rest : Bytes) : d.run (b :: rest) = (cs ++ (e.run rest).1, (e.run rest).2) := by
  rw [run, h]

theorem run_of_begins_append {p q : Bytes} (hp : begins p = true) (h : begins (p ++ q) = true) :
    run ⟨p⟩ q = ([], ⟨p ++ q⟩) := by
  induction q generalizing p with
  | nil =>
    rw [List.append_nil]
    rfl
  | cons b q ih =>
    rw [List.append_cons] at h
    have hb : begins (p ++ [b]) = true := begins_of_begins_append (by simp) h
    rw [run_cons_of_push (push_of_begins hp hb), ih hb h, List.append_cons p b q]
    rfl

/-- The beginning of a character is held back. -/
theorem run_of_begins {p : Bytes} (h : begins p = true) : run ⟨[]⟩ p = ([], ⟨p⟩) := by
  cases p with
  | nil => exact absurd h (by simp [begins])
  | cons b q =>
    have hb : begins [b] = true := begins_of_begins_append (List.cons_ne_nil b []) h
    have hpush : push ⟨[]⟩ b = ([], ⟨[b]⟩) := start_of_begins hb
    rw [run_cons_of_push hpush, run_of_begins_append hb h]
    rfl

theorem run_held {p : Bytes} (hp : Held p) (bytes : Bytes) :
    run ⟨[]⟩ (p ++ bytes) = run ⟨p⟩ bytes := by
  rcases hp with rfl | hp
  · rfl
  · rw [run_append, run_of_begins hp]
    rfl

theorem run_of_completes {p : Bytes} {c : Char} (h : completes p = some c) (rest : Bytes) :
    run ⟨[]⟩ (p ++ rest) = (c :: (run ⟨[]⟩ rest).1, (run ⟨[]⟩ rest).2) := by
  rcases List.eq_nil_or_concat p with rfl | ⟨q, b, hq⟩
  · exact absurd h (by simp [completes])
  · rw [List.concat_eq_append] at hq
    rw [hq] at h ⊢
    rw [List.append_assoc]
    cases q with
    | nil => exact run_cons_of_push (show push ⟨[]⟩ b = _ from start_of_completes h) rest
    | cons a q =>
      have hbegins : begins (a :: q) = true :=
        begins_of_completes_append (List.cons_ne_nil a q) (List.cons_ne_nil b []) h
      rw [run_held (.inr hbegins)]
      exact run_cons_of_push (push_of_completes hbegins h) rest

theorem run_of_broken {p : Bytes} {b : UInt8} (h : begins p = true)
    (hc : completes (p ++ [b]) = none) (hb : begins (p ++ [b]) = false) (rest : Bytes) :
    run ⟨[]⟩ (p ++ b :: rest) =
      (replacement :: (run ⟨[]⟩ (b :: rest)).1, (run ⟨[]⟩ (b :: rest)).2) := by
  have hfresh : push ⟨[]⟩ b = ((start b).1, (start b).2) := rfl
  have hpush : push ⟨p⟩ b = (replacement :: (start b).1, (start b).2) := push_of_broken h hc hb
  rw [run_held (.inr h), run_cons_of_push hpush, run_cons_of_push hfresh]
  rfl

theorem run_of_stray {b : UInt8} (hc : completes [b] = none) (hb : begins [b] = false)
    (rest : Bytes) :
    run ⟨[]⟩ (b :: rest) = (replacement :: (run ⟨[]⟩ rest).1, (run ⟨[]⟩ rest).2) :=
  run_cons_of_push (show push ⟨[]⟩ b = _ from start_of_stray hc hb) rest

theorem run_flatMap_utf8EncodeChar (cs : List Char) (rest : Bytes) :
    run ⟨[]⟩ (cs.flatMap String.utf8EncodeChar ++ rest) =
      (cs ++ (run ⟨[]⟩ rest).1, (run ⟨[]⟩ rest).2) := by
  induction cs with
  | nil => rfl
  | cons c cs ih =>
    rw [List.flatMap_cons, List.append_assoc, run_of_completes (completes_utf8EncodeChar c), ih]
    rfl

/-- Bytes that are no character and after which reading starts afresh. -/
structure Broken (p rest : Bytes) : Prop where
  segments_eq : segments (p ++ rest) = .broken p.length :: segments rest
  run_eq : run ⟨[]⟩ (p ++ rest) = (replacement :: (run ⟨[]⟩ rest).1, (run ⟨[]⟩ rest).2)

/-- Bytes are characters up to their end, up to a fault, or up to a beginning at their end. -/
theorem exists_chars (bytes : Bytes) :
    ∃ (cs : List Char) (tail : Bytes), bytes = cs.flatMap String.utf8EncodeChar ++ tail ∧
      (tail = [] ∨ begins tail = true ∨ ∃ p rest, tail = p ++ rest ∧ Broken p rest) := by
  induction hn : bytes.length using Nat.strongRecOn generalizing bytes with
  | ind n ih =>
    cases bytes with
    | nil => exact ⟨[], [], rfl, .inl rfl⟩
    | cons b rest =>
      have hfront := front b rest
      generalize b :: rest = bytes at hn hfront
      cases hfront with
      | @char p c h rest =>
        have hc := utf8EncodeChar_of_completes h
        have hlen : rest.length < n := by
          have hpos := String.length_utf8EncodeChar c ▸ c.utf8Size_pos
          rw [hc] at hpos
          rw [← hn, List.length_append]
          omega
        obtain ⟨cs, tail, htext, htail⟩ := ih rest.length hlen rest rfl
        refine ⟨c :: cs, tail, ?_, htail⟩
        rw [List.flatMap_cons, List.append_assoc, ← htext, hc]
      | @broken p b h hc hb rest =>
        exact ⟨[], _, rfl, .inr (.inr ⟨p, b :: rest, rfl, segments_of_broken h hc hb rest,
          run_of_broken h hc hb rest⟩)⟩
      | @stray b hc hb rest =>
        exact ⟨[], _, rfl, .inr (.inr ⟨[b], rest, rfl, segments_of_stray hc hb rest,
          run_of_stray hc hb rest⟩)⟩
      | cut h => exact ⟨[], _, rfl, .inr (.inl h)⟩

/-- A chunk is decoded in passes of the strict reader over what is held and the chunk.  A pass gives
the text before the first fault; a fault within the bytes becomes one replacement, and the next pass
starts behind it; what the end of the bytes cuts off is held back. -/
theorem decode_eq_pass {p : Bytes} (hp : Held p) (chunk : Bytes) :
    decode ⟨p⟩ chunk =
      match Utf8.decode (p ++ chunk) with
      | .ok text => (text, ⟨[]⟩)
      | .error ⟨n, none⟩ => (lossy ((p ++ chunk).take n), ⟨(p ++ chunk).drop n⟩)
      | .error ⟨n, some k⟩ =>
        let (text, d) := decode ⟨[]⟩ ((p ++ chunk).drop (n + k))
        (lossy ((p ++ chunk).take n) ++ String.singleton replacement ++ text, d) := by
  rw [decode, ← run_held hp, Utf8.decode]
  obtain ⟨cs, tail, htext, htail⟩ := exists_chars (p ++ chunk)
  rw [htext, run_flatMap_utf8EncodeChar, segments_flatMap_utf8EncodeChar, chars_map_char_append,
    Nat.zero_add]
  have hlossy : lossy (cs.flatMap String.utf8EncodeChar) = String.ofList cs := by
    have hshown := shown_flatMap_utf8EncodeChar cs []
    rw [List.append_nil, shown_nil, List.append_nil] at hshown
    rw [lossy_eq_ofList_shown, hshown]
  rcases htail with rfl | hcut | ⟨q, rest, rfl, hbroken⟩
  · show (String.ofList (cs ++ []), _) = (String.ofList (cs ++ []), _)
    rfl
  · rw [segments_of_begins hcut, run_of_begins hcut]
    show (String.ofList (cs ++ []), Decoder.mk tail) =
      (lossy ((cs.flatMap String.utf8EncodeChar ++ tail).take _),
        Decoder.mk ((cs.flatMap String.utf8EncodeChar ++ tail).drop _))
    rw [List.take_left, List.drop_left, hlossy, List.append_nil]
  · rw [hbroken.segments_eq, hbroken.run_eq]
    show (String.ofList (cs ++ replacement :: (run ⟨[]⟩ rest).1), (run ⟨[]⟩ rest).2) =
      (lossy ((cs.flatMap String.utf8EncodeChar ++ (q ++ rest)).take _) ++
          String.singleton replacement ++ (decode ⟨[]⟩ (List.drop (_ + q.length) _)).1,
        (decode ⟨[]⟩ (List.drop (_ + q.length) _)).2)
    rw [List.take_left, ← List.drop_drop, List.drop_left, List.drop_left, hlossy,
      String.singleton_eq_ofList, ← String.ofList_append]
    show _ = (String.ofList (cs ++ [replacement]) ++ String.ofList (run ⟨[]⟩ rest).1, _)
    rw [← String.ofList_append, List.append_assoc]
    rfl

end Decoder

/-- The strict reader accepts the bytes of a text, and nothing else. -/
theorem decode_eq_ok_iff {bytes : Bytes} {text : String} :
    decode bytes = .ok text ↔ encode text = bytes := by
  constructor
  · intro h
    obtain ⟨cs, tail, rfl, htail⟩ := Decoder.exists_chars bytes
    rw [decode, segments_flatMap_utf8EncodeChar, chars_map_char_append] at h
    rcases htail with rfl | hcut | ⟨p, rest, rfl, hbroken⟩
    · rw [segments] at h
      obtain rfl : String.ofList (cs ++ []) = text := Except.ok.inj h
      rw [encode_ofList, List.append_nil, List.append_nil]
    · rw [segments_of_begins hcut] at h
      cases h
    · rw [hbroken.segments_eq] at h
      cases h
  · rintro rfl
    exact decode_encode text

end Utf8
end Text
end DebugSession
