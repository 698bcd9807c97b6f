/-
What the counts of the capture say.  Whatever order writers, forwarders and a waiter go on in, the
bytes that a decoder has seen are the first ones of its stream, and the text of these is published
before they count as delivered.  So a waiter that finds no more bytes written than delivered knows
that everything written is published, but for a character that is cut off at the end.
-/
import DebugSession.Proofs.Supervisor.Moves
import DebugSession.Proofs.Text.Decoder
import DebugSession.Redirect.Traffic
import Mathlib.Data.List.Infix

namespace DebugSession
namespace Redirect

open Supervisor (textOn textOn_append textOn_nil textOn_outputEvents textOn_eq_empty outputText?
  eq_output_of_mem_outputEvents)
open Text (Bytes)
open Text.Utf8 (CutOff Decoder lossy)

/-! ## One channel -/

namespace Hand

/-- Bytes that the decoder has not seen yet. -/
def unseen : Hand → Bytes
  | .taken chunk => chunk
  | _ => []

/-- How many bytes are published and not counted yet. -/
def uncounted : Hand → Nat
  | .shown n => n
  | _ => 0

end Hand

namespace Lane

/-- What a move makes of a channel.  The writer brings bytes into the pipe and counts them, and the
forwarder passes a chunk on step by step. -/
inductive Moved (l : Lane) : List Event → Lane → Prop where
  | wrote (l' : Lane) (more : Bytes) (stream : l'.stream = l.stream ++ more)
      (held : l'.pipe.held = l.pipe.held ++ more)
      (written : l'.pipe.written + l.complete.flatten.length =
        l.pipe.written + l'.complete.flatten.length)
      (forwarder : l'.pipe.forwarder = l.pipe.forwarder) (hand : l'.hand = l.hand) : Moved l [] l'
  | took (chunk rest : Bytes) (hand : l.hand = .empty) (held : l.pipe.held = chunk ++ rest)
      (size : 0 < chunk.length ∧ chunk.length ≤ bufferSize) :
      Moved l [] { l with pipe := { l.pipe with held := rest }, hand := .taken chunk }
  | published (chunk : Bytes) (hand : l.hand = .taken chunk) :
      Moved l (l.pipe.forwarder.forward chunk).1 { l with
        pipe := { l.pipe with forwarder := { l.pipe.forwarder with
          decoder := (l.pipe.forwarder.forward chunk).2.decoder } }
        hand := .shown chunk.length }
  | delivered (n : Nat) (hand : l.hand = .shown n) :
      Moved l [] { l with
        pipe := { l.pipe with forwarder := { l.pipe.forwarder with
          delivered := l.pipe.forwarder.delivered + n } }
        hand := .empty }

theorem moved_same (l : Lane) : Moved l [] l :=
  .wrote l [] (List.append_nil _).symm (List.append_nil _).symm rfl rfl rfl

theorem moved (l : Lane) (m : Move) : Moved l (l.move m).1 (l.move m).2 := by
  cases m with
  | begin chunk =>
    rw [move]
    split
    · next hidle =>
      refine .wrote _ [] ?_ (List.append_nil _).symm rfl rfl rfl
      rw [List.append_nil, stream, stream, hidle]
    · exact l.moved_same
  | enter k =>
    rw [move]
    split
    · exact l.moved_same
    · next entered rest hwriting =>
      refine .wrote _ (rest.take k) ?_ rfl rfl rfl rfl
      rw [stream, stream, hwriting]
      exact (List.append_assoc _ _ _).symm
  | count =>
    rw [move]
    split
    · next entered hwriting =>
      have hflatten : (l.complete ++ [entered]).flatten = l.complete.flatten ++ entered := by
        rw [List.flatten_append, List.flatten_singleton]
      refine .wrote _ [] ?_ (List.append_nil _).symm ?_ rfl rfl
      · show (l.complete ++ [entered]).flatten ++ [] = l.stream ++ []
        rw [hflatten, stream, hwriting]
      · show l.pipe.written + entered.length + _ =
          l.pipe.written + (l.complete ++ [entered]).flatten.length
        rw [hflatten, List.length_append]
        omega
    · exact l.moved_same
  | take k =>
    rw [move]
    simp only
    split
    · next htake =>
      obtain ⟨hhand, hchunk⟩ := htake
      refine .took _ _ hhand (List.take_append_drop _ _).symm ⟨List.length_pos_iff.2 hchunk, ?_⟩
      rw [List.length_take]
      omega
    · exact l.moved_same
  | publish =>
    rw [move]
    split
    · next chunk hhand => exact .published chunk hhand
    · exact l.moved_same
  | deliver =>
    rw [move]
    split
    · next n hhand => exact .delivered n hhand
    · exact l.moved_same

/-- The books of a channel that showed a text.  Its stream has gone through the decoder, or is in
the hand of the forwarder, or in the pipe, in this order; the text is that of the first part; and
the counts lag behind by what is in hand. -/
structure Kept (channel : Channel) (l : Lane) (text : String) : Prop where
  channel : l.pipe.forwarder.channel = channel
  split : ∃ through, l.stream = through ++ l.hand.unseen ++ l.pipe.held ∧
    text = String.ofList (Decoder.run {} through).1 ∧
    l.pipe.forwarder.decoder = (Decoder.run {} through).2 ∧
    l.pipe.forwarder.delivered + l.hand.uncounted = through.length
  written : l.pipe.written = l.complete.flatten.length

namespace Kept

variable {channel : Channel} {l : Lane} {text : String}

theorem moved {l' : Lane} {events : List Event} (h : Kept channel l text)
    (hmoved : Moved l events l') : Kept channel l' (text ++ textOn channel events) := by
  obtain ⟨through, hstream, htext, hdecoder, hdelivered⟩ := h.split
  cases hmoved with
  | wrote l' more stream held written forwarder hand =>
    rw [textOn_nil, String.append_empty]
    refine ⟨forwarder ▸ h.channel, ⟨through, ?_, htext, forwarder ▸ hdecoder, ?_⟩, ?_⟩
    · rw [stream, held, hand, hstream, List.append_assoc]
    · rw [forwarder, hand]
      exact hdelivered
    · have hwritten := h.written
      omega
  | took chunk rest hand held size =>
    rw [textOn_nil, String.append_empty]
    rw [hand, held] at hstream
    rw [hand] at hdelivered
    refine ⟨h.channel, ⟨through, ?_, htext, hdecoder, hdelivered⟩, h.written⟩
    show l.stream = through ++ chunk ++ rest
    rw [hstream, show Hand.empty.unseen = [] from rfl, List.append_nil, List.append_assoc]
  | published chunk hand =>
    rw [hand] at hstream hdelivered
    have hrun := Decoder.run_append {} through chunk
    rw [← hdecoder] at hrun
    have hshown : textOn channel (l.pipe.forwarder.forward chunk).1 =
        String.ofList (l.pipe.forwarder.decoder.run chunk).1 := by
      rw [← h.channel]
      exact textOn_outputEvents _ _
    rw [hshown]
    refine ⟨h.channel, ⟨through ++ chunk, ?_, ?_, ?_, ?_⟩, h.written⟩
    · exact hstream.trans (congrArg (· ++ l.pipe.held) (List.append_nil _).symm)
    · rw [hrun, htext]
      exact String.ofList_append.symm
    · rw [hrun]
      rfl
    · rw [List.length_append, ← hdelivered]
      rfl
  | delivered n hand =>
    rw [textOn_nil, String.append_empty]
    rw [hand] at hstream hdelivered
    exact ⟨h.channel, ⟨through, hstream, htext, hdecoder, hdelivered⟩, h.written⟩

theorem textOn_moved_ne {l' : Lane} {events : List Event} (h : Kept channel l text)
    (hmoved : Moved l events l') {other : Channel} (hne : other ≠ channel) :
    textOn other events = "" := by
  cases hmoved with
  | published chunk hand =>
    apply textOn_eq_empty
    intro e he
    obtain ⟨shown, rfl⟩ := eq_output_of_mem_outputEvents he
    rw [h.channel]
    exact if_neg (Ne.symm hne)
  | _ => rfl

/-- A writer that finds no more bytes written than delivered knows that the complete writes have
gone through the decoder. -/
theorem complete_of_isDelivered (h : Kept channel l text) (hdelivered : l.pipe.isDelivered = true) :
    ∃ through, l.complete.flatten <+: through ∧ through <+: l.stream ∧
      text = String.ofList (Decoder.run {} through).1 ∧
      l.pipe.forwarder.decoder = (Decoder.run {} through).2 := by
  obtain ⟨through, hstream, htext, hdecoder, hcount⟩ := h.split
  rw [Pipe.isDelivered, decide_eq_true_eq, h.written] at hdelivered
  have hthrough : through <+: l.stream := by
    rw [hstream, List.append_assoc]
    exact List.prefix_append _ _
  -- Both are beginnings of the stream, and the counts say which one is longer.
  exact ⟨through, List.prefix_of_prefix_length_le (List.prefix_append _ _) hthrough (by omega),
    hthrough, htext, hdecoder⟩

/-- Once the forwarder has nothing to do, all that is written is delivered. -/
theorem isDelivered_of_clear (h : Kept channel l text) (hclear : l.Clear) :
    l.pipe.isDelivered = true := by
  obtain ⟨hheld, hhand⟩ := hclear
  obtain ⟨through, hstream, -, -, hcount⟩ := h.split
  have hlength := congrArg List.length hstream
  rw [hheld, hhand, stream, List.append_nil, List.length_append, List.length_append] at hlength
  rw [hhand] at hcount
  simp only [Hand.unseen, Hand.uncounted, List.length_nil] at hlength hcount
  rw [Pipe.isDelivered, decide_eq_true_eq, h.written]
  omega

end Kept

theorem complete_move (l : Lane) (m : Move) : l.complete <+: (l.move m).2.complete := by
  cases m with
  | count =>
    rw [Lane.move]
    split
    · exact List.prefix_append _ _
    · exact List.prefix_rfl
  | take k =>
    rw [Lane.move]
    simp only
    split <;> exact List.prefix_rfl
  | _ =>
    rw [Lane.move]
    split <;> exact List.prefix_rfl

end Lane

/-! ## Both channels -/

namespace Traffic

theorem lane_setLane (t : Traffic) (l : Lane) (channel : Channel) :
    (t.setLane l channel).lane channel = l := by
  cases channel <;> rfl

theorem lane_setLane_ne (t : Traffic) (l : Lane) {channel other : Channel} (h : other ≠ channel) :
    (t.setLane l channel).lane other = t.lane other := by
  cases channel <;> cases other <;> first | rfl | exact absurd rfl h

theorem run_append (t : Traffic) (a b : List (Channel × Move)) :
    t.run (a ++ b) = ((t.run a).1 ++ ((t.run a).2.run b).1, ((t.run a).2.run b).2) := by
  induction a generalizing t with
  | nil => rfl
  | cons m a ih =>
    obtain ⟨channel, m⟩ := m
    simp only [List.cons_append, run, ih, List.append_assoc]

def Kept (t : Traffic) (shown : List Event) : Prop :=
  ∀ channel, (t.lane channel).Kept channel (textOn channel shown)

theorem kept_start : Kept {} [] := by
  intro channel
  cases channel <;> exact ⟨rfl, ⟨[], rfl, rfl, rfl, rfl⟩, rfl⟩

variable {t : Traffic} {shown : List Event}

theorem Kept.run (h : t.Kept shown) (moves : List (Channel × Move)) :
    (t.run moves).2.Kept (shown ++ (t.run moves).1) := by
  induction moves generalizing t shown with
  | nil =>
    rw [Traffic.run, List.append_nil]
    exact h
  | cons m moves ih =>
    obtain ⟨channel, m⟩ := m
    have hmove : (t.setLane ((t.lane channel).move m).2 channel).Kept
        (shown ++ ((t.lane channel).move m).1) := by
      intro other
      rw [textOn_append]
      by_cases ho : other = channel
      · subst ho
        rw [lane_setLane]
        exact (h other).moved ((t.lane other).moved m)
      · have hquiet := (h channel).textOn_moved_ne ((t.lane channel).moved m) ho
        rw [lane_setLane_ne _ _ ho, hquiet, String.append_empty]
        exact h other
    have hlater := ih hmove
    rw [List.append_assoc] at hlater
    exact hlater

theorem complete_run (t : Traffic) (moves : List (Channel × Move)) (channel : Channel) :
    (t.lane channel).complete <+: ((t.run moves).2.lane channel).complete := by
  induction moves generalizing t with
  | nil => exact List.prefix_rfl
  | cons m moves ih =>
    obtain ⟨other, m⟩ := m
    refine List.IsPrefix.trans ?_ (ih (t.setLane ((t.lane other).move m).2 other))
    by_cases ho : channel = other
    · subst ho
      rw [lane_setLane]
      exact (t.lane channel).complete_move m
    · exact lane_setLane_ne _ _ ho ▸ List.prefix_rfl

theorem isDelivered_iff : t.capture.isDelivered = true ↔
    ∀ channel, (t.lane channel).pipe.isDelivered = true := by
  rw [Capture.isDelivered, Bool.and_eq_true]
  constructor
  · rintro ⟨hout, herr⟩ channel
    cases channel with
    | stdout => exact hout
    | stderr => exact herr
  · exact fun h => ⟨h .stdout, h .stderr⟩

/-- A waiter that answers yes saw the counts agree at its last look. -/
theorem exists_isDelivered_of_wait {rounds : List (List (Channel × Move) × Bool)}
    (h : t.wait rounds = some true) :
    ∃ during, during <+: rounds.flatMap Prod.fst ∧ (t.run during).2.capture.isDelivered = true := by
  induction rounds generalizing t with
  | nil => exact nomatch h
  | cons round rounds ih =>
    obtain ⟨moves, expired⟩ := round
    rw [wait] at h
    simp only [look] at h
    by_cases hdelivered : (t.run moves).2.capture.isDelivered = true
    · exact ⟨moves, List.prefix_append _ _, hdelivered⟩
    · rw [if_neg hdelivered] at h
      cases expired with
      | true => exact nomatch h
      | false =>
        obtain ⟨during, hduring, hlater⟩ := ih (t := (t.run moves).2) h
        refine ⟨moves ++ during, ?_, ?_⟩
        · exact (List.prefix_append_right_inj moves).2 hduring
        · rw [run_append]
          exact hlater

/-- A waiter whose time is not up before the counts agree answers yes. -/
theorem wait_of_isDelivered {rounds : List (List (Channel × Move) × Bool)}
    (htime : ∀ round ∈ rounds, round.2 = false) {moves : List (Channel × Move)} (expired : Bool)
    (h : (t.run (rounds.flatMap Prod.fst ++ moves)).2.capture.isDelivered = true) :
    t.wait (rounds ++ [(moves, expired)]) = some true := by
  induction rounds generalizing t with
  | nil =>
    rw [List.nil_append, wait]
    simp only [look, show (t.run moves).2.capture.isDelivered = true from h, if_true]
  | cons round rounds ih =>
    obtain ⟨first, time⟩ := round
    obtain rfl : time = false := htime _ List.mem_cons_self
    rw [List.flatMap_cons, List.append_assoc, run_append] at h
    have hlater := ih (fun round hmem => htime round (List.mem_cons_of_mem _ hmem)) h
    rw [List.cons_append, wait]
    simp only [look]
    by_cases hdelivered : (t.run first).2.capture.isDelivered = true
    · rw [if_pos hdelivered]
    · rw [if_neg hdelivered]
      exact hlater

/-- The waiter of a capture, called after any moves of writers and forwarders while any moves go on.

If it answers yes, the bytes of all writes that were complete when it was called are among those
that have gone through the decoder of their channel, and these are the first of its stream; their
text is published but for a character that is cut off at the end.

If the forwarders have nothing to do when it looks, and its time was not up at an earlier look, it
answers yes. -/
theorem wait_accounts (before : List (Channel × Move))
    (rounds : List (List (Channel × Move) × Bool)) :
    let called := (run {} before).2
    (called.wait rounds = some true → ∃ during, during <+: rounds.flatMap Prod.fst ∧
      let now := (run {} (before ++ during)).2
      ∀ channel, ∃ done cut,
        (called.lane channel).complete.flatten <+: done ++ cut ∧
        done ++ cut <+: (now.lane channel).stream ∧
        (now.lane channel).pipe.forwarder.decoder = (Decoder.run {} (done ++ cut)).2 ∧
        (now.lane channel).pipe.forwarder.decoder.pending = cut ∧
        textOn channel (run {} (before ++ during)).1 = lossy done ∧
        (cut = [] ∨ CutOff cut)) ∧
    ((∀ round ∈ rounds, round.2 = false) → ∀ moves expired,
      (∀ channel, ((called.run (rounds.flatMap Prod.fst ++ moves)).2.lane channel).Clear) →
        called.wait (rounds ++ [(moves, expired)]) = some true) := by
  intro called
  have hcalled : called.Kept (run {} before).1 := by
    have hkept := kept_start.run before
    rw [List.nil_append] at hkept
    exact hkept
  refine ⟨fun hwait => ?_, fun htime moves expired hclear => ?_⟩
  · obtain ⟨during, hduring, hdelivered⟩ := exists_isDelivered_of_wait hwait
    refine ⟨during, hduring, ?_⟩
    rw [run_append]
    intro now channel
    obtain ⟨through, hcomplete, hstream, htext, hdecoder⟩ :=
      (hcalled.run during channel).complete_of_isDelivered (isDelivered_iff.1 hdelivered channel)
    have hreads := Decoder.reads_run (.inl rfl) through
    obtain ⟨done, hdone, hsettled, -⟩ := hreads.settled
    rw [List.nil_append] at hdone
    rw [hdone] at hcomplete hstream
    have hbefore := List.IsPrefix.flatten (called.complete_run during channel)
    refine ⟨done, _, hbefore.trans hcomplete, hstream, ?_, ?_, htext.trans ?_, ?_⟩
    · rw [← hdone]
      exact hdecoder
    · exact congrArg Decoder.pending hdecoder
    · rw [hsettled, Text.Utf8.lossy_eq_ofList_shown]
    · rcases hreads.held with hnone | hbegins
      · exact .inl hnone
      · exact .inr (Text.Utf8.cutOff_of_begins hbegins)
  · exact wait_of_isDelivered htime expired (isDelivered_iff.2 fun channel =>
      (hcalled.run _ channel).isDelivered_of_clear (hclear channel))

/-- A byte that begins a character counts as delivered before its write counts as written, while a
line is on its way on the other channel.  The waiter looks twice. -/
def ahead : List (Channel × Move) :=
  [(.stdout, .begin [0xC3]), (.stdout, .enter 1), (.stdout, .take 1), (.stdout, .publish),
    (.stdout, .deliver), (.stderr, .begin [0x41, 0x0A]), (.stderr, .enter 2), (.stderr, .count),
    (.stdout, .count)]

theorem wait_accounts_ahead :
    let rounds :=
      [([(.stderr, .take 2), (.stderr, .publish)], false), ([(.stderr, .deliver)], true)]
    (run {} ahead).2.wait rounds = some true ∧
      ∃ during, during <+: rounds.flatMap Prod.fst ∧ ∃ done cut,
        [0x41, 0x0A] <+: done ++ cut ∧
          textOn .stderr (run {} (ahead ++ during)).1 = lossy done ∧ (cut = [] ∨ CutOff cut) := by
  intro rounds
  have hwait : (run {} ahead).2.wait rounds = some true := by decide +kernel
  obtain ⟨during, hduring, hnow⟩ := (wait_accounts ahead rounds).1 hwait
  obtain ⟨done, cut, hcomplete, -, -, -, htext, hcut⟩ := hnow .stderr
  exact ⟨hwait, during, hduring, done, cut, hcomplete, htext, hcut⟩

end Traffic

end Redirect
end DebugSession
