/-
Output of a redirected program and the announcement of its end.  Whatever order the steps come in,
what the program wrote has gone through the decoder of the capture before its end is announced.  The
decoder outlives the program: a character that is cut off at the end of its output is held back, and
stands at the front of what the next program writes, or is published when the engine gives up the
capture.
-/
import DebugSession.Proofs.Supervisor.Rest
import DebugSession.Proofs.Text.Decoder

namespace DebugSession
namespace Supervisor

open Redirect (Capture Pipe Read)
open Text (Bytes)
open Text.Utf8 (Decoder lossy)

variable {ω : Type}

namespace Reader

/-- The bytes of the reader's chunk that are not in the pipe yet. -/
def unstored (r : Reader) : Bytes :=
  match r.phase with
  | .writing rest _ => rest
  | _ => []

/-- The size of the reader's chunk while it is not counted yet. -/
def uncounted (r : Reader) : Nat :=
  match r.phase with
  | .writing _ size => size
  | _ => 0

theorem unstored_of_ne {r : Reader} (h : ∀ rest size, r.phase ≠ .writing rest size) :
    r.unstored = [] ∧ r.uncounted = 0 := by
  rw [unstored, uncounted]
  cases hphase : r.phase with
  | reading => exact ⟨rfl, rfl⟩
  | writing rest size => exact absurd hphase (h rest size)
  | done => exact ⟨rfl, rfl⟩

end Reader

/-! ## The books of a channel -/

/-- The books of a channel since its pipe was `start`.  The bytes taken from the program are
forwarded, in the pipe or with the reader, in this order; the text is that of the forwarded ones;
and the counts of written and delivered bytes follow. -/
structure Books (start : Pipe) (taken : Bytes) (text : String) (r : Reader) (p : Pipe) : Prop where
  outlet : r.outlet = .capture
  idle : r.decoder.pending = []
  split : ∃ forwarded, taken = forwarded ++ p.held ++ r.unstored ∧
    text = String.ofList (start.forwarder.decoder.run forwarded).1 ∧
    p.forwarder.decoder = (start.forwarder.decoder.run forwarded).2 ∧
    p.forwarder.delivered = start.forwarder.delivered + forwarded.length
  written : p.written + r.uncounted = start.written + taken.length

namespace Books

variable {start p : Pipe} {taken more : Bytes} {text shown : String} {r r' : Reader} {sink : Bool}

/-- A reader that writes into the capture has nothing of its own to publish at the end. -/
theorem close_eq (h : Books start taken text r p) :
    r.close sink = ([], { r with phase := .done }) := by
  have hfinish : r.decoder.finish = (none, r.decoder) := by
    rw [Decoder.finish, h.idle]
    rfl
  rw [Reader.close, hfinish]
  cases sink <;> rfl

theorem done (h : Books start taken text r p) (hphase : r.phase = .reading) :
    Books start taken text { r with phase := .done } p := by
  obtain ⟨hunstored, huncounted⟩ := Reader.unstored_of_ne (r := r) fun rest size hw =>
    absurd (hphase.symm.trans hw) ReaderPhase.noConfusion
  obtain ⟨forwarded, hsplit, htext⟩ := h.split
  refine ⟨h.outlet, h.idle, ⟨forwarded, ?_, htext⟩, ?_⟩
  · rw [hunstored] at hsplit
    exact hsplit
  · have hwritten := h.written
    rw [huncounted] at hwritten
    exact hwritten

theorem read (h : Books start taken text r p) (hphase : r.phase = .reading) (what : Read) :
    Books start (taken ++ brought what) (text ++ textOn r.channel (r.read sink what).1)
      (r.read sink what).2 p := by
  have hclosed : Books start (taken ++ []) (text ++ textOn r.channel (r.close sink).1)
      (r.close sink).2 p := by
    rw [h.close_eq, textOn_nil, List.append_nil, String.append_empty]
    exact h.done hphase
  cases what with
  | data chunk =>
    cases chunk with
    | nil => exact hclosed
    | cons b bytes =>
      have hread : r.read sink (.data (b :: bytes)) =
          ([], { r with phase := .writing (b :: bytes) (b :: bytes).length }) := by
        rw [read_chunk r sink (List.cons_ne_nil b bytes), h.outlet]
      obtain ⟨hunstored, huncounted⟩ := Reader.unstored_of_ne (r := r) fun rest size hw =>
        absurd (hphase.symm.trans hw) ReaderPhase.noConfusion
      obtain ⟨forwarded, hsplit, htext, hdecoder⟩ := h.split
      rw [hread, textOn_nil, String.append_empty]
      refine ⟨h.outlet, h.idle, ⟨forwarded, ?_, htext, hdecoder⟩, ?_⟩
      · rw [hsplit, hunstored, List.append_nil]
        rfl
      · have hwritten := h.written
        rw [huncounted] at hwritten
        show p.written + (b :: bytes).length = start.written + (taken ++ (b :: bytes)).length
        rw [List.length_append]
        omega
  | interrupted =>
    show Books start (taken ++ []) (text ++ textOn r.channel []) r p
    rw [textOn_nil, List.append_nil, String.append_empty]
    exact h
  | failed text => exact hclosed

theorem moved {p' : Pipe} (h : Books start taken text r p)
    (hm : Moved sink r (some p) more shown r' (some p')) :
    Books start (taken ++ more) (text ++ shown) r' p' := by
  obtain ⟨forwarded, hsplit, htext, hdecoder, hdelivered⟩ := h.split
  have hwritten := h.written
  cases hm with
  | stay =>
    rw [List.append_nil, String.append_empty]
    exact h
  | read _ what hphase => exact h.read hphase what
  | @store _ rest size k hphase hleft =>
    rw [Reader.unstored, hphase] at hsplit
    rw [Reader.uncounted, hphase] at hwritten
    rw [List.append_nil, String.append_empty]
    refine ⟨h.outlet, h.idle, ⟨forwarded, ?_, htext, hdecoder, hdelivered⟩, hwritten⟩
    show taken = forwarded ++ (p.held ++ rest.take k) ++ rest.drop k
    rw [hsplit, List.append_assoc, List.append_assoc, List.append_assoc, List.take_append_drop]
  | @stored _ rest size hphase =>
    rw [Reader.unstored, hphase] at hsplit
    rw [Reader.uncounted, hphase] at hwritten
    rw [List.append_nil, String.append_empty]
    refine ⟨h.outlet, h.idle, ⟨forwarded, ?_, htext, hdecoder, hdelivered⟩, hwritten⟩
    show taken = forwarded ++ (p.held ++ rest) ++ []
    rw [hsplit, List.append_nil, List.append_assoc]
  | forward k hheld =>
    generalize hsize : min k Redirect.bufferSize = size
    have hforward : p.forward k = (Redirect.outputEvents p.forwarder.channel
        (p.forwarder.decoder.decode (p.held.take size)).1, { p with
          held := p.held.drop size
          forwarder := { p.forwarder with
            decoder := (p.forwarder.decoder.decode (p.held.take size)).2
            delivered := p.forwarder.delivered + (p.held.take size).length } }) := by
      rw [← hsize]
      rfl
    have hrun := Decoder.run_append start.forwarder.decoder forwarded (p.held.take size)
    rw [← hdecoder] at hrun
    rw [hforward, textOn_outputEvents, List.append_nil, htext]
    refine ⟨h.outlet, h.idle, ⟨forwarded ++ p.held.take size, ?_, ?_, ?_, ?_⟩, hwritten⟩
    · show taken = forwarded ++ p.held.take size ++ p.held.drop size ++ r.unstored
      rw [List.append_assoc forwarded, List.take_append_drop]
      exact hsplit
    · rw [hrun]
      exact String.ofList_append.symm
    · rw [hrun]
      rfl
    · rw [List.length_append, ← Nat.add_assoc, ← hdelivered]

end Books

/-! ## A launch through the capture -/

theorem Moved.isSome_eq {sink : Bool} {r r' : Reader} {p p' : Option Pipe} {taken : Bytes}
    {text : String} (h : Moved sink r p taken text r' p') : p'.isSome = p.isSome := by
  cases h <;> rfl

/-- Behind a reader that is done and with an empty pipe, nothing happens any more. -/
theorem Moved.still {sink : Bool} {r r' : Reader} {p p' : Pipe} {taken : Bytes} {text : String}
    (h : Moved sink r (some p) taken text r' (some p')) (hdone : r.phase = .done)
    (hheld : p.held = []) : taken = [] ∧ text = "" ∧ p' = p := by
  cases h with
  | stay => exact ⟨rfl, rfl, rfl⟩
  | read _ _ hreading => exact absurd (hdone.symm.trans hreading) ReaderPhase.noConfusion
  | store _ _ hwriting => exact absurd (hdone.symm.trans hwriting) ReaderPhase.noConfusion
  | stored _ hwriting => exact absurd (hdone.symm.trans hwriting) ReaderPhase.noConfusion
  | forward _ hne => exact absurd hheld hne

section Waiting

variable {l : Launch} {c : Option Capture} {w : WaiterPhase}

theorem Waits.joined_or_done (h : Waits l c w) (hjoined : w.Joined) :
    l.waiter.Joined ∨ l.readersDone = true := by
  cases h with
  | stays => exact .inl hjoined
  | reaped => exact hjoined.elim
  | joined _ hdone => exact .inr hdone
  | ended hw => exact .inl (hw ▸ trivial)
  | announced hw => exact .inl (hw ▸ trivial)
  | terminated hw => exact .inl (hw ▸ trivial)

theorem Waits.ended_or_delivered (h : Waits l c w) (hended : w.Ended) :
    l.waiter.Ended ∨
      l.waiter.Joined ∧ (l.redirected = true → c.all Capture.isDelivered = true) := by
  cases h with
  | stays => exact .inl hended
  | reaped => exact hended.elim
  | joined => exact hended.elim
  | ended hw hdelivered => exact .inr ⟨hw ▸ trivial, hdelivered⟩
  | announced hw => exact .inl (hw ▸ trivial)
  | terminated hw => exact .inl (hw ▸ trivial)

end Waiting

/-- How a launch that writes into the capture stands, which was `start` when it began. -/
structure Captured (start : Capture) (s : State ω) (n : Nat) (taken : Channel → Bytes)
    (text : Channel → String) (l : Launch) (c : Capture) : Prop where
  watched : Watched s n l
  capture : s.capture = some c
  books : ∀ channel, Books (start.pipe channel) (taken channel) (text channel) (l.reader channel)
    (c.pipe channel)
  joined : l.waiter.Joined → l.readersDone = true
  ended : l.waiter.Ended → ∀ channel, (c.pipe channel).held = []

namespace Captured

variable {start c : Capture} {s s' : State ω} {n : Nat} {taken more : Channel → Bytes}
  {text : Channel → String} {l l' : Launch} {ds : List Deed}

/-- Once both readers are done and everything written is delivered, the pipes are empty. -/
theorem held_eq_nil (h : Captured start s n taken text l c)
    (hstart : ∀ channel, (start.pipe channel).written = (start.pipe channel).forwarder.delivered)
    (hdone : l.readersDone = true) (hdelivered : c.isDelivered = true) (channel : Channel) :
    (c.pipe channel).held = [] := by
  obtain ⟨forwarded, hsplit, -, -, hcount⟩ := (h.books channel).split
  have hwritten := (h.books channel).written
  have hphase := Launch.readersDone_iff.1 hdone channel
  obtain ⟨hunstored, huncounted⟩ := Reader.unstored_of_ne (r := l.reader channel)
    fun rest size hw => absurd (hphase.symm.trans hw) ReaderPhase.noConfusion
  have hle : (c.pipe channel).written ≤ (c.pipe channel).forwarder.delivered := by
    rw [Capture.isDelivered, Bool.and_eq_true, Pipe.isDelivered, Pipe.isDelivered,
      decide_eq_true_eq, decide_eq_true_eq] at hdelivered
    cases channel with
    | stdout => exact hdelivered.1
    | stderr => exact hdelivered.2
  -- Nothing is with the reader, so the two counts differ by what is in the pipe.
  have hlength := congrArg List.length hsplit
  rw [hunstored, List.append_nil, List.length_append] at hlength
  rw [huncounted, hstart] at hwritten
  exact List.eq_nil_of_length_eq_zero (by omega)

theorem redirected (h : Captured start s n taken text l c) : l.redirected = true := by
  rw [Launch.redirected, beq_iff_eq]
  exact (h.books .stdout).outlet

/-- What a step makes of the readers and the pipes. -/
theorem exists_capture (h : Captured start s n taken text l c) (hs : Stepped s s' n l l' ds more) :
    ∃ c', s'.capture = some c' ∧ ∀ channel,
      Moved l.sink (l.reader channel) (some (c.pipe channel)) (more channel)
        (textOn channel (eventsOf ds)) (l'.reader channel) (some (c'.pipe channel)) := by
  have hpipe : ∀ channel, s.pipe? channel = some (c.pipe channel) := by
    intro channel
    rw [State.pipe?, h.capture]
    rfl
  cases hcapture : s'.capture with
  | none =>
    have hsome := (hs.moved .stdout).isSome_eq
    rw [hpipe, State.pipe?, hcapture] at hsome
    exact Bool.noConfusion hsome
  | some c' =>
    refine ⟨c', rfl, fun channel => ?_⟩
    have hmoved := hs.moved channel
    rw [hpipe, State.pipe?, hcapture] at hmoved
    exact hmoved

theorem stepped (h : Captured start s n taken text l c)
    (hstart : ∀ channel, (start.pipe channel).written = (start.pipe channel).forwarder.delivered)
    (hs : Stepped s s' n l l' ds more) :
    ∃ c', Captured start s' n (fun channel => taken channel ++ more channel)
      (fun channel => text channel ++ textOn channel (eventsOf ds)) l' c' := by
  obtain ⟨c', hc', hmoved⟩ := h.exists_capture hs
  have hdone : l.readersDone = true → l'.readersDone = true := by
    rw [Launch.readersDone_iff, Launch.readersDone_iff]
    intro hdone channel
    rw [(hmoved channel).of_done (hdone channel), hdone]
  have hempty : l.readersDone = true → (∀ channel, (c.pipe channel).held = []) →
      ∀ channel, (c'.pipe channel).held = [] := by
    intro hdone hheld channel
    have hphase := Launch.readersDone_iff.1 hdone channel
    obtain ⟨-, -, hpipe⟩ := (hmoved channel).still hphase (hheld channel)
    rw [hpipe, hheld]
  refine ⟨c', hs.watched, hc', fun channel => (h.books channel).moved (hmoved channel), ?_, ?_⟩
  · intro hjoined
    rcases hs.waits.joined_or_done hjoined with hbefore | hreaders
    · exact hdone (h.joined hbefore)
    · exact hdone hreaders
  · intro hended
    rcases hs.waits.ended_or_delivered hended with hbefore | ⟨hjoined, hdelivered⟩
    · exact hempty (h.joined hbefore.joined) (h.ended hbefore)
    -- The counts are compared when the readers are done, so that nothing can be added any more.
    · have hall := hdelivered h.redirected
      rw [h.capture] at hall
      exact hempty (h.joined hjoined) (h.held_eq_nil hstart (h.joined hjoined) hall)

end Captured

section Runs

variable {start c : Capture} {s s' : State ω} {n : Nat} {taken more : Channel → Bytes}
  {text : Channel → String} {l l' : Launch} {ds : List Deed}

/-- Steps in any order keep the books, unless one fails. -/
theorem Captured.steps (S : System ω) (h : Captured start s n taken text l c)
    (hstart : ∀ channel, (start.pipe channel).written = (start.pipe channel).forwarder.delivered)
    {steps : List Step} (hsteps : ∀ step ∈ steps, step.fails = false) :
    ∃ l' c' ds, (s.steps S steps).trace = s.trace ++ ds ∧
      Captured start (s.steps S steps) n
        (fun channel => taken channel ++ s.intakes S n channel steps)
        (fun channel => text channel ++ textOn channel (eventsOf ds)) l' c' := by
  -- `taken` and `text` are those of the steps before.
  induction steps generalizing s l c taken text with
  | nil =>
    refine ⟨l, c, [], (List.append_nil _).symm, ?_⟩
    have htext : (fun channel => text channel ++ textOn channel (eventsOf [])) = text :=
      funext fun _ => String.append_empty
    have htaken : (fun channel => taken channel ++ s.intakes S n channel []) = taken :=
      funext fun _ => List.append_nil _
    rw [htext, htaken]
    exact h
  | cons step steps ih =>
    obtain ⟨hnot, hrest⟩ := List.forall_mem_cons.1 hsteps
    obtain ⟨l', ds, hstep⟩ := h.watched.stepped S hnot
    obtain ⟨c', hnow⟩ := h.stepped hstart hstep
    obtain ⟨l'', c'', ds', htrace, hlater⟩ := ih hnow hrest
    refine ⟨l'', c'', ds ++ ds', ?_, ?_⟩
    · rw [← List.append_assoc, ← hstep.trace]
      exact htrace
    · have htext : (fun channel => text channel ++ textOn channel (eventsOf (ds ++ ds'))) =
          fun channel => text channel ++ textOn channel (eventsOf ds) ++
            textOn channel (eventsOf ds') := by
        funext channel
        rw [eventsOf_append, textOn_append, String.append_assoc]
      have htaken : (fun channel => taken channel ++ s.intakes S n channel (step :: steps)) =
          fun channel => taken channel ++ s.intake n channel step ++
            (s.step S step).intakes S n channel steps := by
        funext channel
        rw [State.intakes, List.append_assoc]
      rw [htext, htaken]
      exact hlater

end Runs

/-! ## Before the exit -/

/-- A program that is started through a capture at rest is alone at work. -/
theorem AtRest.watched {s : State ω} {c : Capture} (h : AtRest s c)
    (hredirected : s.redirected = true) (pid : UInt32) :
    Watched (s.addLaunch pid) s.launches.length (Launch.new pid s.sink s.redirected) where
  launch := List.getElem?_concat_length
  alone m l hm hne := by
    have hlt : m < s.launches.length := by
      obtain ⟨hm', -⟩ := List.getElem?_eq_some_iff.1 hm
      have hlength : (s.addLaunch pid).launches.length = s.launches.length + 1 :=
        List.length_append
      omega
    exact h.done ((List.getElem?_append_left hlt).symm.trans hm)
  channel channel := by cases channel <;> rfl
  wired c' hc' := by
    obtain rfl := Option.some.inj (h.capture.symm.trans hc')
    exact h.wired
  redirected := hredirected

theorem AtRest.captured {s : State ω} {c : Capture} (h : AtRest s c)
    (hredirected : s.redirected = true) (pid : UInt32) :
    Captured c (s.addLaunch pid) s.launches.length (fun _ => []) (fun _ => "")
      (Launch.new pid s.sink s.redirected) c := by
  have houtlet : ∀ channel,
      ((Launch.new pid s.sink s.redirected).reader channel).outlet = .capture := by
    rw [hredirected]
    intro channel
    cases channel <;> rfl
  refine ⟨h.watched hredirected pid, h.capture, fun channel => ?_, False.elim, False.elim⟩
  refine ⟨houtlet channel, by cases channel <;> rfl, ⟨[], ?_, rfl, rfl, rfl⟩, ?_⟩
  · rw [h.held]
    cases channel <;> rfl
  · cases channel <;> rfl

/-- An operating system where no process is found and no program starts. -/
def bare : System Unit where
  probe _ _ := .error .srch
  signal _ _ _ := (.error .srch, ())
  spawn _ _ _ := (.error (.start ""), ())
  pathExists _ _ := false
  which _ _ := .error ""

/-- The program of a launch writes bytes on its standard output and ends, and each part of the way
goes on as soon as it can. -/
def passing (n : Nat) (bytes : Bytes) : List Step :=
  [.read n .stdout (.data bytes), .store n .stdout bytes.length, .forward .stdout bytes.length,
    .read n .stdout (.data []), .read n .stderr (.data []), .reap n 0, .await n, .await n,
    .await n, .await n]

end Supervisor
end DebugSession
