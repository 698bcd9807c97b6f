/-
What runs beside the engine, seen from one launch that is alone at work.  A step in which nothing
fails moves bytes of one channel a little further, from the program to the reader, into the pipe or
out of it, or the waiter goes on; nothing else happens to the launch.
-/
import DebugSession.Supervisor.Schedule

namespace DebugSession
namespace Supervisor

open Redirect (Capture Pipe Read)
open Text (Bytes)

variable {ω : Type}

/-! ## Published text -/

/-- The text of an event on a channel, none if it is no output there. -/
def outputText? (channel : Channel) : Event → Option String
  | .output c text => if c = channel then some text else none
  | _ => none

/-- The text that events show on a channel. -/
def textOn (channel : Channel) (es : List Event) : String :=
  String.join (es.filterMap (outputText? channel))

theorem textOn_nil (channel : Channel) : textOn channel [] = "" := rfl

theorem textOn_append (channel : Channel) (a b : List Event) :
    textOn channel (a ++ b) = textOn channel a ++ textOn channel b := by
  rw [textOn, List.filterMap_append, String.join_append]
  rfl

theorem textOn_eq_empty {channel : Channel} {es : List Event}
    (h : ∀ e ∈ es, outputText? channel e = none) : textOn channel es = "" := by
  rw [textOn, List.filterMap_eq_nil_iff.2 h]
  rfl

theorem eq_output_of_mem_outputEvents {channel : Channel} {text : String} {e : Event}
    (h : e ∈ Redirect.outputEvents channel text) : ∃ text, e = .output channel text := by
  rw [Redirect.outputEvents] at h
  split at h
  · exact absurd h List.not_mem_nil
  · exact ⟨text, List.mem_singleton.1 h⟩

theorem textOn_outputEvents (channel : Channel) (text : String) :
    textOn channel (Redirect.outputEvents channel text) = text := by
  rw [Redirect.outputEvents]
  split
  · next h => rw [String.isEmpty_iff.1 h, textOn_nil]
  · have houtput : outputText? channel (.output channel text) = some text := if_pos rfl
    rw [textOn, List.filterMap_cons_some houtput]
    exact String.join_cons.trans String.append_empty

theorem textOn_map_output (channel : Channel) (texts : List String) :
    textOn channel (texts.map (.output channel)) = String.join texts := by
  have houtput : outputText? channel ∘ Event.output channel = some := funext fun _ => if_pos rfl
  rw [textOn, List.filterMap_map, houtput, List.filterMap_some]

theorem eventsOf_map_emitted (es : List Event) : eventsOf (es.map .emitted) = es := by
  rw [eventsOf, List.filterMap_map]
  exact List.filterMap_some

theorem eventsOf_append (a b : List Deed) : eventsOf (a ++ b) = eventsOf a ++ eventsOf b :=
  List.filterMap_append

/-! ## Readers and pipes of a launch -/

namespace Launch

theorem reader_setReader (l : Launch) (r : Reader) (channel : Channel) :
    (l.setReader r channel).reader channel = r := by
  cases channel <;> rfl

theorem reader_setReader_ne (l : Launch) (r : Reader) {channel other : Channel}
    (h : other ≠ channel) : (l.setReader r channel).reader other = l.reader other := by
  cases channel <;> cases other <;> first | rfl | exact absurd rfl h

theorem readersDone_iff {l : Launch} :
    l.readersDone = true ↔ ∀ channel, (l.reader channel).phase = .done := by
  rw [readersDone, Bool.and_eq_true, beq_iff_eq, beq_iff_eq]
  constructor
  · rintro ⟨hout, herr⟩ channel
    cases channel with
    | stdout => exact hout
    | stderr => exact herr
  · exact fun h => ⟨h .stdout, h .stderr⟩

end Launch

theorem pipe_setPipe (c : Capture) (p : Pipe) (channel : Channel) :
    (c.setPipe p channel).pipe channel = p := by
  cases channel <;> rfl

theorem pipe_setPipe_ne (c : Capture) (p : Pipe) {channel other : Channel} (h : other ≠ channel) :
    (c.setPipe p channel).pipe other = c.pipe other := by
  cases channel <;> cases other <;> first | rfl | exact absurd rfl h

theorem pipe_setPipe_eq_ite (c : Capture) (p : Pipe) (channel other : Channel) :
    (c.setPipe p channel).pipe other = if channel = other then p else c.pipe other := by
  cases channel <;> cases other <;> rfl

/-- The pipe of a channel, if there is a capture. -/
def State.pipe? (s : State ω) (channel : Channel) : Option Pipe :=
  s.capture.map fun c => c.pipe channel

def brought : Read → Bytes
  | .data bytes => bytes
  | _ => []

/-- What a step makes of the reader and of the pipe of a channel: these bytes are taken from the
program, and this text is published. -/
inductive Moved (sink : Bool) :
    Reader → Option Pipe → Bytes → String → Reader → Option Pipe → Prop where
  | stay (r : Reader) (p : Option Pipe) : Moved sink r p [] "" r p
  | read {r : Reader} (p : Option Pipe) (what : Read) : r.phase = .reading →
    Moved sink r p (brought what) (textOn r.channel (r.read sink what).1) (r.read sink what).2 p
  | store {r : Reader} (p : Pipe) {rest : Bytes} {size : Nat} (k : Nat) :
    r.phase = .writing rest size → rest.drop k ≠ [] →
    Moved sink r (some p) [] "" { r with phase := .writing (rest.drop k) size }
      (some (p.accept (rest.take k)))
  | stored {r : Reader} (p : Pipe) {rest : Bytes} {size : Nat} : r.phase = .writing rest size →
    Moved sink r (some p) [] "" { r with phase := .reading } (some ((p.accept rest).count size))
  | forward (r : Reader) {p : Pipe} (k : Nat) : p.held ≠ [] →
    Moved sink r (some p) [] (textOn p.forwarder.channel (p.forward k).1) r
      (some (p.forward k).2)

/-- How far the waiter of a launch gets with one step. -/
inductive Waits (l : Launch) (c : Option Capture) : WaiterPhase → Prop where
  | stays : Waits l c l.waiter
  | reaped (code : Int) : l.waiter = .waiting → Waits l c (.reaped code)
  | joined {code : Int} : l.waiter = .reaped code → l.readersDone = true → Waits l c (.joined code)
  | ended {code : Int} : l.waiter = .joined code →
    (l.redirected = true → c.all Capture.isDelivered = true) → Waits l c (.ended code)
  | announced {code : Int} : l.waiter = .ended code → Waits l c .announced
  | terminated : l.waiter = .announced → Waits l c .over

/-- A write fails, or the time is up for the delivery of output. -/
def Step.fails : Step → Bool
  | .lose _ _ => true
  | .expire _ => true
  | _ => false

/-- The launch with this number is `l`, its parts are in order, no other launch is at work, and the
engine has its write ends of the capture. -/
structure Watched (s : State ω) (n : Nat) (l : Launch) : Prop where
  launch : s.launches[n]? = some l
  alone : ∀ m l', s.launches[m]? = some l' → m ≠ n → l'.readersDone = true
  channel : ∀ channel, (l.reader channel).channel = channel
  wired : ∀ c, s.capture = some c → ∀ channel, (c.pipe channel).forwarder.channel = channel
  redirected : s.redirected = true

/-- The bytes that a step takes from the program of a launch on a channel. -/
def State.intake (s : State ω) (n : Nat) (channel : Channel) : Step → Bytes
  | .read m c what =>
    if m = n ∧ c = channel ∧ ∃ l ∈ s.launches[n]?, (l.reader channel).phase = .reading then
      brought what
    else []
  | _ => []

/-- What a step makes of a launch. -/
structure Stepped (s s' : State ω) (n : Nat) (l l' : Launch) (ds : List Deed)
    (taken : Channel → Bytes) : Prop where
  watched : Watched s' n l'
  trace : s'.trace = s.trace ++ ds
  waits : Waits l s.capture l'.waiter
  moved : ∀ channel, Moved l.sink (l.reader channel) (s.pipe? channel) (taken channel)
    (textOn channel (eventsOf ds)) (l'.reader channel) (s'.pipe? channel)

/-! ## Steps of a launch -/

namespace State

variable {s : State ω} {n : Nat} {l : Launch}

theorem reads_eq (h : s.launches[n]? = some l) (channel : Channel) (what : Read) :
    s.reads n channel what =
      if (l.reader channel).phase = .reading then
        (s.setLaunch n (l.setReader ((l.reader channel).read l.sink what).2 channel)).publish
          ((l.reader channel).read l.sink what).1
      else s := by
  rw [reads, h]

theorem reaps_eq (h : s.launches[n]? = some l) (code : Int) :
    s.reaps n code =
      if l.waiter = .waiting then
        (s.setLaunch n { l with waiter := .reaped code }).add [.reaped l.pid]
      else s := by
  rw [reaps, h]

theorem awaits_eq (h : s.launches[n]? = some l) :
    s.awaits n =
      match l.await s.capture with
      | some (events, l') => (s.setLaunch n l').publish events
      | none => s := by
  cases hawait : l.await s.capture <;> simp only [awaits, h, hawait]

end State

/-! ## One step -/

section Steps

variable {s s' : State ω} {n : Nat} {l : Launch}

theorem Moved.of_done {sink : Bool} {r r' : Reader} {p p' : Option Pipe} {taken : Bytes}
    {text : String} (h : Moved sink r p taken text r' p') (hdone : r.phase = .done) : r' = r := by
  cases h with
  | stay => rfl
  | read _ _ hreading => exact absurd (hdone.symm.trans hreading) ReaderPhase.noConfusion
  | store _ _ hwriting => exact absurd (hdone.symm.trans hwriting) ReaderPhase.noConfusion
  | stored _ hwriting => exact absurd (hdone.symm.trans hwriting) ReaderPhase.noConfusion
  | forward => rfl

theorem read_chunk (r : Reader) (sink : Bool) {chunk : Bytes} (h : chunk ≠ []) :
    r.read sink (.data chunk) =
      match r.outlet with
      | .capture => ([], { r with phase := .writing chunk chunk.length })
      | .sink => (Redirect.outputEvents r.channel (r.decoder.decode chunk).1,
          { r with decoder := (r.decoder.decode chunk).2 })
      | .nowhere => ([], r) := by
  cases chunk with
  | nil => exact absurd rfl h
  | cons b bytes => rfl

theorem channel_read (r : Reader) (sink : Bool) (what : Read) :
    (r.read sink what).2.channel = r.channel := by
  cases what with
  | data bytes =>
    cases bytes with
    | nil => rfl
    | cons b bytes =>
      rw [read_chunk r sink (List.cons_ne_nil b bytes)]
      cases r.outlet <;> rfl
  | interrupted => rfl
  | failed text => rfl

/-- A reader publishes on its own channel only. -/
theorem eq_output_of_mem_read {r : Reader} {sink : Bool} {what : Read} {e : Event}
    (h : e ∈ (r.read sink what).1) : ∃ text, e = .output r.channel text := by
  have hclose : e ∈ (r.close sink).1 → ∃ text, e = .output r.channel text := by
    intro he
    cases sink with
    | false => exact absurd he List.not_mem_nil
    | true =>
      obtain ⟨text, -, rfl⟩ := List.mem_map.1 he
      exact ⟨text, rfl⟩
  cases what with
  | data bytes =>
    cases bytes with
    | nil => exact hclose h
    | cons b bytes =>
      rw [read_chunk r sink (List.cons_ne_nil b bytes)] at h
      cases houtlet : r.outlet with
      | capture =>
        rw [houtlet] at h
        exact absurd h List.not_mem_nil
      | nowhere =>
        rw [houtlet] at h
        exact absurd h List.not_mem_nil
      | sink =>
        rw [houtlet] at h
        exact eq_output_of_mem_outputEvents h
  | interrupted => exact absurd h List.not_mem_nil
  | failed text => exact hclose h

/-- Nothing happens to the launch, and nothing is published. -/
theorem Watched.stepped_of_eq (h : Watched s n l) {ds : List Deed} {taken : Channel → Bytes}
    (hlaunches : s'.launches = s.launches) (hcapture : s'.capture = s.capture)
    (hredirected : s'.redirected = s.redirected) (htrace : s'.trace = s.trace ++ ds)
    (htaken : ∀ channel, taken channel = [])
    (htext : ∀ channel, textOn channel (eventsOf ds) = "") :
    Stepped s s' n l l ds taken where
  watched := ⟨hlaunches ▸ h.launch, hlaunches ▸ h.alone, h.channel, hcapture ▸ h.wired,
    hredirected.trans h.redirected⟩
  trace := htrace
  waits := .stays
  moved channel := by
    rw [htaken, htext, State.pipe?, State.pipe?, hcapture]
    exact .stay _ _

theorem Watched.stepped_same (h : Watched s n l) {taken : Channel → Bytes}
    (htaken : ∀ channel, taken channel = []) : Stepped s s n l l [] taken :=
  h.stepped_of_eq rfl rfl rfl (List.append_nil _).symm htaken fun _ => rfl

/-- The launch is another one, and the capture may be. -/
theorem Watched.set (h : Watched s n l) {l' : Launch}
    (hlaunches : s'.launches = s.launches.set n l') (hredirected : s'.redirected = s.redirected)
    (hchannel : ∀ channel, (l'.reader channel).channel = channel)
    (hwired : ∀ c, s'.capture = some c → ∀ channel, (c.pipe channel).forwarder.channel = channel) :
    Watched s' n l' where
  launch := by
    obtain ⟨hn, -⟩ := List.getElem?_eq_some_iff.1 h.launch
    rw [hlaunches, List.getElem?_set_self hn]
  alone m l'' hm hne := by
    rw [hlaunches, List.getElem?_set_ne (Ne.symm hne)] at hm
    exact h.alone m l'' hm hne
  channel := hchannel
  wired := hwired
  redirected := hredirected.trans h.redirected

/-- A launch whose readers are done reads nothing. -/
theorem reads_of_done {m : Nat} (h : ∀ l, s.launches[m]? = some l → l.readersDone = true)
    (channel : Channel) (what : Read) : s.reads m channel what = s := by
  cases hl : s.launches[m]? with
  | none => rw [State.reads, hl]
  | some l =>
    have hdone := Launch.readersDone_iff.1 (h l hl) channel
    rw [State.reads_eq hl, if_neg (hdone ▸ ReaderPhase.noConfusion)]

theorem Watched.stepped_reads (h : Watched s n l) (m : Nat) (channel : Channel) (what : Read) :
    ∃ l' ds, Stepped s (s.reads m channel what) n l l' ds
      fun c => s.intake n c (.read m channel what) := by
  -- A read that does not take place changes nothing and takes nothing: of another launch, all of
  -- which are done, or of a reader that is not reading.
  have hnothing : ¬ (m = n ∧ (l.reader channel).phase = .reading) →
      ∀ c, s.intake n c (.read m channel what) = [] := by
    intro hnot c
    refine if_neg ?_
    rintro ⟨rfl, rfl, l', hl', hreading⟩
    obtain rfl := Option.some.inj (h.launch.symm.trans hl')
    exact hnot ⟨rfl, hreading⟩
  by_cases hm : m = n
  · subst hm
    by_cases hreading : (l.reader channel).phase = .reading
    · rw [State.reads_eq h.launch, if_pos hreading]
      refine ⟨l.setReader ((l.reader channel).read l.sink what).2 channel,
        ((l.reader channel).read l.sink what).1.map .emitted, ?_, rfl, ?_, fun c => ?_⟩
      · refine h.set rfl rfl (fun c => ?_) h.wired
        by_cases hc : c = channel
        · rw [hc, Launch.reader_setReader, channel_read, h.channel]
        · rw [Launch.reader_setReader_ne _ _ hc, h.channel]
      · cases channel <;> exact .stays
      · rw [eventsOf_map_emitted]
        by_cases hc : c = channel
        · subst hc
          have hintake : s.intake m c (.read m c what) = brought what :=
            if_pos ⟨rfl, rfl, l, h.launch, hreading⟩
          have hchannel := h.channel c
          have hmoved : Moved l.sink (l.reader c) (s.pipe? c) (brought what)
              (textOn (l.reader c).channel ((l.reader c).read l.sink what).1)
              ((l.reader c).read l.sink what).2 (s.pipe? c) := .read _ what hreading
          rw [hchannel] at hmoved
          rw [hintake, Launch.reader_setReader]
          exact hmoved
        · have hintake : s.intake m c (.read m channel what) = [] :=
            if_neg fun hin => hc hin.2.1.symm
          have htext : textOn c ((l.reader channel).read l.sink what).1 = "" := by
            apply textOn_eq_empty
            intro e he
            obtain ⟨text, rfl⟩ := eq_output_of_mem_read he
            rw [h.channel]
            exact if_neg (Ne.symm hc)
          rw [hintake, htext, Launch.reader_setReader_ne _ _ hc]
          exact .stay _ _
    · rw [State.reads_eq h.launch, if_neg hreading]
      exact ⟨l, [], h.stepped_same (hnothing fun hin => hreading hin.2)⟩
  · rw [reads_of_done (fun l' hl => h.alone m l' hl hm)]
    exact ⟨l, [], h.stepped_same (hnothing fun hin => hm hin.1)⟩

theorem stores_of_none {m : Nat} {channel : Channel} {k : Nat} {l : Launch}
    (hl : s.launches[m]? = some l) (h : ∀ c, (l.reader channel).store c k = none) :
    s.stores m channel k = s := by
  rw [State.stores, hl]
  cases hc : s.capture with
  | none => rfl
  | some c => simp only [h c]

theorem store_of_not_writing {r : Reader} (h : ∀ rest size, r.phase ≠ .writing rest size)
    (c : Capture) (k : Nat) : r.store c k = none := by
  rw [Reader.store]
  cases hphase : r.phase with
  | reading => rfl
  | writing rest size => exact absurd hphase (h rest size)
  | done => rfl

/-- A launch whose readers are done writes nothing. -/
theorem stores_of_done {m : Nat} (h : ∀ l, s.launches[m]? = some l → l.readersDone = true)
    (channel : Channel) (k : Nat) : s.stores m channel k = s := by
  cases hl : s.launches[m]? with
  | none => rw [State.stores, hl]
  | some l =>
    refine stores_of_none hl fun c => store_of_not_writing (fun rest size hw => ?_) c k
    rw [Launch.readersDone_iff.1 (h l hl) channel] at hw
    exact nomatch hw

/-- What storing makes of a capture and its reader, channel by channel. -/
theorem moved_store {r : Reader} {c c' : Capture} {r' : Reader} {k : Nat}
    (h : r.store c k = some (c', r')) (sink : Bool) :
    Moved sink r (some (c.pipe r.channel)) [] "" r' (some (c'.pipe r.channel)) ∧
      r'.channel = r.channel ∧
      (c'.pipe r.channel).forwarder = (c.pipe r.channel).forwarder ∧
      ∀ other, other ≠ r.channel → c'.pipe other = c.pipe other := by
  cases hphase : r.phase with
  | reading =>
    rw [store_of_not_writing (fun _ _ hw => by rw [hphase] at hw; exact nomatch hw)] at h
    exact nomatch h
  | done =>
    rw [store_of_not_writing (fun _ _ hw => by rw [hphase] at hw; exact nomatch hw)] at h
    exact nomatch h
  | writing rest size =>
    rw [Reader.store, hphase] at h
    by_cases hleft : rest.drop k = []
    · have htake : rest.take k = rest := List.take_of_length_le (List.drop_eq_nil_iff.1 hleft)
      simp only [hleft, htake, List.isEmpty_nil, if_true] at h
      obtain ⟨rfl, rfl⟩ := Prod.mk.inj (Option.some.inj h)
      rw [pipe_setPipe]
      exact ⟨.stored _ hphase, rfl, rfl, fun other hne => pipe_setPipe_ne _ _ hne⟩
    · have hempty : (rest.drop k).isEmpty = false := by
        rw [← Bool.not_eq_true, List.isEmpty_iff]
        exact hleft
      simp only [hempty, Bool.false_eq_true, if_false] at h
      obtain ⟨rfl, rfl⟩ := Prod.mk.inj (Option.some.inj h)
      rw [pipe_setPipe]
      exact ⟨.store _ k hphase hleft, rfl, rfl, fun other hne => pipe_setPipe_ne _ _ hne⟩

theorem Watched.stepped_stores (h : Watched s n l) (m : Nat) (channel : Channel) (k : Nat) :
    ∃ l' ds, Stepped s (s.stores m channel k) n l l' ds fun _ => [] := by
  by_cases hm : m = n
  · subst hm
    cases hc : s.capture with
    | none =>
      have hsame : s.stores m channel k = s := by rw [State.stores, h.launch, hc]
      rw [hsame]
      exact ⟨l, [], h.stepped_same fun _ => rfl⟩
    | some c =>
      cases hstore : (l.reader channel).store c k with
      | none =>
        have hsame : s.stores m channel k = s := by
          rw [State.stores, h.launch, hc]
          simp only [hstore]
        rw [hsame]
        exact ⟨l, [], h.stepped_same fun _ => rfl⟩
      | some stored =>
        obtain ⟨c', r'⟩ := stored
        obtain ⟨hmoved, hchannel, hforwarder, hother⟩ := moved_store hstore l.sink
        rw [h.channel] at hmoved hchannel hforwarder hother
        have hstores : s.stores m channel k =
            { s.setLaunch m (l.setReader r' channel) with capture := some c' } := by
          rw [State.stores, h.launch, hc]
          simp only [hstore]
        rw [hstores]
        refine ⟨l.setReader r' channel, [], ?_, (List.append_nil _).symm, ?_, fun other => ?_⟩
        · refine h.set rfl rfl (fun other => ?_) fun c'' hc'' other => ?_
          · by_cases ho : other = channel
            · rw [ho, Launch.reader_setReader, hchannel]
            · rw [Launch.reader_setReader_ne _ _ ho, h.channel]
          · obtain rfl := Option.some.inj hc''
            by_cases ho : other = channel
            · rw [ho, hforwarder, h.wired c hc]
            · rw [hother other ho, h.wired c hc]
        · cases channel <;> exact .stays
        · rw [State.pipe?, hc]
          by_cases ho : other = channel
          · rw [ho, Launch.reader_setReader]
            exact hmoved
          · have hpipe : c'.pipe other = c.pipe other := hother other ho
            rw [Launch.reader_setReader_ne _ _ ho]
            show Moved _ _ (some (c.pipe other)) _ _ _ (some (c'.pipe other))
            rw [hpipe]
            exact .stay _ _
  · rw [stores_of_done (fun l' hl => h.alone m l' hl hm)]
    exact ⟨l, [], h.stepped_same fun _ => rfl⟩

theorem eq_output_of_mem_forward {p : Pipe} {k : Nat} {e : Event} (h : e ∈ (p.forward k).1) :
    ∃ text, e = .output p.forwarder.channel text :=
  eq_output_of_mem_outputEvents h

theorem Watched.stepped_forwards (h : Watched s n l) (channel : Channel) (k : Nat) :
    ∃ ds, Stepped s (s.forwards channel k) n l l ds fun _ => [] := by
  cases hc : s.capture with
  | none =>
    have hsame : s.forwards channel k = s := by rw [State.forwards, hc]
    rw [hsame]
    exact ⟨[], h.stepped_same fun _ => rfl⟩
  | some c =>
    by_cases hidle : ((c.pipe channel).held.isEmpty || k = 0) = true
    · have hsame : s.forwards channel k = s := by
        rw [State.forwards, hc]
        exact if_pos hidle
      rw [hsame]
      exact ⟨[], h.stepped_same fun _ => rfl⟩
    · have hforwards : s.forwards channel k =
          { s with capture := some (c.setPipe ((c.pipe channel).forward k).2 channel) }.publish
            ((c.pipe channel).forward k).1 := by
        rw [State.forwards, hc]
        exact if_neg hidle
      have hheld : (c.pipe channel).held ≠ [] := by
        intro hnil
        rw [hnil] at hidle
        exact hidle rfl
      rw [hforwards]
      refine ⟨((c.pipe channel).forward k).1.map .emitted, ?_, rfl, .stays, fun other => ?_⟩
      · refine ⟨h.launch, h.alone, h.channel, fun c' hc' other => ?_, h.redirected⟩
        obtain rfl := Option.some.inj hc'
        by_cases ho : other = channel
        · rw [ho, pipe_setPipe]
          exact h.wired c hc channel
        · rw [pipe_setPipe_ne _ _ ho]
          exact h.wired c hc other
      · rw [eventsOf_map_emitted, State.pipe?, hc]
        by_cases ho : other = channel
        · subst ho
          have hmoved : Moved l.sink (l.reader other) (some (c.pipe other)) []
              (textOn (c.pipe other).forwarder.channel ((c.pipe other).forward k).1)
              (l.reader other) (some ((c.pipe other).forward k).2) := .forward _ k hheld
          rw [h.wired c hc] at hmoved
          show Moved _ _ (some (c.pipe other)) _ _ _ (some ((c.setPipe _ other).pipe other))
          rw [pipe_setPipe]
          exact hmoved
        · have htext : textOn other ((c.pipe channel).forward k).1 = "" := by
            apply textOn_eq_empty
            intro e he
            obtain ⟨text, rfl⟩ := eq_output_of_mem_forward he
            rw [h.wired c hc]
            exact if_neg (Ne.symm ho)
          rw [htext]
          show Moved _ _ (some (c.pipe other)) _ _ _ (some ((c.setPipe _ channel).pipe other))
          rw [pipe_setPipe_ne _ _ ho]
          exact .stay _ _

theorem Watched.stepped_waiter (h : Watched s n l) {m : Nat} {old : Launch} (new : Launch)
    (ds : List Deed) (hold : s.launches[m]? = some old)
    (hreader : ∀ channel, new.reader channel = old.reader channel)
    (hwaits : Waits old s.capture new.waiter)
    (htext : ∀ channel, textOn channel (eventsOf ds) = "") :
    ∃ l', Stepped s ((s.setLaunch m new).add ds) n l l' ds fun _ => [] := by
  by_cases hm : m = n
  · subst hm
    obtain rfl := Option.some.inj (h.launch.symm.trans hold)
    refine ⟨new, h.set rfl rfl (fun channel => ?_) h.wired, rfl, hwaits, fun channel => ?_⟩
    · rw [hreader, h.channel]
    · rw [htext, hreader]
      exact .stay _ _
  · have hother : ((s.setLaunch m new).add ds).launches = s.launches.set m new := rfl
    refine ⟨l, ⟨?_, ?_, h.channel, h.wired, h.redirected⟩, rfl, .stays, fun channel => ?_⟩
    · rw [hother, List.getElem?_set_ne hm]
      exact h.launch
    · intro i l' hi hne
      rw [hother] at hi
      by_cases him : i = m
      · subst him
        obtain ⟨hlt, -⟩ := List.getElem?_eq_some_iff.1 hold
        rw [List.getElem?_set_self hlt] at hi
        obtain rfl := Option.some.inj hi
        have hdone := h.alone i old hold hne
        rw [Launch.readersDone_iff] at hdone ⊢
        intro channel
        rw [hreader, hdone]
      · rw [List.getElem?_set_ne (Ne.symm him)] at hi
        exact h.alone i l' hi hne
    · rw [htext]
      exact .stay _ _

theorem Watched.stepped_reaps (h : Watched s n l) (m : Nat) (code : Int) :
    ∃ l' ds, Stepped s (s.reaps m code) n l l' ds fun _ => [] := by
  cases hl : s.launches[m]? with
  | none =>
    have hsame : s.reaps m code = s := by rw [State.reaps, hl]
    rw [hsame]
    exact ⟨l, [], h.stepped_same fun _ => rfl⟩
  | some old =>
    by_cases hwaiting : old.waiter = .waiting
    · rw [State.reaps_eq hl, if_pos hwaiting]
      obtain ⟨l', hstep⟩ := h.stepped_waiter { old with waiter := .reaped code }
        [.reaped old.pid] hl (fun channel => by cases channel <;> rfl)
        (.reaped code hwaiting) fun _ => rfl
      exact ⟨l', _, hstep⟩
    · rw [State.reaps_eq hl, if_neg hwaiting]
      exact ⟨l, [], h.stepped_same fun _ => rfl⟩

/-- A waiter goes on as it may, and announces no output. -/
theorem waits_of_await {old new : Launch} {c : Option Capture} {es : List Event}
    (h : old.await c = some (es, new)) :
    Waits old c new.waiter ∧ (∀ channel, new.reader channel = old.reader channel) ∧
      ∀ channel, textOn channel es = "" := by
  have hannounce : ∀ {e : Event} {channel : Channel}, outputText? channel e = none →
      textOn channel (old.announce e) = "" := by
    intro e channel he
    apply textOn_eq_empty
    intro e' he'
    rw [Launch.announce] at he'
    split at he'
    · rw [List.mem_singleton.1 he', he]
    · exact absurd he' List.not_mem_nil
  unfold Launch.await at h
  cases hw : old.waiter with
  | waiting =>
    rw [hw] at h
    exact nomatch h
  | reaped code =>
    simp only [hw] at h
    split at h
    · next hdone =>
      obtain ⟨rfl, rfl⟩ := Prod.mk.inj (Option.some.inj h)
      exact ⟨.joined hw hdone, fun channel => by cases channel <;> rfl, fun _ => rfl⟩
    · exact nomatch h
  | joined code =>
    simp only [hw] at h
    split at h
    · exact nomatch h
    · next hdelivered =>
      obtain ⟨rfl, rfl⟩ := Prod.mk.inj (Option.some.inj h)
      refine ⟨.ended hw fun hredirected => ?_, fun channel => by cases channel <;> rfl,
        fun _ => rfl⟩
      rw [hredirected, Bool.true_and, Bool.not_eq_true', Bool.not_eq_false] at hdelivered
      exact hdelivered
  | ended code =>
    simp only [hw] at h
    obtain ⟨rfl, rfl⟩ := Prod.mk.inj (Option.some.inj h)
    exact ⟨.announced hw, fun channel => by cases channel <;> rfl, fun _ => hannounce rfl⟩
  | announced =>
    simp only [hw] at h
    obtain ⟨rfl, rfl⟩ := Prod.mk.inj (Option.some.inj h)
    exact ⟨.terminated hw, fun channel => by cases channel <;> rfl, fun _ => hannounce rfl⟩
  | _ =>
    rw [hw] at h
    exact nomatch h

theorem Watched.stepped_awaits (h : Watched s n l) (m : Nat) :
    ∃ l' ds, Stepped s (s.awaits m) n l l' ds fun _ => [] := by
  cases hl : s.launches[m]? with
  | none =>
    have hsame : s.awaits m = s := by rw [State.awaits, hl]
    rw [hsame]
    exact ⟨l, [], h.stepped_same fun _ => rfl⟩
  | some old =>
    cases hawait : old.await s.capture with
    | none =>
      have hsame : s.awaits m = s := by
        rw [State.awaits, hl]
        simp only [hawait]
      rw [hsame]
      exact ⟨l, [], h.stepped_same fun _ => rfl⟩
    | some next =>
      obtain ⟨es, new⟩ := next
      have hawaits : s.awaits m = (s.setLaunch m new).add (es.map .emitted) := by
        rw [State.awaits, hl]
        simp only [hawait]
        rfl
      obtain ⟨hwaits, hreader, htext⟩ := waits_of_await hawait
      rw [hawaits]
      obtain ⟨l', hstep⟩ := h.stepped_waiter new (es.map .emitted) hl hreader hwaits
        fun channel => by rw [eventsOf_map_emitted, htext]
      exact ⟨l', _, hstep⟩

/-- A monitor shows no output. -/
theorem textOn_round (m : Monitor) (present : Bool) (channel : Channel) :
    textOn channel (m.round present).1 = "" := by
  apply textOn_eq_empty
  intro e he
  rw [Monitor.round] at he
  split at he
  · exact absurd he List.not_mem_nil
  · split at he
    · rw [List.mem_singleton.1 he]
      rfl
    · exact absurd he List.not_mem_nil

theorem Watched.stepped_watches (S : System ω) (h : Watched s n l) (m : Nat) :
    ∃ ds, Stepped s (s.watches S m) n l l ds fun _ => [] := by
  cases hmonitor : s.monitors[m]? with
  | none =>
    have hsame : s.watches S m = s := by rw [State.watches, hmonitor]
    rw [hsame]
    exact ⟨[], h.stepped_same fun _ => rfl⟩
  | some monitor =>
    have hwatches : s.watches S m =
        (s.setMonitor m (monitor.round (s.isPresent S monitor.pid)).2).publish
          (monitor.round (s.isPresent S monitor.pid)).1 := by
      rw [State.watches, hmonitor]
    rw [hwatches]
    exact ⟨_, h.stepped_of_eq rfl rfl rfl rfl (fun _ => rfl) fun channel => by
      rw [eventsOf_map_emitted, textOn_round]⟩

/-- No forwarder finds the end of its pipe as long as the engine has its write ends. -/
theorem finishes_of_redirected (h : s.redirected = true) (channel : Channel) :
    s.finishes channel = s := by
  have hopen : s.isAtEnd channel = false := by
    rw [State.isAtEnd, State.isOpen, h, Bool.true_or]
    rfl
  rw [State.finishes]
  cases s.capture with
  | none => rfl
  | some c => simp only [hopen, Bool.false_eq_true, if_false]

/-- Whatever step is taken in which nothing fails, it moves bytes of the launch, or its waiter goes
on, or nothing happens to it. -/
theorem Watched.stepped (S : System ω) (h : Watched s n l) {step : Step}
    (hstep : step.fails = false) :
    ∃ l' ds, Stepped s (s.step S step) n l l' ds fun channel => s.intake n channel step := by
  cases step with
  | read m channel what => exact h.stepped_reads m channel what
  | store m channel k => exact h.stepped_stores m channel k
  | forward channel k => exact ⟨l, h.stepped_forwards channel k⟩
  | finish channel =>
    rw [State.step, finishes_of_redirected h.redirected]
    exact ⟨l, [], h.stepped_same fun _ => rfl⟩
  | reap m code => exact h.stepped_reaps m code
  | await m => exact h.stepped_awaits m
  | watch m => exact ⟨l, h.stepped_watches S m⟩
  | lose m channel => cases hstep
  | expire m => cases hstep

end Steps

/-! ## Steps in any order -/

/-- The bytes that steps take from the program of a launch on a channel. -/
def State.intakes (S : System ω) (s : State ω) (n : Nat) (channel : Channel) : List Step → Bytes
  | [] => []
  | step :: steps => s.intake n channel step ++ (s.step S step).intakes S n channel steps

end Supervisor
end DebugSession
