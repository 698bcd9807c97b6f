/-
A program whose output is not redirected, whatever else goes on.  Its launch runs a course of its
own: what it shows depends on the steps of its readers and its waiter only, and in every order of
these all output is shown, and only once all of it is, the end.
-/
import DebugSession.Proofs.Supervisor.Moves
import DebugSession.Proofs.Supervisor.Steps
import DebugSession.Proofs.Text.Decoder

namespace DebugSession
namespace Supervisor

open Redirect (Capture Read chunks)
open Text (Bytes)
open Text.Utf8 (Decoder lossy)
open Occurrence (stepOf? stepsOf)

variable {ω : Type}

/-! ## The course of a launch -/

namespace Launch

/-- What a launch that reports to the sink shows with a step, and how it goes on. -/
def take (l : Launch) : Step → List Event × Launch
  | .read _ channel what =>
    if (l.reader channel).phase = .reading then
      (((l.reader channel).read l.sink what).1,
        l.setReader ((l.reader channel).read l.sink what).2 channel)
    else ([], l)
  | .reap _ code =>
    if l.waiter = .waiting then ([], { l with waiter := .reaped code }) else ([], l)
  | .await _ => (l.await none).getD ([], l)
  | _ => ([], l)

def goes (l : Launch) : List Step → List Event × Launch
  | [] => ([], l)
  | step :: steps =>
    ((l.take step).1 ++ ((l.take step).2.goes steps).1, ((l.take step).2.goes steps).2)

/-- The readers of a launch report to the sink. -/
structure Unpiped (l : Launch) : Prop where
  outlet : ∀ channel, (l.reader channel).outlet = .sink
  phase : ∀ channel rest size, (l.reader channel).phase ≠ .writing rest size

namespace Unpiped

variable {l : Launch}

theorem not_redirected (h : l.Unpiped) : l.redirected = false := by
  rw [redirected, show l.stdout.outlet = .sink from h.outlet .stdout]
  rfl

theorem await_eq (h : l.Unpiped) (c : Option Capture) : l.await c = l.await none := by
  rw [await, await, h.not_redirected, Bool.false_and, Bool.false_and]

theorem setReader (h : l.Unpiped) {r : Reader} (channel : Channel) (houtlet : r.outlet = .sink)
    (hphase : ∀ rest size, r.phase ≠ .writing rest size) : (l.setReader r channel).Unpiped := by
  constructor <;>
    · intro other
      by_cases ho : other = channel
      · rw [ho, reader_setReader]
        assumption
      · rw [reader_setReader_ne _ _ ho]
        first | exact h.outlet other | exact h.phase other

theorem read (h : l.Unpiped) (channel : Channel) (what : Read) :
    (l.setReader ((l.reader channel).read l.sink what).2 channel).Unpiped := by
  have houtlet := h.outlet channel
  have hphase := h.phase channel
  have hclose : (l.setReader ((l.reader channel).close l.sink).2 channel).Unpiped :=
    h.setReader channel houtlet fun _ _ => ReaderPhase.noConfusion
  cases what with
  | data chunk =>
    cases chunk with
    | nil => exact hclose
    | cons b bytes =>
      rw [read_chunk _ _ (List.cons_ne_nil b bytes), houtlet]
      exact h.setReader channel rfl hphase
  | interrupted => exact h.setReader channel houtlet hphase
  | failed text => exact hclose

theorem of_reader_eq (h : l.Unpiped) {l' : Launch}
    (hreader : ∀ channel, l'.reader channel = l.reader channel) : l'.Unpiped :=
  ⟨fun channel => by rw [hreader, h.outlet], fun channel => by rw [hreader]; exact h.phase channel⟩

theorem take (h : l.Unpiped) (step : Step) : (l.take step).2.Unpiped := by
  cases step with
  | read m channel what =>
    rw [Launch.take]
    split
    · exact h.read channel what
    · exact h
  | reap m code =>
    rw [Launch.take]
    split
    · exact h.of_reader_eq fun channel => by cases channel <;> rfl
    · exact h
  | await m =>
    rw [Launch.take]
    cases hawait : l.await none with
    | none => exact h
    | some next => exact h.of_reader_eq (waits_of_await hawait).2.1
  | _ => exact h

end Unpiped
end Launch

section Course

variable {s : State ω} {n : Nat} {l : Launch}

theorem getElem?_setLaunch (h : s.launches[n]? = some l) (l' : Launch) :
    (s.setLaunch n l').launches[n]? = some l' := by
  obtain ⟨hn, -⟩ := List.getElem?_eq_some_iff.1 h
  exact List.getElem?_set_self hn

/-- With a step of its own, the launch goes on and shows what it shows. -/
theorem step_own (S : System ω) (h : s.launches[n]? = some l) (hl : l.Unpiped) {step : Step}
    (hstep : step.launch? = some n) :
    (s.step S step).launches[n]? = some (l.take step).2 ∧
      ∃ ds, (s.step S step).trace = s.trace ++ ds ∧ eventsOf ds = (l.take step).1 := by
  have hnothing : s.launches[n]? = some l ∧ ∃ ds, s.trace = s.trace ++ ds ∧ eventsOf ds = [] :=
    ⟨h, [], (List.append_nil _).symm, rfl⟩
  cases step with
  | read m channel what =>
    obtain rfl := Option.some.inj hstep
    rw [State.step, State.reads_eq h, Launch.take]
    split
    · exact ⟨getElem?_setLaunch h _, _, rfl, eventsOf_map_emitted _⟩
    · exact hnothing
  | store m channel k =>
    obtain rfl := Option.some.inj hstep
    rw [State.step, stores_of_none h fun c => store_of_not_writing (hl.phase channel) c k]
    exact hnothing
  | reap m code =>
    obtain rfl := Option.some.inj hstep
    rw [State.step, State.reaps_eq h, Launch.take]
    split
    · exact ⟨getElem?_setLaunch h _, _, rfl, rfl⟩
    · exact hnothing
  | await m =>
    obtain rfl := Option.some.inj hstep
    rw [State.step, State.awaits_eq h, hl.await_eq, Launch.take]
    cases l.await none with
    | none => exact hnothing
    | some next => exact ⟨getElem?_setLaunch h _, _, rfl, eventsOf_map_emitted _⟩
  | lose m channel =>
    obtain rfl := Option.some.inj hstep
    have hlose : (l.reader channel).lose = none := by
      rw [Reader.lose]
      split
      · next rest size hwriting => exact absurd hwriting (hl.phase channel rest size)
      · rfl
    rw [State.step, State.loses, h]
    simp only [hlose]
    exact hnothing
  | expire m =>
    obtain rfl := Option.some.inj hstep
    have hexpire : l.expire = none := by
      rw [Launch.expire]
      split
      · rw [hl.not_redirected]
        rfl
      · rfl
    rw [State.step, State.expires, h]
    simp only [hexpire]
    exact hnothing
  | forward channel k => cases hstep
  | finish channel => cases hstep
  | watch m => cases hstep

/-- Whatever happens, the launch runs its own course. -/
theorem course (S : System ω) (h : s.launches[n]? = some l) (hl : l.Unpiped)
    (later : List (Occurrence ω)) :
    (s.occurAll S later).launches[n]? = some (l.goes (stepsOf n later)).2 ∧
      s.shown S (fun o => (stepOf? n o).isSome) later = (l.goes (stepsOf n later)).1 := by
  induction later generalizing s l with
  | nil => exact ⟨h, rfl⟩
  | cons o later ih =>
    cases ho : stepOf? n o with
    | none =>
      have hsteps : stepsOf n (o :: later) = stepsOf n later := List.filterMap_cons_none ho
      obtain ⟨hlaunch, hshown⟩ := ih (launch_occur_other S h ho) hl
      rw [hsteps, State.shown, ho]
      exact ⟨hlaunch, hshown⟩
    | some step =>
      have hsteps : stepsOf n (o :: later) = step :: stepsOf n later :=
        List.filterMap_cons_some ho
      obtain ⟨rfl, hstep⟩ := Occurrence.eq_stepped_of_stepOf ho
      obtain ⟨hnext, ds, htrace, hevents⟩ := step_own S h hl hstep
      obtain ⟨hlaunch, hshown⟩ := ih (s := s.occur S (.stepped step)) hnext (hl.take step)
      have hshows : s.shows S (.stepped step) = (l.take step).1 := by
        have hocc : (s.occur S (.stepped step)).trace = s.trace ++ ds := htrace
        rw [State.shows, hocc, List.drop_left, hevents]
      rw [hsteps, State.shown, ho, hshows, hshown]
      exact ⟨hlaunch, rfl⟩

end Course

/-! ## What a course shows -/

/-- The reads of a channel among steps. -/
def readsOn (channel : Channel) (steps : List Step) : List Read :=
  steps.filterMap fun
    | .read _ c what => if c = channel then some what else none
    | _ => none

/-- The exit code that the waiter learns, none before it does. -/
def codeOf (steps : List Step) : Option Int :=
  steps.findSome? fun
    | .reap _ code => some code
    | _ => none

/-- Output only, none of it empty. -/
def Outputs (es : List Event) : Prop :=
  ∀ e ∈ es, ∃ channel text, text ≠ "" ∧ e = .output channel text

namespace WaiterPhase

/-- What is announced of a program that ended with a code. -/
def told : WaiterPhase → Option Int → List Event
  | .announced, some code => [.exited code]
  | .over, some code => [.exited code, .terminated]
  | _, _ => []

/-- The waiter goes by the code that it learnt. -/
def Knows : WaiterPhase → Option Int → Prop
  | .waiting, code => code = none
  | .reaped code, code' => code' = some code
  | .joined code, code' => code' = some code
  | .ended code, code' => code' = some code
  | .announced, code => code.isSome = true
  | .over, code => code.isSome = true

theorem told_of_not_joined {w : WaiterPhase} (h : ¬ w.Joined) (code : Option Int) :
    w.told code = [] := by
  cases w <;> first | rfl | exact absurd trivial h

theorem knows_isSome {w : WaiterPhase} {code : Option Int} (h : w.Knows code)
    (hw : w ≠ .waiting) : code.isSome = true := by
  cases w with
  | waiting => exact absurd rfl hw
  | reaped => exact Option.isSome_of_eq_some h
  | joined => exact Option.isSome_of_eq_some h
  | ended => exact Option.isSome_of_eq_some h
  | announced => exact h
  | «over» => exact h

end WaiterPhase

/-- How a channel stands whose reader publishes what it reads.  Until the end of the stream the
text lacks what the decoder holds; then it is all there. -/
structure Direct (taken : Bytes) (text : String) (r : Reader) : Prop where
  outlet : r.outlet = .sink
  shown : r.phase = .reading ∧ text = String.ofList (Decoder.run {} taken).1 ∧
      r.decoder = (Decoder.run {} taken).2 ∨
    r.phase = .done ∧ text = lossy taken

namespace Direct

variable {taken : Bytes} {text : String} {r : Reader}

theorem not_writing (h : Direct taken text r) (rest : Bytes) (size : Nat) :
    r.phase ≠ .writing rest size := by
  intro hwriting
  rcases h.shown with ⟨hphase, -⟩ | ⟨hphase, -⟩ <;>
    exact absurd (hphase.symm.trans hwriting) ReaderPhase.noConfusion

/-- At the end of the stream, what was held back is published too. -/
theorem close (h : Direct taken text r) (hphase : r.phase = .reading) :
    Direct taken (text ++ textOn r.channel (r.close true).1) (r.close true).2 := by
  rcases h.shown with ⟨-, htext, hdecoder⟩ | ⟨hdone, -⟩
  · have hreads := Decoder.reads_run (p := []) (.inl rfl) taken
    have hall := hreads.later []
    rw [List.nil_append, List.append_nil, List.append_nil] at hall
    have hclose : (r.close true).1 = r.decoder.finish.1.toList.map (.output r.channel) := rfl
    refine ⟨h.outlet, .inr ⟨rfl, ?_⟩⟩
    rw [hclose, textOn_map_output, hdecoder, (Decoder.finish_of_held hreads.held).1, htext,
      ← String.ofList_append, Text.Utf8.lossy_eq_ofList_shown, hall]
  · exact absurd (hphase.symm.trans hdone) ReaderPhase.noConfusion

theorem read (h : Direct taken text r) (hphase : r.phase = .reading) (what : Read) :
    Direct (taken ++ brought what) (text ++ textOn r.channel (r.read true what).1)
      (r.read true what).2 := by
  have hclosed : Direct (taken ++ []) (text ++ textOn r.channel (r.close true).1)
      (r.close true).2 := by
    rw [List.append_nil]
    exact h.close hphase
  cases what with
  | data chunk =>
    cases chunk with
    | nil => exact hclosed
    | cons b bytes =>
      rcases h.shown with ⟨-, htext, hdecoder⟩ | ⟨hdone, -⟩
      · have hread : r.read true (.data (b :: bytes)) =
            (Redirect.outputEvents r.channel (r.decoder.decode (b :: bytes)).1,
              { r with decoder := (r.decoder.decode (b :: bytes)).2 }) := by
          rw [read_chunk r true (List.cons_ne_nil b bytes), h.outlet]
        have hrun : Decoder.run {} (taken ++ b :: bytes) = _ := Decoder.run_append {} taken _
        rw [← hdecoder] at hrun
        rw [hread, textOn_outputEvents]
        refine ⟨h.outlet, .inl ⟨hphase, ?_, ?_⟩⟩
        · show text ++ _ = String.ofList (Decoder.run {} (taken ++ b :: bytes)).1
          rw [hrun, htext]
          exact String.ofList_append.symm
        · show _ = (Decoder.run {} (taken ++ b :: bytes)).2
          rw [hrun]
          rfl
      · exact absurd (hphase.symm.trans hdone) ReaderPhase.noConfusion
  | interrupted =>
    show Direct (taken ++ []) (text ++ textOn r.channel []) r
    rw [textOn_nil, List.append_nil, String.append_empty]
    exact h
  | failed text => exact hclosed

end Direct

/-- How a launch stands after these reads and with this exit code, when it showed these events. -/
structure Told (reads : Channel → List Read) (code : Option Int) (es : List Event) (l : Launch) :
    Prop where
  sink : l.sink = true
  channel : ∀ channel, (l.reader channel).channel = channel
  direct : ∀ channel, Direct (chunks (reads channel)).flatten (textOn channel es)
    (l.reader channel)
  done : ∀ channel, (l.reader channel).phase = .done ↔ (reads channel).any Read.ends = true
  joined : l.waiter.Joined → l.readersDone = true
  knows : l.waiter.Knows code
  events : ∃ outs, Outputs outs ∧ es = outs ++ l.waiter.told code

theorem outputs_outputEvents (channel : Channel) (text : String) :
    Outputs (Redirect.outputEvents channel text) := by
  intro e he
  rw [Redirect.outputEvents] at he
  split at he
  · exact absurd he List.not_mem_nil
  · next hne =>
    exact ⟨channel, text, fun hempty => hne (String.isEmpty_iff.2 hempty), List.mem_singleton.1 he⟩

theorem outputs_read {r : Reader} {sink : Bool} (houtlet : r.outlet = .sink) (what : Read) :
    Outputs (r.read sink what).1 := by
  have hclose : Outputs (r.close sink).1 := by
    intro e he
    rw [Reader.close] at he
    cases sink with
    | false => exact absurd he List.not_mem_nil
    | true =>
      obtain ⟨text, htext, rfl⟩ := List.mem_map.1 he
      rw [Option.mem_toList, Text.Utf8.Decoder.finish] at htext
      split at htext
      · cases htext
      · exact ⟨r.channel, text, Option.some.inj htext ▸ by decide, rfl⟩
  cases what with
  | data chunk =>
    cases chunk with
    | nil => exact hclose
    | cons b bytes =>
      rw [read_chunk r sink (List.cons_ne_nil b bytes), houtlet]
      exact outputs_outputEvents r.channel _
  | interrupted => exact fun e he => absurd he List.not_mem_nil
  | failed text => exact hclose

theorem done_read {r : Reader} {sink : Bool} (houtlet : r.outlet = .sink)
    (hphase : r.phase = .reading) (what : Read) :
    (r.read sink what).2.phase = .done ↔ what.ends = true := by
  cases what with
  | data chunk =>
    cases chunk with
    | nil => exact ⟨fun _ => rfl, fun _ => rfl⟩
    | cons b bytes =>
      rw [read_chunk r sink (List.cons_ne_nil b bytes), houtlet]
      constructor
      · intro h
        exact absurd (hphase.symm.trans h) ReaderPhase.noConfusion
      · intro h
        exact nomatch h
  | interrupted =>
    constructor
    · intro h
      exact absurd (hphase.symm.trans h) ReaderPhase.noConfusion
    · intro h
      exact nomatch h
  | failed text => exact ⟨fun _ => rfl, fun _ => rfl⟩

/-- A read that is not behind the end of its stream adds what it brings. -/
theorem flatten_chunks_concat {reads : List Read} (h : reads.any Read.ends = false) (what : Read) :
    (chunks (reads ++ [what])).flatten = (chunks reads).flatten ++ brought what := by
  rw [Redirect.chunks_append, h, if_neg Bool.false_ne_true, List.flatten_append]
  congr 1
  cases what with
  | data chunk =>
    cases chunk with
    | nil => rfl
    | cons b bytes => exact List.append_nil _
  | _ => rfl

namespace Told

variable {reads : Channel → List Read} {code code' : Option Int} {es more : List Event}
  {l l' : Launch}

theorem unpiped (h : Told reads code es l) : l.Unpiped :=
  ⟨fun channel => (h.direct channel).outlet, fun channel => (h.direct channel).not_writing⟩

/-- The waiter goes on, and shows what it tells. -/
theorem waited (h : Told reads code es l) (hsink : l'.sink = l.sink)
    (hreader : ∀ channel, l'.reader channel = l.reader channel)
    (hjoined : l'.waiter.Joined → l.readersDone = true) (hknows : l'.waiter.Knows code')
    (htold : l'.waiter.told code' = l.waiter.told code ++ more)
    (htext : ∀ channel, textOn channel more = "") : Told reads code' (es ++ more) l' := by
  refine ⟨hsink.trans h.sink, fun channel => ?_, fun channel => ?_, fun channel => ?_, ?_, hknows,
    ?_⟩
  · rw [hreader, h.channel]
  · rw [hreader, textOn_append, htext, String.append_empty]
    exact h.direct channel
  · rw [hreader, h.done]
  · intro hw
    have hdone := hjoined hw
    rw [Launch.readersDone_iff] at hdone ⊢
    exact fun channel => (hreader channel).symm ▸ hdone channel
  · obtain ⟨outs, houts, rfl⟩ := h.events
    exact ⟨outs, houts, by rw [htold, List.append_assoc]⟩

theorem read (h : Told reads code es l) (channel : Channel) (what : Read)
    (hreading : (l.reader channel).phase = .reading) :
    Told (fun c => reads c ++ if channel = c then [what] else []) code
      (es ++ ((l.reader channel).read l.sink what).1)
      (l.setReader ((l.reader channel).read l.sink what).2 channel) := by
  have houtlet := (h.direct channel).outlet
  have hends : (reads channel).any Read.ends = false := by
    rw [← Bool.not_eq_true, ← h.done, hreading]
    exact ReaderPhase.noConfusion
  -- A reader is at work, so that the waiter did not join the readers.
  have hwaiter : ¬ l.waiter.Joined := by
    intro hjoined
    have hdone := Launch.readersDone_iff.1 (h.joined hjoined) channel
    exact absurd (hreading.symm.trans hdone) ReaderPhase.noConfusion
  have hsame : (l.setReader ((l.reader channel).read l.sink what).2 channel).waiter = l.waiter := by
    cases channel <;> rfl
  have hsink : (l.setReader ((l.reader channel).read l.sink what).2 channel).sink = l.sink := by
    cases channel <;> rfl
  refine ⟨hsink.trans h.sink, fun other => ?_, fun other => ?_, fun other => ?_, ?_, ?_, ?_⟩
  · by_cases ho : other = channel
    · rw [ho, Launch.reader_setReader, channel_read, h.channel]
    · rw [Launch.reader_setReader_ne _ _ ho, h.channel]
  · by_cases ho : other = channel
    · subst ho
      have hread := (h.direct other).read hreading what
      rw [h.channel, ← flatten_chunks_concat hends, ← textOn_append] at hread
      rw [Launch.reader_setReader, if_pos rfl, h.sink]
      exact hread
    · have htext : textOn other ((l.reader channel).read l.sink what).1 = "" := by
        apply textOn_eq_empty
        intro e he
        obtain ⟨text, rfl⟩ := eq_output_of_mem_read he
        rw [h.channel]
        exact if_neg (Ne.symm ho)
      rw [Launch.reader_setReader_ne _ _ ho, if_neg (Ne.symm ho), List.append_nil, textOn_append,
        htext, String.append_empty]
      exact h.direct other
  · by_cases ho : other = channel
    · subst ho
      rw [Launch.reader_setReader, if_pos rfl, List.any_append, hends, Bool.false_or,
        done_read houtlet hreading, List.any_cons, List.any_nil, Bool.or_false]
    · rw [Launch.reader_setReader_ne _ _ ho, if_neg (Ne.symm ho), List.append_nil, h.done]
  · rw [hsame]
    exact fun hjoined => absurd hjoined hwaiter
  · rw [hsame]
    exact h.knows
  · obtain ⟨outs, houts, hes⟩ := h.events
    rw [WaiterPhase.told_of_not_joined hwaiter, List.append_nil] at hes
    refine ⟨outs ++ ((l.reader channel).read l.sink what).1, ?_, ?_⟩
    · intro e he
      rcases List.mem_append.1 he with hbefore | hnow
      · exact houts e hbefore
      · exact outputs_read houtlet what e hnow
    · rw [hsame, WaiterPhase.told_of_not_joined hwaiter, List.append_nil, hes]

theorem await (h : Told reads code es l) :
    Told reads code (es ++ ((l.await none).getD ([], l)).1) ((l.await none).getD ([], l)).2 := by
  have hknows := h.knows
  have hstay : Told reads code (es ++ []) l := by
    rw [List.append_nil]
    exact h
  rw [h.unpiped.await_eq none |>.symm, Launch.await]
  cases hw : l.waiter with
  | waiting => exact hstay
  | reaped c =>
    rw [hw] at hknows
    simp only
    split
    · next hdone =>
      refine h.waited rfl (fun channel => by cases channel <;> rfl) (fun _ => hdone) hknows ?_
        fun _ => rfl
      rw [hw]
      rfl
    · exact hstay
  | joined c =>
    rw [hw] at hknows
    simp only
    split
    · exact hstay
    · refine h.waited rfl (fun channel => by cases channel <;> rfl)
        (fun _ => h.joined (hw ▸ trivial)) hknows ?_ fun _ => rfl
      rw [hw]
      rfl
  | ended c =>
    rw [hw] at hknows
    obtain rfl : code = some c := hknows
    simp only [Launch.announce, h.sink, if_true, Option.getD_some]
    refine h.waited h.sink.symm (fun channel => by cases channel <;> rfl)
      (fun _ => h.joined (hw ▸ trivial)) rfl ?_ fun _ => rfl
    rw [hw]
    rfl
  | announced =>
    rw [hw] at hknows
    obtain ⟨c, rfl⟩ := Option.isSome_iff_exists.1 hknows
    simp only [Launch.announce, h.sink, if_true, Option.getD_some]
    refine h.waited h.sink.symm (fun channel => by cases channel <;> rfl)
      (fun _ => h.joined (hw ▸ trivial)) rfl ?_ fun _ => rfl
    rw [hw]
    rfl
  | «over» => exact hstay

theorem read_done (h : Told reads code es l) (channel : Channel) (what : Read)
    (hnot : (l.reader channel).phase ≠ .reading) :
    Told (fun c => reads c ++ if channel = c then [what] else []) code es l := by
  have hends : (reads channel).any Read.ends = true := by
    rw [← h.done]
    cases hphase : (l.reader channel).phase with
    | reading => exact absurd hphase hnot
    | writing rest size => exact absurd hphase ((h.direct channel).not_writing rest size)
    | done => rfl
  refine ⟨h.sink, h.channel, fun other => ?_, fun other => ?_, h.joined, h.knows, h.events⟩
  · by_cases ho : channel = other
    · subst ho
      rw [Redirect.chunks_append, if_pos hends]
      exact h.direct channel
    · rw [if_neg ho, List.append_nil]
      exact h.direct other
  · by_cases ho : channel = other
    · subst ho
      rw [h.done, List.any_append, hends, Bool.true_or]
    · rw [if_neg ho, List.append_nil, h.done]

theorem take (h : Told reads code es l) (step : Step) :
    Told (fun c => reads c ++ readsOn c [step]) (code.or (codeOf [step]))
      (es ++ (l.take step).1) (l.take step).2 := by
  have hnothing : Told (fun c => reads c ++ []) (code.or none) (es ++ []) l := by
    simp only [List.append_nil, Option.or_none]
    exact h
  cases step with
  | read m channel what =>
    have hreads : (fun c => reads c ++ readsOn c [.read m channel what]) =
        fun c => reads c ++ if channel = c then [what] else [] := by
      funext c
      by_cases hc : channel = c <;> simp [readsOn, hc]
    rw [hreads, show codeOf [.read m channel what] = none from rfl, Option.or_none, Launch.take]
    split
    · next hreading => exact h.read channel what hreading
    · next hnot =>
      rw [List.append_nil]
      exact h.read_done channel what hnot
  | reap m code' =>
    rw [Launch.take]
    split
    · next hwaiting =>
      have hknows := h.knows
      rw [hwaiting] at hknows
      obtain rfl : code = none := hknows
      rw [show (fun c => reads c ++ readsOn c [.reap m code']) = reads from
        funext fun _ => List.append_nil _]
      refine h.waited rfl (fun channel => by cases channel <;> rfl) False.elim rfl ?_ fun _ => rfl
      rw [hwaiting]
      rfl
    · next hnot =>
      obtain ⟨c, rfl⟩ := Option.isSome_iff_exists.1 (WaiterPhase.knows_isSome h.knows hnot)
      exact hnothing
  | await m =>
    rw [show (fun c => reads c ++ readsOn c [.await m]) = reads from
      funext fun _ => List.append_nil _, show codeOf [.await m] = none from rfl, Option.or_none,
      Launch.take]
    exact h.await
  | _ => exact hnothing

/-- The books of a launch after steps in any order. -/
theorem goes (h : Told reads code es l) (steps : List Step) :
    Told (fun c => reads c ++ readsOn c steps) (code.or (codeOf steps)) (es ++ (l.goes steps).1)
      (l.goes steps).2 := by
  induction steps generalizing reads code es l with
  | nil =>
    simp only [readsOn, codeOf, List.filterMap_nil, List.findSome?_nil, List.append_nil,
      Option.or_none]
    rw [Launch.goes, List.append_nil]
    exact h
  | cons step steps ih =>
    have hlater := ih (h.take step)
    have hreads : (fun c => reads c ++ readsOn c [step] ++ readsOn c steps) =
        fun c => reads c ++ readsOn c (step :: steps) := by
      funext c
      rw [List.append_assoc, readsOn, readsOn, readsOn, ← List.filterMap_append]
      rfl
    have hcode :
        (code.or (codeOf [step])).or (codeOf steps) = code.or (codeOf (step :: steps)) := by
      rw [Option.or_assoc, codeOf, codeOf, codeOf, ← List.findSome?_append]
      rfl
    rw [hreads, hcode, List.append_assoc] at hlater
    exact hlater

end Told

theorem told_new (pid : UInt32) : Told (fun _ => []) none [] (Launch.new pid true false) := by
  refine ⟨rfl, fun channel => ?_, fun channel => ⟨?_, .inl ⟨?_, rfl, ?_⟩⟩,
    fun channel => ?_, False.elim, rfl, [], fun e he => absurd he List.not_mem_nil, rfl⟩
  · cases channel <;> rfl
  · cases channel <;> rfl
  · cases channel <;> rfl
  · cases channel <;> rfl
  · cases channel <;> exact ⟨nofun, nofun⟩

/-! ## The end of a course -/

/-- How often the waiter goes on yet. -/
def WaiterPhase.left : WaiterPhase → Nat
  | .waiting => 5
  | .reaped _ => 4
  | .joined _ => 3
  | .ended _ => 2
  | .announced => 1
  | .over => 0

namespace Launch

variable {l : Launch}

/-- Once the process is reaped and both readers are done, the waiter goes on whenever it may. -/
theorem left_take (hl : l.Unpiped) (hdone : l.readersDone = true) (hw : l.waiter ≠ .waiting)
    (step : Step) (m : Nat) :
    (l.take step).2.readersDone = true ∧ (l.take step).2.waiter ≠ .waiting ∧
      (l.take step).2.waiter.left ≤ l.waiter.left - [step].count (.await m) := by
  have hstay : l.readersDone = true ∧ l.waiter ≠ .waiting ∧ l.waiter.left ≤ l.waiter.left - 0 :=
    ⟨hdone, hw, Nat.le_refl _⟩
  cases step with
  | read k channel what =>
    have hphase := readersDone_iff.1 hdone channel
    rw [take, if_neg (hphase ▸ ReaderPhase.noConfusion)]
    exact hstay
  | reap k code =>
    rw [take, if_neg hw]
    exact hstay
  | await k =>
    have hcount : [Step.await k].count (.await m) ≤ 1 := List.count_le_length
    have hafter : (l.take (.await k)).2.readersDone = true ∧
        (l.take (.await k)).2.waiter ≠ .waiting ∧
        (l.take (.await k)).2.waiter.left = l.waiter.left - 1 := by
      rw [take, Launch.await]
      cases hphase : l.waiter with
      | waiting => exact absurd hphase hw
      | reaped code =>
        simp only [if_pos hdone]
        exact ⟨hdone, nofun, rfl⟩
      | joined code =>
        simp only [hl.not_redirected, Bool.false_and, Bool.false_eq_true, if_false]
        exact ⟨hdone, nofun, rfl⟩
      | ended code => exact ⟨hdone, nofun, rfl⟩
      | announced => exact ⟨hdone, nofun, rfl⟩
      | «over» => exact ⟨hdone, hw, congrArg WaiterPhase.left hphase⟩
    exact ⟨hafter.1, hafter.2.1, by omega⟩
  | _ => exact hstay

theorem left_goes (hl : l.Unpiped) (hdone : l.readersDone = true) (hw : l.waiter ≠ .waiting)
    (steps : List Step) (m : Nat) :
    (l.goes steps).2.waiter.left ≤ l.waiter.left - steps.count (.await m) := by
  induction steps generalizing l with
  | nil => exact Nat.le_refl _
  | cons step steps ih =>
    obtain ⟨hdone', hw', hle⟩ := left_take hl hdone hw step m
    have hlater := ih (hl.take step) hdone' hw'
    have hcount : ([step] ++ steps).count (.await m) =
        [step].count (.await m) + steps.count (.await m) := List.count_append
    rw [List.singleton_append] at hcount
    show ((l.take step).2.goes steps).2.waiter.left ≤ _
    omega

end Launch

namespace Told

variable {reads : Channel → List Read} {code : Option Int} {es : List Event} {l : Launch}

/-- Once the readers are joined, the streams are at their ends and all of their text is shown. -/
theorem complete (h : Told reads code es l) (hjoined : l.waiter.Joined) (channel : Channel) :
    (reads channel).any Read.ends = true ∧
      textOn channel es = lossy (chunks (reads channel)).flatten := by
  have hphase := Launch.readersDone_iff.1 (h.joined hjoined) channel
  refine ⟨(h.done channel).1 hphase, ?_⟩
  rcases (h.direct channel).shown with ⟨hreading, -⟩ | ⟨-, htext⟩
  · exact absurd (hphase.symm.trans hreading) ReaderPhase.noConfusion
  · exact htext

/-- Output comes first; what follows tells the end, and comes when the output is complete. -/
theorem outputs_first (h : Told reads code es l) :
    ∃ outs ends, Outputs outs ∧ es = outs ++ ends ∧ ends = l.waiter.told code ∧
      (ends = [] ∨ ∃ c, code = some c ∧ (ends = [.exited c] ∨ ends = [.exited c, .terminated]) ∧
        ∀ channel, (reads channel).any Read.ends = true ∧
          textOn channel outs = lossy (chunks (reads channel)).flatten) := by
  obtain ⟨outs, houts, hes⟩ := h.events
  have hcomplete : l.waiter.Joined → (∀ channel, textOn channel (l.waiter.told code) = "") →
      ∀ channel, (reads channel).any Read.ends = true ∧
        textOn channel outs = lossy (chunks (reads channel)).flatten := by
    intro hjoined htold channel
    obtain ⟨hends, htext⟩ := h.complete hjoined channel
    rw [hes, textOn_append, htold, String.append_empty] at htext
    exact ⟨hends, htext⟩
  have hknows := h.knows
  refine ⟨outs, _, houts, hes, rfl, ?_⟩
  cases hw : l.waiter with
  | announced =>
    rw [hw] at hknows hcomplete
    obtain ⟨c, rfl⟩ := Option.isSome_iff_exists.1 hknows
    exact .inr ⟨c, rfl, .inl rfl, hcomplete trivial fun _ => rfl⟩
  | «over» =>
    rw [hw] at hknows hcomplete
    obtain ⟨c, rfl⟩ := Option.isSome_iff_exists.1 hknows
    exact .inr ⟨c, rfl, .inr rfl, hcomplete trivial fun _ => rfl⟩
  | _ => exact .inl rfl

/-- Nothing keeps the waiter once the streams are at their ends and the process is reaped. -/
theorem over_of_goes {c : Int} (h : Told reads (some c) es l)
    (hends : ∀ channel, (reads channel).any Read.ends = true) {steps : List Step} {m : Nat}
    (hcount : 4 ≤ steps.count (.await m)) : (l.goes steps).2.waiter = .over := by
  have hdone : l.readersDone = true :=
    Launch.readersDone_iff.2 fun channel => (h.done channel).2 (hends channel)
  have hwaiting : l.waiter ≠ .waiting := by
    intro hw
    have hknows := h.knows
    rw [hw] at hknows
    exact nomatch hknows
  have hleft : l.waiter.left ≤ 4 := by
    cases hw : l.waiter with
    | waiting => exact absurd hw hwaiting
    | _ => simp [WaiterPhase.left]
  have hgoes := Launch.left_goes h.unpiped hdone hwaiting steps m
  cases hover : (l.goes steps).2.waiter with
  | «over» => rfl
  | _ =>
    rw [hover, WaiterPhase.left] at hgoes
    omega

end Told

theorem Launch.goes_append (l : Launch) (a b : List Step) :
    (l.goes (a ++ b)).2 = ((l.goes a).2.goes b).2 := by
  induction a generalizing l with
  | nil => rfl
  | cons step a ih => exact ih (l.take step).2

theorem occur_configurationDone (S : System ω) {s : State ω} {program : String}
    {args : List String} {pid : UInt32} {system : ω} (hready : s.ready = true)
    (hsink : s.sink = true) (hredirected : s.redirected = false)
    (hdebugee : s.debugee = .pending program args)
    (hspawn : S.spawn s.system program args = (.ok pid, system)) :
    (s.occur S (.called .configurationDone)).launches =
        s.launches ++ [Launch.new pid true false] ∧
      (s.occur S (.called .configurationDone)).trace = s.trace ++
        ([.processStarted pid ((fileName? program).getD program), .continued none] :
          List Event).map .emitted := by
  have hstart : s.occur S (.called .configurationDone) =
      (start S program args { s with debugee := .none }).2 := by
    show (configurationDone S s).2 = _
    rw [configurationDone_eq, hready, hdebugee]
    rfl
  rw [hstart, start_eq]
  simp only [hspawn, State.reported, State.add, hsink, if_true, State.addLaunch, hredirected,
    List.append_assoc]
  exact ⟨trivial, rfl⟩

/-- A program that is started with a sink and without a redirect server, whatever calls are made,
steps are taken and things pass in whatever order.  Its start is shown, then output and nothing
else, none of it empty, and when the end is, both streams are at their ends and the output on each
channel is all of its text.  Once the streams are at their ends and the process is reaped, the end
is announced with at most four steps of the waiter. -/
theorem shown_by_launch (S : System ω) {s : State ω} {program : String} {args : List String}
    {pid : UInt32} {system : ω} (hready : s.ready = true) (hsink : s.sink = true)
    (hredirected : s.redirected = false) (hdebugee : s.debugee = .pending program args)
    (hspawn : S.spawn s.system program args = (.ok pid, system)) (later : List (Occurrence ω)) :
    let n := s.launches.length
    let shown := (s.occur S (.called .configurationDone)).shown S fun o => (stepOf? n o).isSome
    let reads := fun channel => readsOn channel (stepsOf n later)
    s.shows S (.called .configurationDone) =
        [.processStarted pid ((fileName? program).getD program), .continued none] ∧
      (∃ outs ends, Outputs outs ∧ shown later = outs ++ ends ∧
        (ends = [] ∨ ∃ code, codeOf (stepsOf n later) = some code ∧
          (ends = [.exited code] ∨ ends = [.exited code, .terminated]) ∧
          ∀ channel, (reads channel).any Read.ends = true ∧
            textOn channel outs = lossy (chunks (reads channel)).flatten)) ∧
      ∀ code, codeOf (stepsOf n later) = some code →
        (∀ channel, (reads channel).any Read.ends = true) →
        ∀ more, 4 ≤ (stepsOf n more).count (.await n) →
          ∃ outs, Outputs outs ∧ shown (later ++ more) = outs ++ [.exited code, .terminated] ∧
            ∀ channel, textOn channel outs = lossy (chunks (reads channel)).flatten := by
  intro n shown reads
  obtain ⟨hlaunches, htrace⟩ :=
    occur_configurationDone S hready hsink hredirected hdebugee hspawn
  have hlaunch : (s.occur S (.called .configurationDone)).launches[n]? =
      some (Launch.new pid true false) := by
    rw [hlaunches]
    exact List.getElem?_concat_length
  have htold : ∀ all, Told (fun channel => readsOn channel (stepsOf n all))
      (codeOf (stepsOf n all)) (shown all)
      ((Launch.new pid true false).goes (stepsOf n all)).2 := by
    intro all
    have hgoes := (told_new pid).goes (stepsOf n all)
    rw [← (course S hlaunch (told_new pid).unpiped all).2] at hgoes
    exact hgoes
  refine ⟨?_, ?_, fun code hcode hends more hcount => ?_⟩
  · rw [State.shows, htrace, List.drop_left, eventsOf_map_emitted]
  · obtain ⟨outs, ends, houts, hes, -, htells⟩ := (htold later).outputs_first
    exact ⟨outs, ends, houts, hes, htells⟩
  · have hnow := htold later
    rw [hcode] at hnow
    have hover := hnow.over_of_goes hends hcount
    rw [← Launch.goes_append, ← Occurrence.stepsOf_append] at hover
    have hreads : ∀ channel, chunks (readsOn channel (stepsOf n (later ++ more))) =
        chunks (reads channel) := by
      intro channel
      rw [Occurrence.stepsOf_append, readsOn, List.filterMap_append, Redirect.chunks_append]
      exact if_pos (hends channel)
    have hsame : codeOf (stepsOf n (later ++ more)) = some code := by
      rw [Occurrence.stepsOf_append, codeOf, List.findSome?_append]
      exact congrArg (Option.or · _) hcode
    obtain ⟨outs, ends, houts, hes, htells, hcomplete⟩ := (htold (later ++ more)).outputs_first
    rw [hover, hsame] at htells
    subst htells
    refine ⟨outs, houts, hes, fun channel => ?_⟩
    rcases hcomplete with hnone | ⟨-, -, -, hcomplete⟩
    · exact nomatch hnone
    · rw [← hreads]
      exact (hcomplete channel).2

/-- An operating system where every program starts, as the process with this number. -/
def starting (pid : UInt32) : System Unit where
  probe _ _ := .ok ()
  signal _ _ _ := (.ok (), ())
  spawn _ _ _ := (.ok pid, ())
  pathExists _ _ := true
  which _ _ := .error ""

/-- An engine with a program that waits for the end of the configuration. -/
def configured : State Unit where
  system := ()
  sink := true
  ready := true
  debugee := .pending "/bin/printf" []

/-- A character that comes in two reads with a pause in between, and one that is cut off at the end
of the other stream. -/
def interrupted : List (Occurrence Unit) :=
  [.stepped (.read 0 .stdout (.data [0xC3])), .called .pause,
    .stepped (.read 0 .stderr (.data [0xE2, 0x82])), .stepped (.read 0 .stdout (.data [0xA9])),
    .stepped (.reap 0 3), .stepped (.read 0 .stdout (.data [])), .stepped (.await 0),
    .stepped (.read 0 .stderr (.data []))]

theorem shown_by_launch_interrupted :
    configured.ready = true ∧ configured.sink = true ∧ configured.redirected = false ∧
      configured.debugee = .pending "/bin/printf" [] ∧
      (starting 7).spawn configured.system "/bin/printf" [] = (.ok 7, ()) ∧
      ∃ outs, Outputs outs ∧
        (configured.occur (starting 7) (.called .configurationDone)).shown (starting 7)
            (fun o => (stepOf? 0 o).isSome)
            (interrupted ++ List.replicate 4 (.stepped (.await 0))) =
          outs ++ [.exited 3, .terminated] ∧
        textOn .stdout outs = "é" ∧ textOn .stderr outs = "\uFFFD" := by
  obtain ⟨-, -, hover⟩ := shown_by_launch (starting 7) (s := configured) rfl rfl rfl rfl rfl
    interrupted
  obtain ⟨outs, houts, hshown, htext⟩ := hover 3 (by decide +kernel)
    (fun channel => by cases channel <;> decide +kernel)
    (List.replicate 4 (.stepped (.await 0))) (by decide +kernel)
  refine ⟨rfl, rfl, rfl, rfl, rfl, outs, houts, hshown, ?_, ?_⟩
  · exact (htext .stdout).trans (by decide +kernel)
  · exact (htext .stderr).trans (by decide +kernel)

end Supervisor
end DebugSession
