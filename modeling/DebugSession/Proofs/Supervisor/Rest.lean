/-
An engine with nothing on the way from a program to the client.  Until another program is started,
whatever calls are made, steps are taken and things pass show no output, but for what a decoder
holds back: its forwarder publishes that at the end of its pipe, once the engine has let go of its
write ends.
-/
import DebugSession.Proofs.Supervisor.Calls
import DebugSession.Proofs.Supervisor.Moves
import DebugSession.Proofs.Supervisor.Steps

namespace DebugSession
namespace Supervisor

open Redirect (Capture Pipe)
open Text.Utf8 (Decoder)

variable {ω : Type} {s s' s'' : State ω}

/-! ## Calls and notices -/

/-- Nothing that is done between two states is output, or concerns the capture. -/
structure State.Mute (s s' : State ω) : Prop where
  capture : s'.capture = s.capture
  trace : ∃ ds, s'.trace = s.trace ++ ds ∧ ∀ channel, textOn channel (eventsOf ds) = ""

namespace State.Mute

theorem of_eq (hcapture : s'.capture = s.capture) (htrace : s'.trace = s.trace) : s.Mute s' :=
  ⟨hcapture, [], htrace.trans (List.append_nil _).symm, fun _ => rfl⟩

theorem refl (s : State ω) : s.Mute s := of_eq rfl rfl

theorem trans (h : s.Mute s') (h' : s'.Mute s'') : s.Mute s'' := by
  obtain ⟨ds, htrace, hds⟩ := h.trace
  obtain ⟨more, hmore, hlater⟩ := h'.trace
  refine ⟨h'.capture.trans h.capture, ds ++ more, ?_, fun channel => ?_⟩
  · rw [hmore, htrace, List.append_assoc]
  · rw [eventsOf_append, textOn_append, hds, hlater]
    rfl

theorem reported (s : State ω) {e : Event} (he : ∀ channel, outputText? channel e = none) :
    s.Mute (s.reported e) := by
  rw [State.reported]
  split
  · refine ⟨rfl, [.emitted e], rfl, fun channel => textOn_eq_empty ?_⟩
    intro e' hmem
    rw [List.mem_singleton.1 hmem, he]
  · exact refl s

theorem sent (S : System ω) (s : State ω) (pid : UInt32) (signal : Signal) :
    s.Mute (s.sent S pid signal) :=
  ⟨rfl, _, rfl, fun _ => rfl⟩

theorem givenUp (s : State ω) : s.Mute s.givenUp := by
  rw [State.givenUp]
  cases s.debugee with
  | attached pid monitor =>
    cases monitor with
    | none => exact of_eq rfl rfl
    | some m =>
      simp only [State.cancelMonitor]
      cases s.monitors[m]? <;> exact of_eq rfl rfl
  | _ => exact of_eq rfl rfl

end State.Mute

/-- Nothing is on its way from a program to the client. -/
structure AtRest (s : State ω) (c : Capture) : Prop where
  capture : s.capture = some c
  readers : ∀ l ∈ s.launches, l.readersDone = true
  held : ∀ channel, (c.pipe channel).held = []
  counted : ∀ channel, (c.pipe channel).written = (c.pipe channel).forwarder.delivered
  wired : ∀ channel, (c.pipe channel).forwarder.channel = channel

/-- The text that a decoder holds back: a character that is cut off, if there is one. -/
def heldBack (d : Decoder) : String := if d.pending.isEmpty then "" else "\uFFFD"

/-- Between two states at rest the forwarders of some channels find the ends of their pipes and
publish what their decoders held back; and no other output is shown. -/
structure Rested (s : State ω) (c : Capture) (s' : State ω) (c' : Capture)
    (ended : Channel → Bool) : Prop where
  rest : AtRest s' c'
  trace : ∃ ds, s'.trace = s.trace ++ ds ∧ ∀ channel, textOn channel (eventsOf ds) =
    if ended channel then heldBack (c.pipe channel).forwarder.decoder else ""
  decoder : ∀ channel, (c'.pipe channel).forwarder.decoder =
    if ended channel then {} else (c.pipe channel).forwarder.decoder

/-- The forwarder of a channel finds the end of its pipe with an occurrence. -/
def State.ends (s : State ω) (channel : Channel) : Occurrence ω → Bool
  | .stepped (.finish c) => c = channel && s.isAtEnd channel
  | _ => false

section Rests

variable {c c' c'' : Capture} {ended ended' : Channel → Bool}

theorem Rested.trans (h : Rested s c s' c' ended) (h' : Rested s' c' s'' c'' ended') :
    Rested s c s'' c'' fun channel => ended channel || ended' channel := by
  obtain ⟨ds, htrace, hds⟩ := h.trace
  obtain ⟨more, hmore, hlater⟩ := h'.trace
  refine ⟨h'.rest, ⟨ds ++ more, ?_, fun channel => ?_⟩, fun channel => ?_⟩
  · rw [hmore, htrace, List.append_assoc]
  · -- a decoder that has published what it held back holds nothing any more
    rw [eventsOf_append, textOn_append, hds, hlater, h.decoder]
    cases ended channel with
    | false => exact String.empty_append
    | true => cases ended' channel <;> exact String.append_empty
  · rw [h'.decoder, h.decoder]
    cases ended channel <;> cases ended' channel <;> rfl

namespace AtRest

theorem done (h : AtRest s c) {n : Nat} {l : Launch} (hl : s.launches[n]? = some l) :
    l.readersDone = true :=
  h.readers l (List.mem_of_getElem? hl)

theorem finish (h : AtRest s c) (channel : Channel) (ds : List Deed) :
    AtRest { s with
        capture := some (c.setPipe (c.pipe channel).finish.2 channel), trace := s.trace ++ ds }
      (c.setPipe (c.pipe channel).finish.2 channel) := by
  refine ⟨rfl, h.readers, fun other => ?_, fun other => ?_, fun other => ?_⟩
  · rw [pipe_setPipe_eq_ite]
    split
    · exact h.held channel
    · exact h.held other
  · rw [pipe_setPipe_eq_ite]
    split
    · exact h.counted channel
    · exact h.counted other
  · rw [pipe_setPipe_eq_ite]
    split
    · next ho => exact (h.wired channel).trans ho
    · exact h.wired other

end AtRest

end Rests

end Supervisor
end DebugSession
