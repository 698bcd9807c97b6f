/-
A client whose stream is cut off.  The messages that arrived whole are answered as if nothing had
happened; the part of a message behind them is never taken for one, and ends the session with an
error unless the client has left before.
-/
import DebugSession.Proofs.Dap.Conversation
import DebugSession.Proofs.Framing.Cut

namespace DebugSession
namespace Dap

open DebugSession.Action (calls replies)
open Message (Readable cutEnding frameBytes open?)

variable {σ ι : Type}

theorem outcomes_cut {ε α : Type} {read : Text.Bytes → Except ε α} {payload : ι → String}
    {value : ι → α} {is : List ι} {input : List Arrival} {whole : List ι} {part : Text.Bytes}
    (h : ∀ i ∈ is, Readable read payload value i) (hreads : ∀ text, .failure text ∉ input)
    (hcut : Framing.Cut (frameBytes payload) is (Framing.stream input) whole part) :
    ((Message.framing.map (open? read)).readings input).map Reading.outcome =
      (whole.map fun i => .ok (value i)).map (fun m => .ok (some m)) ++
        [(cutEnding part).map fun _ => none] := by
  rw [Framing.outcomes_readings, Framing.heard_stream _ hreads, Message.messages_cut h hcut]

/-- Over an input that brings some messages and ends somehow, each message is answered in turn; then
nothing is answered any more, and the loop ends as the input does, unless the client has left. -/
theorem loop_of_outcomes (E : Engine σ) {input : List Arrival} {ms : List Incoming}
    {ending : Except String Unit}
    (hread : (framing.readings input).map Reading.outcome =
      ms.map (fun m => .ok (some m)) ++ [ending.map fun _ => none])
    {r : Run σ Desk} (hr : Good r) :
    ∃ turns f closing after, Conversation (Answers E) ms (standing r) turns f after ∧
      (loop E input r).1 = (if f = .leave then .ok () else ending) ∧
      (loop E input r).2.scene.trace = r.scene.trace ++ turns.flatMap Turn.acts ++ closing ∧
      replies closing = [] ∧ calls closing = [] := by
  obtain ⟨turns, f, mid, hconversation, -, hgrows, hend⟩ :=
    FrontEnd.serve_conversation (F := frontEnd E) rfl Good standing (Answers E)
      (fun m taken _ hr => answer_turn E m taken hr) hread hr
  rcases hend with ⟨rfl, hserve, -⟩ | ⟨rfl, last, hserve, -⟩
  · refine ⟨turns, .leave, [], _, hconversation, congrArg Prod.fst hserve, ?_, rfl, rfl⟩
    rw [List.append_nil, ← hgrows.trace]
    exact congrArg (fun x => x.2.scene.trace) hserve
  · obtain ⟨closing, hclosing⟩ := Scene.manner_any.stretch_takeAll last mid.scene
    refine ⟨turns, .goOn, closing, _, hconversation, congrArg Prod.fst hserve, ?_,
      hclosing.replies, hclosing.calls⟩
    rw [← hgrows.trace, ← hclosing.grows.trace]
    exact congrArg (fun x => x.2.scene.trace) hserve

/-- A stream of frames that ends anywhere.  Reading it brings the messages whose frames are whole,
and then its end, which is good only between two frames.  A session over it, in which all writes
succeed, answers the whole messages up to the first with which the client leaves; if there is none,
it answers all of them, and fails exactly if the stream ends inside a frame. -/
theorem loop_cut :
    (∀ {ι ε α : Type} (read : Text.Bytes → Except ε α) (payload : ι → String) (value : ι → α)
      (is : List ι) (input : List Arrival), (∀ i ∈ is, Readable read payload value i) →
      (∀ text, .failure text ∉ input) →
      Framing.stream input <+: is.flatMap (frameBytes payload) →
      ∃ whole part, Framing.Cut (frameBytes payload) is (Framing.stream input) whole part ∧
        ((Message.framing.map (open? read)).readings input).map Reading.outcome =
          whole.map (fun i => .ok (some (.ok (value i)))) ++
            [(cutEnding part).map fun _ => none]) ∧
    (∀ {ι σ : Type} (payload : ι → String) (value : ι → Json) (is : List ι) (E : Engine σ)
      (input : List Arrival) (r : Run σ Desk), (∀ i ∈ is, Readable Json.parse payload value i) →
      (∀ text, .failure text ∉ input) →
      Framing.stream input <+: is.flatMap (frameBytes payload) →
      r.scene.mode = .dap → (∀ n, r.scene.writeError n = none) →
      ∃ whole part turns f closing after,
        Framing.Cut (frameBytes payload) is (Framing.stream input) whole part ∧
        Conversation (Answers E) (whole.map fun i => .ok (value i)) (standing r) turns f after ∧
        (loop E input r).1 = (if f = .leave then .ok () else cutEnding part) ∧
        (loop E input r).2.scene.trace = r.scene.trace ++ turns.flatMap Turn.acts ++ closing ∧
        replies closing = [] ∧ calls closing = [] ∧
        (f = .leave → ∃ (front : List ι) (i : ι) (later : List ι), whole = front ++ i :: later ∧
          (∀ j ∈ front, ¬ Incoming.Leaves (.ok (value j))) ∧ Incoming.Leaves (.ok (value i)) ∧
          turns.length = front.length + 1) ∧
        (f = .goOn → (∀ i ∈ whole, ¬ Incoming.Leaves (.ok (value i))) ∧
          turns.length = whole.length ∧ ((∃ e, (loop E input r).1 = .error e) ↔ part ≠ []))) := by
  refine ⟨?_, ?_⟩
  · intro ι ε α read payload value is input h hreads hpre
    obtain ⟨whole, part, hcut⟩ := Framing.exists_cut (frameBytes payload) hpre
    refine ⟨whole, part, hcut, ?_⟩
    rw [outcomes_cut h hreads hcut, List.map_map]
    rfl
  · intro ι σ payload value is E input r h hreads hpre hmode hw
    obtain ⟨whole, part, hcut⟩ := Framing.exists_cut (frameBytes payload) hpre
    obtain ⟨turns, f, closing, after, hconversation, hresult, htrace, hreplies, hcalls⟩ :=
      loop_of_outcomes E (outcomes_cut h hreads hcut) ⟨hmode, hw⟩
    obtain ⟨hleave, hgoOn⟩ :=
      hconversation.ends Incoming.Leaves fun _ _ _ _ _ ht => ht.leaves
    refine ⟨whole, part, turns, f, closing, after, hcut, hconversation, hresult, htrace, hreplies,
      hcalls, fun hf => ?_, fun hf => ?_⟩
    · obtain ⟨front, m, later, hsplit, hfront, hm, hlength⟩ := hleave hf
      obtain ⟨front, rest, rfl, rfl, hrest⟩ := List.map_eq_append_iff.1 hsplit
      obtain ⟨i, later, rfl, rfl, -⟩ := List.map_eq_cons_iff.1 hrest
      exact ⟨front, i, later, rfl, fun j hj => hfront _ (List.mem_map_of_mem hj), hm,
        hlength.trans (by rw [List.length_map])⟩
    · obtain ⟨hnone, hlength⟩ := hgoOn hf
      refine ⟨fun i hi => hnone _ (List.mem_map_of_mem hi), hlength.trans (List.length_map _), ?_⟩
      rw [hresult, hf, if_neg (by decide), ne_eq, ← Message.cutEnding_eq_ok_iff]
      cases cutEnding part with
      | ok _ => simp
      | error e => simp

/-- What a text that is read stands for. -/
def readAs (text : String) : Json := (Json.parse (Text.Utf8.encode text)).toOption.getD .null

theorem readable_of_isOk {text : String} (hne : text ≠ "")
    (hle : text.utf8ByteSize ≤ Message.greatestLength)
    (h : (Json.parse (Text.Utf8.encode text)).isOk = true) :
    Readable Json.parse id readAs text := by
  refine ⟨hne, hle, ?_⟩
  show Json.parse (Text.Utf8.encode text) = _
  rw [readAs]
  cases hread : Json.parse (Text.Utf8.encode text) with
  | ok v => rfl
  | error e =>
    rw [hread] at h
    exact absurd h Bool.false_ne_true

def starting : String := (requestJson 7 "initialize").render
def leaving : String := (requestJson 8 "disconnect").render

/-- Two requests of which the second is cut off in its body. -/
def cutInput : List Arrival :=
  [.bytes (frameBytes id starting), .flush, .bytes ((frameBytes id leaving).take 40)]

/-- The client does not leave with a request that did not arrive whole. -/
theorem loop_cut_disconnect :
    ∃ turns after, Conversation (Answers gettingReady) [.ok (readAs starting)]
        (standing freshRun) turns .goOn after ∧
      (loop gettingReady cutInput freshRun).1 = .error Message.cutInBody := by
  have hresult : (loop gettingReady cutInput freshRun).1 = .error Message.cutInBody := by
    decide +kernel
  have hread : ∀ text ∈ [starting, leaving], Readable Json.parse id readAs text :=
    List.forall_mem_cons.2 ⟨readable_of_isOk (by decide +kernel) (by decide +kernel)
      (by decide +kernel), List.forall_mem_singleton.2 (readable_of_isOk (by decide +kernel)
        (by decide +kernel) (by decide +kernel))⟩
  have hlong : (frameBytes id starting).length < (Framing.stream cutInput).length := by
    decide +kernel
  obtain ⟨whole, part, turns, f, closing, after, hcut, hconversation, hend, -, -, -, -, hgoOn⟩ :=
    loop_cut.2 id readAs [starting, leaving] gettingReady cutInput freshRun hread
      (fun text => by simp [cutInput]) (by decide +kernel) rfl fun _ => rfl
  cases f with
  | leave => exact nomatch hresult.symm.trans hend
  | goOn =>
    have hpart : part ≠ [] := (hgoOn rfl).2.2.1 ⟨_, hresult⟩
    rcases hcut.inside with ⟨-, hnil⟩ | ⟨i, later, hsplit, hpre, -⟩
    · exact absurd hnil hpart
    · cases whole with
      | nil =>
        obtain ⟨rfl, -⟩ := List.cons.inj hsplit
        exact absurd (hcut.eq ▸ hpre.length_le) (Nat.not_le.2 hlong)
      | cons j whole =>
        obtain ⟨rfl, hsplit⟩ := List.cons.inj hsplit
        cases whole with
        | nil => exact ⟨turns, after, hconversation, hresult⟩
        | cons k whole => exact absurd (List.cons.inj hsplit).2 (by simp)

end Dap
end DebugSession
