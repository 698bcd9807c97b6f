/-
The command loops end.  A front end that reads only when it needs a message, and gives up after so
many turns, does all that a front end does that knows its reads beforehand, if it may take one turn
more than its input has bytes: a turn that goes on takes a byte at least.  The loop inside a turn
takes bytes too, and what it sets aside for a body is bounded (`serve_ends`).
-/
import DebugSession.CommandLoop
import DebugSession.Proofs.Framing.Rounds

namespace DebugSession

open Framing (Item bytesOf stream Restarts)
open Text (Bytes)

variable {σ D M S : Type}

/-! ## Turns -/

namespace FrontEnd

/-- Serves a client in at most so many turns, each of which reads what it needs; none if the client
is not served to the end by then. -/
def serveWithin (F : FrontEnd σ D M) (G : Framing S M) :
    Nat → List Item → StateM (Run σ D) (Option (Except String Unit))
  | 0, _ => return none
  | n + 1, items => do
    match ← Run.onScene F.invite with
    | .error e => return some (.error e)
    | .ok _ =>
      let read := G.next G.start [] items
      Run.onScene (read.1.taken.forM Scene.take)
      match read.1.outcome with
      | .error e => return some (.error e)
      | .ok none => return some (.ok ())
      | .ok (some message) =>
        match ← F.answer message with
        | .error e => return some (.error e)
        | .ok .leave => return some (.ok ())
        | .ok .goOn => F.serveWithin G n read.2

theorem serveWithin_eq (F : FrontEnd σ D M) {G : Framing S M} (h : G.Restarts) {n : Nat}
    {items : List Item} (hn : (bytesOf items).length < n) :
    F.serveWithin G n items = some <$> F.serve (G.read G.start [] items) := by
  induction n generalizing items with
  | zero => exact absurd hn (Nat.not_lt_zero _)
  | succ n ih =>
    rw [serveWithin, Framing.read_eq_next h, serve, map_bind]
    refine bind_congr fun invited => ?_
    cases invited with
    | error e => rfl
    | ok _ =>
      simp only [map_bind]
      refine bind_congr fun _ => ?_
      cases houtcome : (G.next G.start [] items).1.outcome with
      | error e => rfl
      | ok message =>
        cases message with
        | none => rfl
        | some m =>
          simp only [map_bind]
          refine bind_congr fun answered => ?_
          cases answered with
          | error e => rfl
          | ok flow =>
            cases flow with
            | leave => rfl
            | goOn =>
              have hlt := Framing.length_bytesOf_next_lt h [] houtcome
              exact ih (by omega)

end FrontEnd

/-! ## The command loops in turns -/

namespace Mi

def loopWithin (E : Engine σ) (input : List Arrival) (n : Nat) :
    Work σ (Option (Except String Unit)) := do
  match ← write prompt with
  | .error e => return some (.error e)
  | .ok _ => (frontEnd E).serveWithin Line.framing n (input.flatMap Item.ofArrival)

theorem loopWithin_eq (E : Engine σ) {input : List Arrival} {n : Nat}
    (hn : (stream input).length < n) : loopWithin E input n = some <$> loop E input := by
  rw [← Framing.bytesOf_flatMap_ofArrival] at hn
  rw [loopWithin, loop, map_bind]
  refine bind_congr fun written => ?_
  cases written with
  | error e => rfl
  | ok _ => exact (frontEnd E).serveWithin_eq Line.restarts hn

end Mi

namespace Cli

def loopWithin (E : Engine σ) (input : List Arrival) (n : Nat) :
    Work σ (Option (Except String Unit)) :=
  (frontEnd E).serveWithin Line.framing n (input.flatMap Item.ofArrival)

end Cli

namespace Dap

theorem restarts : framing.Restarts := Message.restarts.map (Message.open? Json.parse)

def loopWithin (E : Engine σ) (input : List Arrival) (n : Nat) :
    Work σ (Option (Except String Unit)) :=
  (frontEnd E).serveWithin framing n (input.flatMap Item.ofArrival)

end Dap

namespace CommandLoop

/-- Serves the client with the front end of a mode, in at most so many turns. -/
def serveWithin (E : Engine σ) (preset : Option LaunchTarget) (input : List Arrival) (n : Nat) :
    Mode → StateM (Stage σ) (Option (Except String Unit))
  | .mi => Run.withDesk { preset } (Mi.loopWithin E input n)
  | .dap => Run.withDesk preset (Dap.loopWithin E input n)
  | .cli => Run.withDesk { preset } (Cli.loopWithin E input n)

theorem serveWithin_eq (E : Engine σ) (preset : Option LaunchTarget) {input : List Arrival}
    {n : Nat} (hn : (stream input).length < n) (mode : Mode) :
    serveWithin E preset input n mode = some <$> serve E preset input mode := by
  have hitems := hn
  rw [← Framing.bytesOf_flatMap_ofArrival] at hitems
  cases mode with
  | mi =>
    rw [serveWithin, Mi.loopWithin_eq E hn]
    rfl
  | dap =>
    rw [serveWithin, Dap.loopWithin, (Dap.frontEnd E).serveWithin_eq Dap.restarts hitems]
    rfl
  | cli =>
    rw [serveWithin, Cli.loopWithin, (Cli.frontEnd E).serveWithin_eq Line.restarts hitems]
    rfl

/-- Every command loop comes to its end on every input, whatever the engine answers.

A loop that reads only when it needs a message is done after at most one turn more than the input
has bytes, and has done by then all that there is to do.

A read of a line takes a byte at least, whether the line is text or not: the first line of the
bytes with its LF.  So does a read that brings a message or an error behind which reading goes on.

Each round of the loop that reads a header takes a byte at least.  So it needs at most one round
more than there are bytes, and the reader that works in rounds reads what the framing reads.

Never are more bytes set aside for a body than the greatest length, and a body that is too long is
skipped to the end of the stream, if that comes first, even where its length is the greatest of
all. -/
theorem serve_ends (E : Engine σ) (preset : Option LaunchTarget) :
    (∀ input n, (stream input).length < n → ∀ mode,
      serveWithin E preset input n mode = some <$> serve E preset input mode) ∧
    ((∀ items line, (Line.framing.next Line.framing.start [] items).1.outcome = .ok (some line) →
        (bytesOf (Line.framing.next Line.framing.start [] items).2).length <
          (bytesOf items).length) ∧
      (∀ bytes : Bytes, bytes ≠ [] →
        Line.framing.next Line.framing.start [] (bytes.map .byte) =
          (⟨[], .ok (some (Line.decode (Line.cut bytes).1))⟩, (Line.cut bytes).2.map .byte)) ∧
      ∀ items message, (Dap.framing.next Dap.framing.start [] items).1.outcome =
          .ok (some message) →
        (bytesOf (Dap.framing.next Dap.framing.start [] items).2).length <
          (bytesOf items).length) ∧
    ((∀ seen length bytes,
        (∀ seen' length' rest, Message.round seen length bytes = .again seen' length' rest →
          rest.length < bytes.length) ∧
        ∀ length' rest, Message.round seen length bytes = .over (.blank length' rest) →
          rest.length < bytes.length) ∧
      ∀ bytes n, bytes.length < n →
        Message.readMessage n bytes =
          some ((Message.framing.next Message.start [] (bytes.map .byte)).1.outcome,
            bytesOf (Message.framing.next Message.start [] (bytes.map .byte)).2)) ∧
    (∀ bytes left held, (Message.framing.run Message.start bytes).2 = .body left held →
      left + held.length ≤ Message.greatestLength) ∧
    (∀ (h : Message.HeaderBlock) (rest : Bytes), Message.greatestLength < h.bodyLength →
      rest.length < h.bodyLength →
      Message.framing.next Message.start [] ((h.bytes ++ rest).map .byte) =
        (⟨[], .ok (some (.tooLong h.bodyLength))⟩, [])) ∧
    ∀ rest : Bytes, rest.length < 18446744073709551615 →
      Message.framing.next Message.start []
          ((Text.Utf8.encode "Content-Length: 18446744073709551615\r\n\r\n" ++ rest).map .byte) =
        (⟨[], .ok (some (.tooLong 18446744073709551615))⟩, []) := by
  refine ⟨fun input n hn => serveWithin_eq E preset hn, ⟨?_, ?_, ?_⟩, ⟨?_, ?_⟩, ?_, ?_, ?_⟩
  · exact fun items line hline => Framing.length_bytesOf_next_lt Line.restarts [] hline
  · exact fun bytes hne => Line.next_eq_cut [] hne
  · exact fun items message hm => Framing.length_bytesOf_next_lt Dap.restarts [] hm
  · exact Message.length_round_lt
  · exact fun bytes n hn => Message.readMessage_eq_next [] hn
  · intro bytes left held hbody
    have hbounded := Message.bounded_run (s := Message.start) trivial bytes
    rw [hbody] at hbounded
    exact hbounded.2
  · exact fun h rest hlong hrest => Message.next_tooLong hlong hrest []
  · intro rest hrest
    have hlength : (Message.plainBlock 18446744073709551615).bodyLength = 18446744073709551615 :=
      Message.bodyLength_plainBlock (by decide)
    have hbytes : (Message.plainBlock 18446744073709551615).bytes =
        Text.Utf8.encode "Content-Length: 18446744073709551615\r\n\r\n" := by
      rw [Message.bytes_plainBlock]
      decide +kernel
    have hskip := Message.next_tooLong (h := Message.plainBlock 18446744073709551615)
      (by rw [hlength]; decide) (by rw [hlength]; exact hrest) []
    rw [hlength, hbytes] at hskip
    exact hskip

end CommandLoop
end DebugSession
