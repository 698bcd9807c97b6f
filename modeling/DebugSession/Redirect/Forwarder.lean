/-
Forwarding a captured stream: each chunk is decoded and published as an output event, then it counts
as delivered.
-/
import DebugSession.Event
import DebugSession.Redirect.Pump

namespace DebugSession
namespace Redirect

open Text (Bytes)

/-- The event of a text, none if there is no text. -/
def outputEvents (channel : Channel) (text : String) : List Event :=
  if text.isEmpty then [] else [.output channel text]

structure Forwarder where
  channel : Channel
  decoder : Text.Utf8.Decoder := {}
  /-- The number of bytes whose text is published, as far as they complete characters. -/
  delivered : Nat := 0
deriving Repr, DecidableEq, Inhabited

namespace Forwarder

def forward (f : Forwarder) (chunk : Bytes) : List Event × Forwarder :=
  let (text, decoder) := f.decoder.decode chunk
  (outputEvents f.channel text, { f with decoder, delivered := f.delivered + chunk.length })

/-- The end of the stream: a character that it cuts short is published too. -/
def finish (f : Forwarder) : List Event × Forwarder :=
  let (text, decoder) := f.decoder.finish
  (text.toList.map (.output f.channel), { f with decoder })

def forwardAll (f : Forwarder) : List Bytes → List Event × Forwarder
  | [] => ([], f)
  | chunk :: chunks =>
    let (events, f) := f.forward chunk
    let (later, f) := f.forwardAll chunks
    (events ++ later, f)

theorem forwardAll_append (f : Forwarder) (a b : List Bytes) :
    f.forwardAll (a ++ b) =
      ((f.forwardAll a).1 ++ ((f.forwardAll a).2.forwardAll b).1,
        ((f.forwardAll a).2.forwardAll b).2) := by
  induction a generalizing f with
  | nil => simp [forwardAll]
  | cons chunk a ih => simp [forwardAll, ih, List.append_assoc]

/-- Every byte that is forwarded counts as delivered. -/
theorem delivered_forwardAll (f : Forwarder) (chunks : List Bytes) :
    (f.forwardAll chunks).2.delivered = f.delivered + chunks.flatten.length := by
  induction chunks generalizing f with
  | nil => rfl
  | cons chunk chunks ih => simp [forwardAll, ih, forward, Nat.add_assoc]

/-- All that a stream of reads publishes. -/
def run (f : Forwarder) (reads : List Read) : List Event × Forwarder :=
  let (events, f) := f.forwardAll (chunks reads)
  let (last, f) := f.finish
  (events ++ last, f)

end Forwarder
end Redirect
end DebugSession
