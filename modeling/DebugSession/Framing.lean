/-
What a client sends, and how it is read.  A front end takes the entries of its input one at a time
and only when it needs more bytes; a framing cuts the bytes into messages.
-/
import DebugSession.Event
import DebugSession.Log.Record
import DebugSession.Text.Utf8

namespace DebugSession

open Text (Bytes)

/-- An entry of the input.  Next to bytes it may hold what happens elsewhere while the front end
waits for the next bytes. -/
inductive Arrival where
  | bytes (bs : Bytes)
  /-- The engine reports an event on its own. -/
  | event (e : Event)
  | record (r : Log.Record)
  | flush
  | failure (text : String)
deriving Repr, DecidableEq, Inhabited

/-- How a stream of bytes is cut into messages of type `α`. -/
structure Framing (S α : Type) where
  start : S
  /-- Takes a byte, which may complete a message. -/
  push : S → UInt8 → Option α × S
  /-- What the end of the stream makes of a state: perhaps a last message, and then an error if the
  stream ends where it must not. -/
  finish : S → Option α × Except String Unit

/-- One read of a front end. -/
structure Reading (α : Type) where
  /-- The entries that were taken to complete it. -/
  taken : List Arrival
  /-- A message, none at the end of the input, or the error with which reading fails. -/
  outcome : Except String (Option α)
deriving Repr

namespace Framing

variable {S α : Type}

/-- The messages that bytes complete, and the state after them. -/
def run (F : Framing S α) (s : S) : Bytes → List α × S
  | [] => ([], s)
  | b :: bytes =>
    match F.push s b with
    | (none, next) => F.run next bytes
    | (some message, next) =>
      let (later, final) := F.run next bytes
      (message :: later, final)

theorem run_append (F : Framing S α) (s : S) (a b : Bytes) :
    F.run s (a ++ b) = ((F.run s a).1 ++ (F.run (F.run s a).2 b).1, (F.run (F.run s a).2 b).2) := by
  induction a generalizing s with
  | nil => simp [run]
  | cons x a ih =>
    simp only [List.cons_append, run]
    split <;> simp [ih]

/-- All messages of a stream, and how it ends. -/
def messages (F : Framing S α) (bytes : Bytes) : List α × Except String Unit :=
  let (complete, s) := F.run F.start bytes
  let (last, ending) := F.finish s
  (complete ++ last.toList, ending)

/-- What a front end meets while it reads: the begin of an entry, and each byte of it. -/
inductive Item where
  | take (a : Arrival)
  | byte (b : UInt8)

def Item.ofArrival : Arrival → List Item
  | .bytes bs => .take (.bytes bs) :: bs.map .byte
  | a => [.take a]

/-- The reads from a state on, when `taken` entries, the last one first, belong to the next. -/
def read (F : Framing S α) (s : S) (taken : List Arrival) : List Item → List (Reading α)
  | [] =>
    let (last, ending) := F.finish s
    let final := ending.map fun _ => none
    match last with
    | some m => [⟨taken.reverse, .ok (some m)⟩, ⟨[], final⟩]
    | none => [⟨taken.reverse, final⟩]
  | .take (.failure text) :: _ => [⟨(.failure text :: taken).reverse, .error text⟩]
  | .take a :: items => F.read s (a :: taken) items
  | .byte b :: items =>
    match F.push s b with
    | (some m, s) => ⟨taken.reverse, .ok (some m)⟩ :: F.read s [] items
    | (none, s) => F.read s taken items

/-- The reads of a front end over its input, up to the one that ends it. -/
def readings (F : Framing S α) (input : List Arrival) : List (Reading α) :=
  F.read F.start [] (input.flatMap Item.ofArrival)

def map {β : Type} (f : α → β) (F : Framing S α) : Framing S β where
  start := F.start
  push s b := let (m, s) := F.push s b; (m.map f, s)
  finish s := let (m, e) := F.finish s; (m.map f, e)

end Framing

end DebugSession
