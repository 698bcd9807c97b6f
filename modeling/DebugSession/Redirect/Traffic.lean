/-
The capture at work, with every part of the way a step of its own: writes enter the pipes in pieces
and are counted when they are complete, forwarders take chunks out, publish their text and count
them, and a waiter compares the counts whenever it is woken.
-/
import DebugSession.Redirect.Capture

namespace DebugSession
namespace Redirect

open Text (Bytes)

/-- Who writes on a channel; nobody else can meanwhile. -/
inductive Writer where
  | idle
  /-- A write whose first part is in the pipe. -/
  | writing (entered rest : Bytes)
deriving Repr, DecidableEq, Inhabited

/-- What a forwarder has in hand. -/
inductive Hand where
  | empty
  | taken (chunk : Bytes)
  /-- A chunk of so many bytes whose text is published. -/
  | shown (count : Nat)
deriving Repr, DecidableEq, Inhabited

/-- A channel of the capture. -/
structure Lane where
  pipe : Pipe
  writer : Writer := .idle
  hand : Hand := .empty
  /-- The chunks of all complete writes. -/
  complete : List Bytes := []
deriving Repr, DecidableEq, Inhabited

inductive Move where
  /-- A write begins. -/
  | begin (chunk : Bytes)
  /-- Bytes of a write enter the pipe, at most so many. -/
  | enter (count : Nat)
  /-- A write all of which is in the pipe is counted. -/
  | count
  /-- The forwarder takes bytes out of the pipe, at most so many. -/
  | take (count : Nat)
  /-- The forwarder publishes the text of its chunk. -/
  | publish
  /-- The forwarder counts its chunk. -/
  | deliver
deriving Repr, DecidableEq, Inhabited

namespace Lane

/-- Makes a move.  One that cannot be made changes nothing. -/
def move (l : Lane) : Move → List Event × Lane
  | .begin chunk =>
    match l.writer with
    | .idle => ([], { l with writer := .writing [] chunk })
    | .writing _ _ => ([], l)
  | .enter k =>
    match l.writer with
    | .idle => ([], l)
    | .writing entered rest =>
      ([], { l with
        pipe := l.pipe.accept (rest.take k)
        writer := .writing (entered ++ rest.take k) (rest.drop k) })
  | .count =>
    match l.writer with
    | .writing entered [] =>
      ([], { l with
        pipe := l.pipe.count entered.length
        writer := .idle
        complete := l.complete ++ [entered] })
    | _ => ([], l)
  | .take k =>
    let size := min k bufferSize
    if l.hand = .empty ∧ l.pipe.held.take size ≠ [] then
      ([], { l with
        pipe := { l.pipe with held := l.pipe.held.drop size }
        hand := .taken (l.pipe.held.take size) })
    else ([], l)
  | .publish =>
    match l.hand with
    | .taken chunk =>
      let f := l.pipe.forwarder
      let (text, decoder) := f.decoder.decode chunk
      (outputEvents f.channel text,
        { l with
          pipe := { l.pipe with forwarder := { f with decoder } }
          hand := .shown chunk.length })
    | _ => ([], l)
  | .deliver =>
    match l.hand with
    | .shown n =>
      let f := l.pipe.forwarder
      ([], { l with
        pipe := { l.pipe with forwarder := { f with delivered := f.delivered + n } }
        hand := .empty })
    | _ => ([], l)

def moves (l : Lane) : List Move → List Event × Lane
  | [] => ([], l)
  | m :: ms => ((l.move m).1 ++ ((l.move m).2.moves ms).1, ((l.move m).2.moves ms).2)

/-- All bytes that entered the pipe. -/
def stream (l : Lane) : Bytes :=
  l.complete.flatten ++
    match l.writer with
    | .idle => []
    | .writing entered _ => entered

/-- The forwarder has nothing to do. -/
def Clear (l : Lane) : Prop := l.pipe.held = [] ∧ l.hand = .empty

end Lane

structure Traffic where
  stdout : Lane := { pipe := .new .stdout }
  stderr : Lane := { pipe := .new .stderr }
deriving Repr, DecidableEq, Inhabited

namespace Traffic

def lane (t : Traffic) : Channel → Lane
  | .stdout => t.stdout
  | .stderr => t.stderr

def setLane (t : Traffic) (l : Lane) : Channel → Traffic
  | .stdout => { t with stdout := l }
  | .stderr => { t with stderr := l }

/-- Moves on both channels, in their order. -/
def run (t : Traffic) : List (Channel × Move) → List Event × Traffic
  | [] => ([], t)
  | (channel, m) :: moves =>
    let (events, l) := (t.lane channel).move m
    let (later, t) := (t.setLane l channel).run moves
    (events ++ later, t)

def capture (t : Traffic) : Capture := { stdout := t.stdout.pipe, stderr := t.stderr.pipe }

/-- A waiter that is woken looks at the counts before it looks at the time. -/
def look (t : Traffic) (expired : Bool) : Option Bool :=
  if t.capture.isDelivered then some true else if expired then some false else none

/-- Waits until everything written is delivered or the time is up.  Each round is what happens
before the waiter looks, and whether its time is up then. -/
def wait (t : Traffic) : List (List (Channel × Move) × Bool) → Option Bool
  | [] => none
  | (moves, expired) :: rounds =>
    let t := (t.run moves).2
    match t.look expired with
    | some answer => some answer
    | none => t.wait rounds

end Traffic
end Redirect
end DebugSession
