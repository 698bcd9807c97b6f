/-
What runs beside the engine for a program it started: a reader for each standard stream, and a
waiter that announces the end once both readers are done and the output is published.
-/
import DebugSession.Redirect.Capture

namespace DebugSession
namespace Supervisor

open Redirect (Read outputEvents Capture)
open Text (Bytes)

/-- Where a reader's output goes, as it was when the program started. -/
inductive Outlet where
  /-- Into the capture of the redirect server. -/
  | capture
  /-- To the sink of events. -/
  | sink
  | nowhere
deriving Repr, DecidableEq, Inhabited

inductive ReaderPhase where
  | reading
  /-- A chunk of `size` bytes is on its way into a capture pipe, `rest` is not in it yet. -/
  | writing (rest : Bytes) (size : Nat)
  | done
deriving Repr, DecidableEq, Inhabited

/-- Copies a standard stream of the program. -/
structure Reader where
  channel : Channel
  outlet : Outlet
  decoder : Text.Utf8.Decoder := {}
  phase : ReaderPhase := .reading
deriving Repr, DecidableEq, Inhabited

namespace Reader

/-- The stream is at its end.  Text that was held back is published even if the sink got none
before. -/
def close (r : Reader) (sink : Bool) : List Event × Reader :=
  let (text, decoder) := r.decoder.finish
  (if sink then text.toList.map (.output r.channel) else [], { r with decoder, phase := .done })

/-- Handles what a read brings. -/
def read (r : Reader) (sink : Bool) : Read → List Event × Reader
  | .data [] => r.close sink
  | .data chunk =>
    match r.outlet with
    | .capture => ([], { r with phase := .writing chunk chunk.length })
    | .sink =>
      let (text, decoder) := r.decoder.decode chunk
      (outputEvents r.channel text, { r with decoder })
    | .nowhere => ([], r)
  | .interrupted => ([], r)
  | .failed _ => r.close sink

/-- Puts at most `n` bytes of a chunk into the capture, and counts the chunk once all of it is
there. -/
def store (r : Reader) (c : Capture) (n : Nat) : Option (Capture × Reader) :=
  match r.phase with
  | .writing rest size =>
    let p := (c.pipe r.channel).accept (rest.take n)
    let left := rest.drop n
    if left.isEmpty then
      some (c.setPipe (p.count size) r.channel, { r with phase := .reading })
    else some (c.setPipe p r.channel, { r with phase := .writing left size })
  | _ => none

/-- A write into the capture fails: what is not in the pipe yet is lost, and the chunk is not
counted. -/
def lose (r : Reader) : Option Reader :=
  match r.phase with
  | .writing _ _ => some { r with phase := .reading }
  | _ => none

end Reader

/-- How far the waiter is. -/
inductive WaiterPhase where
  /-- The program runs, or its end was not noticed yet. -/
  | waiting
  /-- The process is reaped; the readers may still be at work. -/
  | reaped (code : Int)
  /-- The readers are done; output may be on its way to the client. -/
  | joined (code : Int)
  /-- The program counts as ended. -/
  | ended (code : Int)
  | announced
  | over
deriving Repr, DecidableEq, Inhabited

structure Launch where
  pid : UInt32
  /-- Whether events have somewhere to go. -/
  sink : Bool
  stdout : Reader
  stderr : Reader
  waiter : WaiterPhase := .waiting
  /-- What the engine goes by to tell whether the program still runs. -/
  exited : Bool := false
deriving Repr, DecidableEq, Inhabited

namespace Launch

def outlet (sink redirected : Bool) : Outlet :=
  if redirected then .capture else if sink then .sink else .nowhere

def new (pid : UInt32) (sink redirected : Bool) : Launch :=
  let o := outlet sink redirected
  { pid, sink, stdout := { channel := .stdout, outlet := o },
    stderr := { channel := .stderr, outlet := o } }

def reader (l : Launch) : Channel → Reader
  | .stdout => l.stdout
  | .stderr => l.stderr

def setReader (l : Launch) (r : Reader) : Channel → Launch
  | .stdout => { l with stdout := r }
  | .stderr => { l with stderr := r }

/-- Whether the output of the program goes through the capture. -/
def redirected (l : Launch) : Bool := l.stdout.outlet == .capture

def readersDone (l : Launch) : Bool := l.stdout.phase == .done && l.stderr.phase == .done

/-- Whether a reader or the waiter still has write ends of the capture. -/
def holdsStreams (l : Launch) : Bool :=
  l.redirected &&
    match l.waiter with
    | .ended _ | .announced | .over => !l.readersDone
    | _ => true

def announce (l : Launch) (e : Event) : List Event := if l.sink then [e] else []

/-- The next step of the waiter after the process is reaped, none while it has to wait. -/
def await (l : Launch) (c : Option Capture) : Option (List Event × Launch) :=
  match l.waiter with
  | .reaped code => if l.readersDone then some ([], { l with waiter := .joined code }) else none
  | .joined code =>
    if l.redirected && !(c.all Capture.isDelivered) then none
    else some ([], { l with waiter := .ended code, exited := true })
  | .ended code => some (l.announce (.exited code), { l with waiter := .announced })
  | .announced => some (l.announce .terminated, { l with waiter := .over })
  | _ => none

/-- The time is up that the waiter gives the delivery of output.  It goes on all the same. -/
def expire (l : Launch) : Option Launch :=
  match l.waiter with
  | .joined code =>
    if l.redirected then some { l with waiter := .ended code, exited := true } else none
  | _ => none

end Launch

structure Monitor where
  pid : UInt32
  cancelled : Bool := false
  /-- Whether the monitor found the process gone. -/
  done : Bool := false
  sink : Bool
deriving Repr, DecidableEq, Inhabited

namespace Monitor

/-- One round of a monitor, when the process is there or not. -/
def round (m : Monitor) (present : Bool) : List Event × Monitor :=
  if m.cancelled || m.done || present then ([], m)
  else (if m.sink then [.terminated] else [], { m with done := true })

end Monitor
end Supervisor
end DebugSession
