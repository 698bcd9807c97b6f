/-
The steps of what runs beside the engine, in whatever order they are taken.  A step that cannot be
taken in a state changes nothing.
-/
import DebugSession.Supervisor.Engine

namespace DebugSession
namespace Supervisor

open Redirect (Read)

inductive Step where
  /-- A reader of a launch reads. -/
  | read (launch : Nat) (channel : Channel) (what : Read)
  /-- A reader puts bytes of its chunk into the capture, at most so many. -/
  | store (launch : Nat) (channel : Channel) (count : Nat)
  /-- The write of a reader fails. -/
  | lose (launch : Nat) (channel : Channel)
  /-- A forwarder takes bytes out of the capture, at most so many. -/
  | forward (channel : Channel) (count : Nat)
  /-- A forwarder finds the end of its pipe, if it is there. -/
  | finish (channel : Channel)
  /-- The waiter of a launch learns that the process ended. -/
  | reap (launch : Nat) (code : Int)
  /-- The waiter of a launch goes on. -/
  | await (launch : Nat)
  /-- The waiter of a launch goes on with output undelivered, since its time is up. -/
  | expire (launch : Nat)
  /-- A monitor looks after its process. -/
  | watch (monitor : Nat)
deriving Repr, DecidableEq, Inhabited

namespace State

variable {ω : Type}

def publish (s : State ω) (es : List Event) : State ω := s.add (es.map .emitted)

def reads (s : State ω) (n : Nat) (channel : Channel) (what : Read) : State ω :=
  match s.launches[n]? with
  | some l =>
    let r := l.reader channel
    if r.phase = .reading then
      let (events, r) := r.read l.sink what
      (s.setLaunch n (l.setReader r channel)).publish events
    else s
  | Option.none => s

def stores (s : State ω) (n : Nat) (channel : Channel) (count : Nat) : State ω :=
  match s.launches[n]?, s.capture with
  | some l, some c =>
    match (l.reader channel).store c count with
    | some (c, r) => { s.setLaunch n (l.setReader r channel) with capture := some c }
    | Option.none => s
  | _, _ => s

def loses (s : State ω) (n : Nat) (channel : Channel) : State ω :=
  match s.launches[n]? with
  | some l =>
    match (l.reader channel).lose with
    | some r => s.setLaunch n (l.setReader r channel)
    | Option.none => s
  | Option.none => s

def forwards (s : State ω) (channel : Channel) (count : Nat) : State ω :=
  match s.capture with
  | some c =>
    let p := c.pipe channel
    if p.held.isEmpty || count = 0 then s
    else
      let (events, p) := p.forward count
      { s with capture := some (c.setPipe p channel) }.publish events
  | Option.none => s

/-- Whether the engine, a reader or a waiter still has write ends of the capture. -/
def isOpen (s : State ω) : Bool := s.redirected || s.launches.any Launch.holdsStreams

/-- Whether a forwarder finds the end of its pipe: nobody can write into it any more, and it is
empty. -/
def isAtEnd (s : State ω) (channel : Channel) : Bool :=
  !s.isOpen && s.capture.any fun c => (c.pipe channel).held.isEmpty

/-- At the end of its pipe a forwarder publishes what its decoder holds back. -/
def finishes (s : State ω) (channel : Channel) : State ω :=
  match s.capture with
  | some c =>
    if s.isAtEnd channel then
      let (events, p) := (c.pipe channel).finish
      { s with capture := some (c.setPipe p channel) }.publish events
    else s
  | Option.none => s

def reaps (s : State ω) (n : Nat) (code : Int) : State ω :=
  match s.launches[n]? with
  | some l =>
    if l.waiter = .waiting then
      (s.setLaunch n { l with waiter := .reaped code }).add [.reaped l.pid]
    else s
  | Option.none => s

def awaits (s : State ω) (n : Nat) : State ω :=
  match s.launches[n]? with
  | some l =>
    match l.await s.capture with
    | some (events, l) => (s.setLaunch n l).publish events
    | Option.none => s
  | Option.none => s

def expires (s : State ω) (n : Nat) : State ω :=
  match s.launches[n]? with
  | some l =>
    match l.expire with
    | some l => s.setLaunch n l
    | Option.none => s
  | Option.none => s

def isPresent (S : System ω) (s : State ω) (pid : UInt32) : Bool :=
  match S.probe s.system pid with
  | .error .srch => false
  | _ => true

def watches (S : System ω) (s : State ω) (n : Nat) : State ω :=
  match s.monitors[n]? with
  | some m =>
    let (events, m) := m.round (s.isPresent S m.pid)
    (s.setMonitor n m).publish events
  | Option.none => s

def step (S : System ω) (s : State ω) : Step → State ω
  | .read n channel what => s.reads n channel what
  | .store n channel count => s.stores n channel count
  | .lose n channel => s.loses n channel
  | .forward channel count => s.forwards channel count
  | .finish channel => s.finishes channel
  | .reap n code => s.reaps n code
  | .await n => s.awaits n
  | .expire n => s.expires n
  | .watch n => s.watches S n

def steps (S : System ω) (s : State ω) (all : List Step) : State ω := all.foldl (step S) s

end State
end Supervisor
end DebugSession
