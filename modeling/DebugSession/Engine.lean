/-
The engine that front ends drive.  It is any state with an answer to each call; while it answers it
may report events, log, and pass on output of the program.
-/
import DebugSession.EngineError
import DebugSession.Event
import DebugSession.Log.Record
import DebugSession.Text.Utf8

namespace DebugSession

inductive Call where
  /-- Gets ready for a first program. -/
  | setUp
  | attach (pid : UInt32)
  /-- Ends the configuration: the program goes on after this. -/
  | configurationDone
  /-- Prepares a program, which runs once the configuration is done. -/
  | launch (program : String) (args : List String)
  /-- Replaces all breakpoints of a file. -/
  | setBreakpoints (file : String) (lines : List UInt32)
  | threads
  | resume
  | pause
  | step (kind : StepKind)
  /-- Ends the program, or leaves it alone. -/
  | disconnect (terminate : Bool)
deriving Repr, DecidableEq, Inhabited

/-- What a call that succeeds returns. -/
def Call.Answer : Call → Type
  | .setBreakpoints _ _ => List Breakpoint
  | .threads => List ThreadInfo
  | _ => Unit

/-- What the session tells the engine without asking for an answer. -/
inductive Notice where
  /-- Events have somewhere to go from now on. -/
  | bindSink
  /-- Output goes through the capture of the redirect server from now on. -/
  | redirectOutput
  | release
deriving Repr, DecidableEq, Inhabited

/-- What an engine reports while it answers a call. -/
inductive Emission where
  | event (e : Event)
  | record (r : Log.Record)
  | output (channel : Channel) (bytes : Text.Bytes)
deriving Repr, DecidableEq, Inhabited

structure Response (c : Call) where
  emitted : List Emission
  outcome : Except EngineError c.Answer

/-- An engine with states of type `σ`. -/
structure Engine (σ : Type) where
  respond : (c : Call) → σ → Response c × σ
  /-- How the state changes with a notice. -/
  notice : Notice → σ → σ := fun _ s => s
  /-- Whether the engine writes output into a capture that it is given, and not past it. -/
  usesCapture : Bool := true

/-- A call and what the engine reported during it. -/
structure Exchange where
  call : Call
  emitted : List Emission
deriving Repr, DecidableEq, Inhabited

/-- An engine's state, and what passed between it and a front end, in that order. -/
structure Talk (σ : Type) where
  engine : σ
  exchanges : List Exchange := []

namespace Engine

variable {σ : Type}

def ask (E : Engine σ) (c : Call) : StateM (Talk σ) (Except EngineError c.Answer) := fun t =>
  let (r, s) := E.respond c t.engine
  (r.outcome, ⟨s, t.exchanges ++ [⟨c, r.emitted⟩]⟩)

/-- Makes a call for its effect only. -/
def tell (E : Engine σ) (c : Call) : StateM (Talk σ) (Except EngineError Unit) := do
  match ← E.ask c with
  | .ok _ => return .ok ()
  | .error e => return .error e

/-- Makes calls one after the other up to the first that fails. -/
def tellAll (E : Engine σ) : List Call → StateM (Talk σ) (Except EngineError Unit)
  | [] => return .ok ()
  | c :: calls => do
    match ← E.tell c with
    | .ok _ => E.tellAll calls
    | .error e => return .error e

end Engine
end DebugSession
