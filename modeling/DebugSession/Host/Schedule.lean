/-
One way for the processes of the machine to run their course: a program that ends is run in one go,
and its streams are read to their ends once nothing holds them open.
-/
import DebugSession.Host.Machine
import DebugSession.Supervisor.Schedule

namespace DebugSession
namespace Host

open Supervisor (State Step Launch Monitor)
open Text (Bytes)

/-- The steps that bring a chunk from a reader to the client. -/
def chunkSteps (launch : Nat) (channel : Channel) (chunk : Bytes) : List Step :=
  [.read launch channel (.data chunk), .store launch channel chunk.length,
    .forward channel chunk.length]

/-- The steps for what a program writes on a stream. -/
def streamSteps (launch : Nat) (channel : Channel) (written : Bytes) : List Step :=
  (Redirect.pieces written).flatMap (chunkSteps launch channel)

/-- The steps from the first output of a program to its end. -/
def courseSteps (launch : Nat) (plan : Plan) (code : Int) : List Step :=
  streamSteps launch .stdout plan.stdout ++ streamSteps launch .stderr plan.stderr ++
    [.reap launch code]

/-- The steps from the ends of the streams to the announcement of the end.  If the engine gave up
the capture before, the forwarders come to their ends too. -/
def closingSteps (launch : Nat) : List Step :=
  .read launch .stdout (.data []) :: .read launch .stderr (.data []) ::
    List.replicate 4 (.await launch) ++ [.finish .stdout, .finish .stderr]

/-- Runs the program of a launch to its end, if it has one. -/
def endProgram? (s : State Machine) (n : Nat) : Option (State Machine) := do
  let l ← s.launches[n]?
  let c ← s.system.child? l.pid
  let code ← Machine.endOf c
  if l.waiter != .waiting then none
  else
    let plan := if c.life = .killed && c.plan.ending != .never then {} else c.plan
    let s := s.steps Machine.system (courseSteps n plan code)
    return { s with system := s.system.setLife c.pid .gone }

/-- Closes the streams of a launch whose program is at its end. -/
def closeStreams? (s : State Machine) (n : Nat) : Option (State Machine) := do
  match (← s.launches[n]?).waiter with
  | .reaped _ => return s.steps Machine.system (closingSteps n)
  | _ => none

/-- Whether the streams of a launch stay open for a while after its end. -/
def lingers (s : State Machine) (n : Nat) : Bool :=
  ((s.launches[n]?).bind fun l => s.system.child? l.pid).any fun c => c.plan.lingers

/-- Lets a monitor find its process gone, if it is. -/
def finishMonitor? (s : State Machine) (n : Nat) : Option (State Machine) := do
  let m ← s.monitors[n]?
  if m.cancelled || m.done || s.system.isPresent m.pid then none
  else return s.step Machine.system (.watch n)

/-- Lets time pass until the end of a program is announced.  Nothing changes if none ends. -/
def untilTerminated (s : State Machine) : State Machine :=
  let (late, soon) := (List.range s.launches.length).partition (lingers s)
  let s := late.foldl (fun s n => (endProgram? s n).getD s) s
  let launches := soon.findSome? fun n => (endProgram? s n).bind fun s => closeStreams? s n
  let monitors := (List.range s.monitors.length).findSome? (finishMonitor? s)
  (launches <|> monitors <|> late.findSome? (closeStreams? s)).getD s

end Host
end DebugSession
