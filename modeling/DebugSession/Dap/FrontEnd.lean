/-
The Debug Adapter Protocol as a front end: one response for each message.
-/
import DebugSession.Dap.Desk
import DebugSession.FrontEnd
import DebugSession.Json.Reader

namespace DebugSession
namespace Dap

/-- A message of the client, or why it cannot be read. -/
abbrev Incoming := Except (Message.Fault Json.Fault) Json

def framing : Framing Message.State Incoming := Message.framing.map (Message.open? Json.parse)

/-- The front end keeps only the configured program. -/
abbrev Desk := Option LaunchTarget

variable {σ : Type}

abbrev Work (σ : Type) := StateM (Run σ Desk)

def respond (request : Int) (command : String) (result : Except String (Option Json))
    (flow : Flow) : Work σ (Except String Flow) :=
  return (← Run.onScene (Scene.sendResponse request command result)).map fun _ => flow

def warn (text : String) : Work σ Unit := Run.onScene (Scene.logFrontEnd .warn text)

/-- Answers a message that is no request. -/
def refuse (message : String) : Work σ (Except String Flow) := do
  respond 0 "" (.error message) .goOn

/-- Tells the client that the engine is ready. -/
def announceReady : Work σ (Except String Flow) :=
  return (← Run.onScene (Scene.sendEvent .reply "initialized" none)).map fun _ => .goOn

def obey (E : Engine σ) (r : Request) : Work σ (Except String Flow) := do
  match ← Run.converse fun preset => return (← handle E preset r, preset) with
  | .error c => respond r.seq r.command (.error c.message) .goOn
  | .ok reply =>
    if let some text := reply.warning then warn text
    match reply.after with
    | .nothing => respond r.seq r.command (.ok reply.body) .goOn
    | .leave => respond r.seq r.command (.ok reply.body) .leave
    | .announceReady =>
      match ← respond r.seq r.command (.ok reply.body) .goOn with
      | .ok _ => announceReady
      | .error e => return .error e

def answer (E : Engine σ) : Incoming → Work σ (Except String Flow)
  | .error fault => do
    let text := fault.message Json.Fault.message
    warn ("dap: " ++ text)
    refuse text
  | .ok v => do
    match Request.decode v with
    | .error m =>
      let text := "invalid request: " ++ m.message
      warn ("dap: " ++ text)
      refuse text
    | .ok r =>
      Run.onScene (Scene.logFrontEnd .debug
        ("dap <- " ++ Text.Decimal.renderInt r.seq ++ " " ++ r.command))
      obey E r

def frontEnd (E : Engine σ) : FrontEnd σ Desk Incoming where
  answer := answer E

def loop (E : Engine σ) (input : List Arrival) : Work σ (Except String Unit) :=
  (frontEnd E).serve (framing.readings input)

end Dap
end DebugSession
