/-
What a request does: it drives the engine and has a body to answer with, or a reason to refuse.
-/
import DebugSession.Dap.Message
import DebugSession.Dap.Request
import DebugSession.Engine
import DebugSession.LaunchTarget

namespace DebugSession
namespace Dap

inductive Complaint where
  | badArguments (m : Json.Mismatch)
  | noProgram
  | noPid
  | noSource
  | engine (e : EngineError)
  | unsupported (command : String)
deriving Repr, DecidableEq, Inhabited

namespace Complaint

def message : Complaint → String
  | badArguments m => "invalid arguments: " ++ m.message
  | noProgram => "launch request without `program`"
  | noPid => "attach request without valid `processId`"
  | noSource => "source without path"
  | engine e => e.chain
  | unsupported command => "unsupported command `" ++ command ++ "`"

end Complaint

/-- What follows a response. -/
inductive After where
  | nothing
  /-- The client is told that the engine is ready. -/
  | announceReady
  | leave
deriving Repr, DecidableEq, Inhabited

structure Reply where
  body : Option Json := none
  after : After := .nothing
  /-- What went wrong all the same, for the log. -/
  warning : Option String := none
deriving Inhabited

abbrev Outcome := Except Complaint Reply

def capabilities : Json :=
  Json.sorted [("supportsConfigurationDoneRequest", .bool true),
    ("supportsTerminateRequest", .bool true), ("supportTerminateDebuggee", .bool true)]

variable {σ : Type}

/-- Makes calls that all have to succeed. -/
def drive (E : Engine σ) (calls : List Call) (reply : Reply) : StateM (Talk σ) Outcome := do
  match ← E.tellAll calls with
  | .ok _ => return .ok reply
  | .error e => return .error (.engine e)

/-- The program to start: the configured one whatever the request says, else the requested one. -/
def launchTarget (preset : Option LaunchTarget) (args : LaunchArguments) :
    Except Complaint LaunchTarget :=
  match preset, args.program with
  | some t, _ => .ok t
  | none, some program => .ok { program, args := args.args }
  | none, none => .error .noProgram

/-- The calls of a request with arguments that have to be read first. -/
def driveWith (E : Engine σ) (calls : Except Complaint (List Call)) : StateM (Talk σ) Outcome :=
  match calls with
  | .ok calls => drive E calls {}
  | .error c => return .error c

def arguments {α : Type} (absent : α) (decode : Json → Json.Decoded α) (v : Json) :
    Except Complaint α :=
  (argumentsOr absent decode v).mapError .badArguments

def launchCalls (preset : Option LaunchTarget) (v : Json) : Except Complaint (List Call) := do
  let t ← launchTarget preset (← arguments {} LaunchArguments.decode v)
  return [.launch t.program t.args]

def attachCalls (v : Json) : Except Complaint (List Call) := do
  match (← arguments {} AttachArguments.decode v).pid? with
  | some pid => return [.setUp, .attach pid]
  | none => throw .noPid

/-- The file and the lines of a request for breakpoints. -/
def breakpointLines (v : Json) : Except Complaint (String × List UInt32) := do
  let args ← arguments {} SetBreakpointsArguments.decode v
  match args.source.file? with
  | some file => return (file, args.requestedLines)
  | none => throw .noSource

def breakpointsBody (bps : List Breakpoint) : Json :=
  Json.sorted [("breakpoints", .array (bps.map breakpointBody))]

def setBreakpoints (E : Engine σ) (v : Json) : StateM (Talk σ) Outcome :=
  match breakpointLines v with
  | .error c => return .error c
  | .ok (file, lines) => do
    match ← E.ask (.setBreakpoints file lines) with
    | .ok bps => return .ok { body := some (breakpointsBody bps) }
    | .error e => return .error (.engine e)

def threadsBody (threads : List ThreadInfo) : Json :=
  Json.sorted [("threads", .array (threads.map threadBody))]

def listThreads (E : Engine σ) : StateM (Talk σ) Outcome := do
  match ← E.ask .threads with
  | .ok threads => return .ok { body := some (threadsBody threads) }
  | .error e => return .error (.engine e)

/-- The session ends even if the engine does not let go of the program. -/
def disconnect (E : Engine σ) (v : Json) : StateM (Talk σ) Outcome :=
  match arguments {} DisconnectArguments.decode v with
  | .error c => return .error c
  | .ok args => do
    match ← E.tell (.disconnect (args.terminate.getD true)) with
    | .ok _ => return .ok { after := .leave }
    | .error e => return .ok { after := .leave, warning := some ("disconnect: " ++ e.message) }

def perform (E : Engine σ) (preset : Option LaunchTarget) (v : Json) :
    Command → StateM (Talk σ) Outcome
  | .setUp => drive E [.setUp] { body := some capabilities, after := .announceReady }
  | .launch => driveWith E (launchCalls preset v)
  | .attach => driveWith E (attachCalls v)
  | .setBreakpoints => setBreakpoints E v
  | .configurationDone => drive E [.configurationDone] {}
  | .threads => listThreads E
  | .resume =>
    drive E [.resume] { body := some (Json.sorted [("allThreadsContinued", .bool true)]) }
  | .next => drive E [.step .over] {}
  | .stepIn => drive E [.step .into] {}
  | .stepOut => drive E [.step .out] {}
  | .pause => drive E [.pause] {}
  | .terminate => drive E [.disconnect true] {}
  | .disconnect => disconnect E v

def handle (E : Engine σ) (preset : Option LaunchTarget) (r : Request) :
    StateM (Talk σ) Outcome :=
  match Command.ofName? r.command with
  | some c => perform E preset r.arguments c
  | none => return .error (.unsupported r.command)

end Dap
end DebugSession
