/-
A session from its configuration to its end: the front end is chosen, the engine bound to it, the
redirect server started, a process attached if one is configured, and then the client is served.
Whatever fails on the way, a session that chose its front end ends in the same manner.
-/
import DebugSession.CommandLoop
import DebugSession.Redirect.Error

namespace DebugSession
namespace Session

open Text.Decimal (render)

/-- The stages of a session in their order. -/
inductive State where
  | unconfigured
  | variantSelected
  | engineBound
  | redirectActive
  | attaching
  | commandLoopRunning
  | terminated
deriving Repr, DecidableEq, Inhabited

namespace State

def name : State → String
  | unconfigured => "Unconfigured"
  | variantSelected => "VariantSelected"
  | engineBound => "EngineBound"
  | redirectActive => "RedirectActive"
  | attaching => "Attaching"
  | commandLoopRunning => "CommandLoopRunning"
  | terminated => "Terminated"

/-- The place in the order of stages. -/
def rank : State → Nat
  | unconfigured => 0
  | variantSelected => 1
  | engineBound => 2
  | redirectActive => 3
  | attaching => 4
  | commandLoopRunning => 5
  | terminated => 6

end State

/-- The steps of attaching to a process. -/
inductive Step where
  | setUp
  | attach
  | configurationDone
deriving Repr, DecidableEq, Inhabited

def Step.verb : Step → String
  | setUp => "initialize"
  | attach => "attach to"
  | configurationDone => "configure"

inductive Error where
  | config (e : ConfigError)
  | redirect (e : Redirect.Error)
  | attach (step : Step) (pid : UInt32) (e : EngineError)
  /-- The front end could not be made, or reading or writing failed. -/
  | frontEnd (text : String)
deriving Repr, DecidableEq, Inhabited

namespace Error

def message : Error → String
  | config e => e.message
  | redirect e => e.message
  | attach step pid e =>
    "failed to " ++ step.verb ++ " process " ++ render pid.toNat ++ ": " ++ e.message ++
      " [" ++ e.code ++ "]"
  | frontEnd text => text

end Error

/-- What a session finds when it turns to the system. -/
structure Surroundings where
  /-- Whether the front end can use the client's side of the terminal. -/
  terminal : Except String Unit := .ok ()
  openLog : String → Except String Unit := fun _ => .ok ()
  startServer : UInt16 → Except Redirect.Error Unit := fun _ => .ok ()
  stopServer : Except Redirect.Error Unit := .ok ()

/-- A session under way. -/
structure Life (σ : Type) where
  stage : Stage σ
  /-- The states entered so far, in order. -/
  history : List State := [.unconfigured]
  /-- What came of stopping the redirect server, each time it was stopped. -/
  stops : List (Except Redirect.Error Unit) := []

namespace Life

def state {σ : Type} (l : Life σ) : State := l.history.getLast?.getD .unconfigured

end Life

variable {σ : Type}

def target : String := "session"

def onStage {α : Type} (act : StateM (Stage σ) α) : StateM (Life σ) α := fun l =>
  let (a, stage) := act.run l.stage
  (a, { l with stage })

def log (level : Log.Level) (text : String) : StateM (Life σ) Unit :=
  onStage (Run.onScene (Scene.log { level, target, text }))

def enter (s : State) : StateM (Life σ) Unit := do
  let old := (← get).state
  log .info (old.name ++ " -> " ++ s.name)
  modify fun l => { l with history := l.history ++ [s] }

/-- Makes a call of the attach sequence. -/
def attachStep (E : Engine σ) (pid : UInt32) (step : Step) (c : Call) :
    StateM (Life σ) (Except Error Unit) := do
  let result ← onStage (Run.converse fun d => return (← E.tell c, d))
  return result.mapError (.attach step pid)

/-- Attaches to a process, step by step up to the first that fails. -/
def attach (E : Engine σ) (pid : UInt32) : StateM (Life σ) (Except Error Unit) := do
  match ← attachStep E pid .setUp .setUp with
  | .error e => return .error e
  | .ok _ =>
    match ← attachStep E pid .attach (.attach pid) with
    | .error e => return .error e
    | .ok _ =>
      match ← attachStep E pid .configurationDone .configurationDone with
      | .error e => return .error e
      | .ok _ =>
        log .info ("attached to process " ++ render pid.toNat)
        return .ok ()

/-- Starts the redirect server and hands its capture to the engine. -/
def startRedirect (E : Engine σ) (w : Surroundings) (c : Config) :
    StateM (Life σ) (Except Error Unit) := do
  match w.startServer c.port with
  | .error e => return .error (.redirect e)
  | .ok _ =>
    onStage (CommandLoop.tell E .redirectOutput)
    if E.usesCapture then onStage (Run.onScene Scene.startCapture)
    enter .redirectActive
    return .ok ()

/-- Redirects output if the front end wants it. -/
def redirectIfAsked (E : Engine σ) (w : Surroundings) (c : Config) :
    StateM (Life σ) (Except Error Unit) :=
  if c.redirects then startRedirect E w c else return .ok ()

/-- Attaches if a process is configured. -/
def attachIfAsked (E : Engine σ) (c : Config) : StateM (Life σ) (Except Error Unit) :=
  match c.attachPid with
  | none => return .ok ()
  | some pid => do
    enter .attaching
    attach E pid

/-- From a bound engine to the end of the command loop. -/
def serveBound (E : Engine σ) (w : Surroundings) (c : Config) (input : List Arrival) :
    StateM (Life σ) (Except Error Unit) := do
  match ← redirectIfAsked E w c with
  | .error e => return .error e
  | .ok _ =>
    match ← attachIfAsked E c with
    | .error e => return .error e
    | .ok _ =>
      enter .commandLoopRunning
      return (← onStage (CommandLoop.run E c.launch input)).mapError .frontEnd

/-- Routes the engine's log if that is configured. -/
def enableLogging (w : Surroundings) (c : Config) : StateM (Life σ) (Except Error Unit) :=
  match c.engineLogging with
  | none => return .ok ()
  | some logging => do
    let result ← onStage (Run.onScene (CommandLoop.enableLogging w.openLog logging))
    return result.mapError .config

/-- The session between the choice of its front end and its teardown. -/
def serve (E : Engine σ) (w : Surroundings) (c : Config) (input : List Arrival) :
    StateM (Life σ) (Except Error Unit) := do
  match ← enableLogging w c with
  | .error e => return .error e
  | .ok _ =>
    onStage (CommandLoop.tell E .bindSink)
    enter .engineBound
    serveBound E w c input

/-- Whether the redirect server runs. -/
def isRedirecting (l : Life σ) : Bool := l.history.contains .redirectActive

/-- Stops the redirect server if it runs. -/
def stopRedirect (w : Surroundings) : StateM (Life σ) (Except Error Unit) := do
  if isRedirecting (← get) then
    modify fun l => { l with stops := l.stops ++ [w.stopServer] }
    return w.stopServer.mapError .redirect
  else return .ok ()

/-- Ends a session that has a front end: the server stops, the engine is released. -/
def tearDown (E : Engine σ) (w : Surroundings) (c : Config) (result : Except Error Unit) :
    StateM (Life σ) (Except Error Unit) := do
  let stopped ← stopRedirect w
  onStage (CommandLoop.tell E .release)
  onStage (Run.onScene Scene.endCapture)
  if c.engineLogging.isSome then
    onStage (Run.onScene (Scene.setSwitch fun s => s.resetRoute))
  enter .terminated
  match result with
  | .error e =>
    log .error ("session failed: " ++ e.message)
    return .error e
  | .ok _ => return stopped

def run (E : Engine σ) (w : Surroundings) (c : Config) (input : List Arrival) :
    StateM (Life σ) (Except Error Unit) := do
  match c.validate with
  | .error e => return .error (.config e)
  | .ok _ =>
    match w.terminal with
    | .error text => return .error (.frontEnd text)
    | .ok _ =>
      enter .variantSelected
      tearDown E w c (← serve E w c input)

end Session
end DebugSession
