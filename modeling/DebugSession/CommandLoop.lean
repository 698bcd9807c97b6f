/-
Serving a client in the format it speaks.
-/
import DebugSession.Cli.FrontEnd
import DebugSession.Config
import DebugSession.Dap.FrontEnd
import DebugSession.Mi.FrontEnd

namespace DebugSession

/-- A front end whose loop does not run: the scene and the engine. -/
abbrev Stage (σ : Type) := Run σ Unit

namespace Run

variable {σ D : Type}

/-- Lets a front end work, from a state of its own. -/
def withDesk {α : Type} (desk : D) (work : StateM (Run σ D) α) : StateM (Stage σ) α := fun r =>
  let (a, r') := work.run { r with desk }
  (a, { r' with desk := () })

end Run

namespace CommandLoop

variable {σ : Type}

def notATerminal : String := "ENOTTY: Not a typewriter: ENOTTY: Not a typewriter"

/-- Whether a mode can serve a client that may sit at a terminal.  The command line shows what the
program writes above the line that is being edited, for which it needs all of the terminal. -/
def checkTerminal (mode : Mode) (interactive : Bool) : Except String Unit :=
  if mode = .cli && interactive then .error notATerminal else .ok ()

/-- Serves the client to the end with the front end of the scene's mode. -/
def serve (E : Engine σ) (preset : Option LaunchTarget) (input : List Arrival) :
    Mode → StateM (Stage σ) (Except String Unit)
  | .mi => Run.withDesk { preset } (Mi.loop E input)
  | .dap => Run.withDesk preset (Dap.loop E input)
  | .cli => Run.withDesk { preset } (Cli.loop E input)

def run (E : Engine σ) (preset : Option LaunchTarget) (input : List Arrival) :
    StateM (Stage σ) (Except String Unit) := do
  let mode := (← get).scene.mode
  Run.onScene (Scene.logFrontEnd .info (mode.name ++ " command loop started"))
  let result ← serve E preset input mode
  Run.onScene (Scene.logFrontEnd .info (mode.name ++ " command loop finished"))
  return result

/-- Routes the engine's log as configured.  `openFile` says whether a file can be opened. -/
def enableLogging (openFile : String → Except String Unit) (logging : EngineLogging) :
    StateM Scene (Except ConfigError Unit) := do
  let mode := (← get).mode
  if mode != .dap then return .error (.loggingUnsupported mode)
  match logging.path with
  | none =>
    Scene.setSwitch fun s => s.routeEngine .console
    Scene.logFrontEnd .debug "engine log redirected to client console"
    return .ok ()
  | some path =>
    match openFile path with
    | .error cause => return .error (.logFile path cause)
    | .ok _ =>
      Scene.add (.openedLog path)
      Scene.setSwitch fun s => s.routeEngine .file
      Scene.logFrontEnd .debug ("engine log redirected to " ++ path)
      return .ok ()

/-- Tells the engine something. -/
def tell (E : Engine σ) (n : Notice) : StateM (Stage σ) Unit := do
  Run.onScene (Scene.add (.told n))
  modify fun r => { r with engine := E.notice n r.engine }

end CommandLoop
end DebugSession
