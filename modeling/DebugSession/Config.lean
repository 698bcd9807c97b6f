/-
The configuration of a session.
-/
import DebugSession.LaunchTarget
import DebugSession.Mode

namespace DebugSession

/-- Where the engine's log goes: to a file, or to the client if there is no path. -/
structure EngineLogging where
  path : Option String := none
deriving Repr, DecidableEq, Inhabited

structure Config where
  mode : Mode := .mi
  engineLogging : Option EngineLogging := none
  /-- Where the redirect server listens.  None and zero stand for the default. -/
  serverPort : Option UInt16 := none
  launch : Option LaunchTarget := none
  /-- The process to attach to at the start. -/
  attachPid : Option UInt32 := none
deriving Repr, DecidableEq, Inhabited

inductive ConfigError where
  | loggingUnsupported (mode : Mode)
  | logFile (path cause : String)
deriving Repr, DecidableEq, Inhabited

namespace ConfigError

def message : ConfigError → String
  | loggingUnsupported mode =>
    "engine logging is only supported in vscode interpreter mode, current mode is `" ++
      mode.name ++ "`"
  | logFile path cause => "open engine log file " ++ path ++ ": " ++ cause

end ConfigError

namespace Config

def defaultPort : UInt16 := 4711

/-- Only one front end has a place for the engine's log. -/
def validate (c : Config) : Except ConfigError Unit :=
  if c.engineLogging.isSome && c.mode != .dap then .error (.loggingUnsupported c.mode) else .ok ()

/-- The command line shares its terminal with the program, so that nothing is redirected. -/
def redirects (c : Config) : Bool := c.mode != .cli

def port (c : Config) : UInt16 :=
  match c.serverPort with
  | none => defaultPort
  | some port => if port = 0 then defaultPort else port

end Config
end DebugSession
