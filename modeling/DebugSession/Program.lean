/-
The program from its arguments to its exit: what it writes and the code it ends with.
-/
import DebugSession.CommandLine
import DebugSession.Supervisor.Engine
import DebugSession.Session

namespace DebugSession
namespace Program

/-- The name and the version that the program goes by. -/
def title : String := "dbgfront 0.1.0"

/-- What the program was built for. -/
structure BuildInfo where
  target : String
  profile : String
  os : String
  arch : String
deriving Repr, DecidableEq, Inhabited

namespace BuildInfo

def text (b : BuildInfo) : String :=
  title ++ "\ntarget: " ++ b.target ++ "\nprofile: " ++ b.profile ++ "\nos: " ++ b.os ++
    ", arch: " ++ b.arch ++ "\n"

end BuildInfo

def usage : String :=
  "Usage: dbgfront [OPTIONS] [-- <PROGRAM>...]\n\n" ++
  "Options:\n" ++
  "      --interpreter <INTERPRETER>  mi, vscode (or dap), cli\n" ++
  "      --attach <PID>               attach to a running process\n" ++
  "      --server[=<PORT>]            where clients can watch the output\n" ++
  "      --engine-logging[=<PATH>]    send the engine log to the client or to a file\n" ++
  "      --log[=<PATH>]               write the own log to a file\n" ++
  "      --buildinfo                  print build information and exit\n" ++
  "  -h, --help                       print help\n" ++
  "  -V, --version                    print version\n"

/-- What the program finds around it. -/
structure Surroundings (ω : Type) where
  build : BuildInfo
  system : Supervisor.System ω
  start : ω
  isTerminal : Bool
  /-- Whether a file can be opened for writing. -/
  openFile : String → Except String Unit
  /-- The log file if no path is given. -/
  defaultLog : String
  startServer : UInt16 → Except Redirect.Error Unit

/-- What is left when the program ends. -/
structure Result where
  exit : Nat
  stdout : String := ""
  stderr : String := ""
  /-- The file that the program's own log went to. -/
  logFile : Option String := none
deriving Repr, DecidableEq, Inhabited

def errorLine (message : String) : String := "Error: " ++ message ++ "\n"

/-- All that was written to the client. -/
def written (trace : List Action) : String :=
  String.join (trace.filterMap fun
    | .wrote _ text => some text
    | _ => none)

variable {ω : Type}

def sessionSurroundings (w : Surroundings ω) (c : Config) : Session.Surroundings where
  terminal := CommandLoop.checkTerminal c.mode w.isTerminal
  openLog := w.openFile
  startServer := w.startServer

def firstScene (c : Config) : Scene where
  mode := c.mode
  writeError _ := none
  switch := (Log.Switch.idle Sink.main).replaceMain .main (some .warn)

/-- Runs the session of a configuration over standard input. -/
def runSession (w : Surroundings ω) (c : Config) (input : Text.Bytes) : Result :=
  let E := Supervisor.engine w.system
  let life : Session.Life (Supervisor.State ω) :=
    { stage := { desk := (), scene := firstScene c, engine := { system := w.start } } }
  let (result, life) := (Session.run E (sessionSurroundings w c) c [.bytes input]).run life
  let stdout := written life.stage.scene.trace
  match result with
  | .ok _ => { exit := 0, stdout }
  | .error e => { exit := 1, stdout, stderr := errorLine e.message }

/-- The file of the program's own log, if it is to be written. -/
def logPath? (w : Surroundings ω) (o : CommandLine.Options) : Option String :=
  o.log.map fun s => (CommandLine.path? s).getD w.defaultLog

/-- Does what the options ask for. -/
def runOptions (w : Surroundings ω) (o : CommandLine.Options) (input : Text.Bytes) : Result :=
  if o.buildInfo then { exit := 0, stdout := w.build.text }
  else
    match logPath? w o with
    | none => runSession w o.config input
    | some path =>
      match w.openFile path with
      | .error cause =>
        { exit := 1, stderr := errorLine ("create log file " ++ path ++ ": " ++ cause) }
      | .ok _ => { runSession w o.config input with logFile := some path }

def run (w : Surroundings ω) (args : List String) (input : Text.Bytes) : Result :=
  match CommandLine.parse args with
  | .version => { exit := 0, stdout := title ++ "\n" }
  | .help => { exit := 0, stdout := usage }
  | .misuse => { exit := 2, stderr := usage }
  | .run o => runOptions w o input

end Program
end DebugSession
