/-
The process engine: it starts programs or attaches to processes, and pauses and resumes them with
job control signals.  It knows nothing of source lines, so that breakpoints stay pending.
-/
import DebugSession.Engine
import DebugSession.Supervisor.State

namespace DebugSession
namespace Supervisor

variable {ω : Type}

/-- What a call comes to.  It may have changed the state also where it fails. -/
abbrev Result (α : Type) := Except EngineError α

/-- Reports an event if it has somewhere to go. -/
def emit (e : Event) : StateM (State ω) Unit :=
  modify fun s => if s.sink then s.add [.emitted e] else s

def send (S : System ω) (pid : UInt32) (signal : Signal) : StateM (State ω) (Result Unit) := do
  let s ← get
  let (result, system) := S.signal s.system pid signal
  set ({ s with system }.add [.signalled pid signal result.isOk])
  return result.mapError (.signal "kill")

def setReady : StateM (State ω) Unit := modify fun s => { s with ready := true }

/-- The greatest number that names a single process. -/
def greatestPid : UInt32 := 0x7FFFFFFF

/-- Whether a process that can be attached to has this number. -/
def checkPid (S : System ω) (s : State ω) (pid : UInt32) : Except EngineError Unit :=
  if pid = 0 || greatestPid < pid then .error (.processNotFound pid)
  else
    match S.probe s.system pid with
    | .ok _ => .ok ()
    | .error .perm => .ok ()
    | .error .srch => .error (.processNotFound pid)
    | .error e => .error (.signal "kill" e)

def attach (S : System ω) (pid : UInt32) : StateM (State ω) (Result Unit) := do
  let s ← get
  if !s.ready then return .error .notInitialized
  else if s.livePid?.isSome then return .error .alreadyRunning
  else
    match checkPid S s pid with
    | .error e => return .error e
    | .ok _ =>
      set { s with paused := false, debugee := .attached pid none }
      return .ok ()

/-- The parts of a path between its slashes; empty ones and `.` do not count. -/
def components (path : List Char) : List (List Char) :=
  (path.splitOn '/').filter fun part => !part.isEmpty && part != ['.']

/-- The last part of a path, none if it does not name an entry of its directory. -/
def fileName? (path : String) : Option String :=
  match (components path.toList).getLast? with
  | some part => if part = ['.', '.'] then none else some (String.ofList part)
  | none => none

def spawnError (program : String) : SpawnFailure → EngineError
  | .pipe text => .io text
  | .start text => .spawn program text

def start (S : System ω) (program : String) (args : List String) :
    StateM (State ω) (Result Unit) := do
  let s ← get
  match S.spawn s.system program args with
  | (.error e, system) =>
    set { s with system }
    return .error (spawnError program e)
  | (.ok pid, system) =>
    set { s with system }
    emit (.processStarted pid ((fileName? program).getD program))
    emit (.continued none)
    modify fun s => s.addLaunch pid
    return .ok ()

/-- Starts the program that waits, or watches the process that was attached to. -/
def configurationDone (S : System ω) : StateM (State ω) (Result Unit) := do
  let s ← get
  if !s.ready then return .error .notInitialized
  else
    match s.debugee with
    | .pending program args =>
      set { s with debugee := .none }
      start S program args
    | .attached pid none =>
      set (s.addMonitor pid)
      return .ok ()
    | _ => return .ok ()

/-- A program as given if there is such a path, else what is found under its name. -/
def resolve (S : System ω) (s : State ω) (program : String) : Except EngineError String :=
  if S.pathExists s.system program then .ok program
  else (S.which s.system program).mapError (.spawn program)

def launch (S : System ω) (program : String) (args : List String) :
    StateM (State ω) (Result Unit) := do
  setReady
  let s ← get
  if s.livePid?.isSome then return .error .alreadyRunning
  else
    match resolve S s program with
    | .error e => return .error e
    | .ok program =>
      set { s with debugee := .pending program args }
      return .ok ()

def setBreakpoints (file : String) (lines : List UInt32) :
    StateM (State ω) (Result (List Breakpoint)) := do
  let s ← get
  let (found, store) := s.store.set file lines
  set { s with store }
  return .ok found

def threads (s : State ω) : List ThreadInfo :=
  match s.livePid? with
  | some id => [{ id, name := "main", running := !s.paused }]
  | none => []

def resume (S : System ω) : StateM (State ω) (Result Unit) := do
  match (← get).livePid? with
  | none => return .error .noProcess
  | some pid =>
    match ← send S pid .cont with
    | .error e => return .error e
    | .ok _ =>
      modify fun s => { s with paused := false }
      emit (.continued none)
      return .ok ()

def pause (S : System ω) : StateM (State ω) (Result Unit) := do
  match (← get).livePid? with
  | none => return .error .noProcess
  | some pid =>
    match ← send S pid .stop with
    | .error e => return .error e
    | .ok _ =>
      modify fun s => { s with paused := true }
      emit (.stopped .pause (some pid))
      return .ok ()

/-- Gives the program up; its monitor, if it has one, is cancelled. -/
def giveUp : StateM (State ω) Unit :=
  modify fun s =>
    let s := match s.debugee with
      | .attached _ (some monitor) => s.cancelMonitor monitor
      | _ => s
    { s with debugee := .none }

/-- The signals with which a program is left: its end, or a way on if it is paused. -/
def farewell (S : System ω) (pid : UInt32) (terminate : Bool) :
    StateM (State ω) (Result Unit) := do
  if terminate then send S pid .kill
  else if (← get).paused then send S pid .cont
  else return .ok ()

def disconnect (S : System ω) (terminate : Bool) : StateM (State ω) (Result Unit) := do
  match (← get).livePid? with
  | none =>
    modify fun s => { s with debugee := .none }
    return .ok ()
  | some pid =>
    giveUp
    match ← farewell S pid terminate with
    | .error e => return .error e
    | .ok _ =>
      modify fun s => { s with paused := false }
      return .ok ()

/-- Lets go of everything.  A program that the engine started and that still runs is killed. -/
def release (S : System ω) : StateM (State ω) Unit := do
  let s ← get
  giveUp
  match s.debugee with
  | .launched pid launch => if !s.hasExited launch then discard (send S pid .kill)
  | _ => pure ()
  modify fun s => { s with redirected := false, sink := false }

def perform (S : System ω) : (c : Call) → StateM (State ω) (Result c.Answer)
  | .setUp => do setReady; return .ok ()
  | .attach pid => attach S pid
  | .configurationDone => configurationDone S
  | .launch program args => launch S program args
  | .setBreakpoints file lines => setBreakpoints file lines
  | .threads => return .ok (threads (← get))
  | .resume => resume S
  | .pause => pause S
  | .step _ => return .error (.unsupported "step")
  | .disconnect terminate => disconnect S terminate

/-- Takes note of what the session says. -/
def heed (S : System ω) : Notice → StateM (State ω) Unit
  | .bindSink => modify fun s => { s with sink := true }
  | .redirectOutput => modify fun s => { s with redirected := true, capture := some {} }
  | .release => release S

def eventsOf (ds : List Deed) : List Event :=
  ds.filterMap fun
    | .emitted e => some e
    | _ => none

/-- The engine as a front end meets it. -/
def engine (S : System ω) : Engine (State ω) where
  respond c s :=
    let (outcome, s') := (perform S c).run s
    let events := eventsOf (s'.trace.drop s.trace.length)
    (⟨events.map .event, outcome⟩, s')
  notice n s := ((heed S n).run s).2

end Supervisor
end DebugSession
