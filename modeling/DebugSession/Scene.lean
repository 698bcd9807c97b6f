/-
What a session does to the world around it: it writes records to the client, calls the engine and
logs.  The scene keeps what the next of these depends on, and everything that happened in order.
-/
import DebugSession.Cli.Text
import DebugSession.Dap.Message
import DebugSession.Engine
import DebugSession.Framing
import DebugSession.Log.Switch
import DebugSession.Mi.Record
import DebugSession.Mode
import DebugSession.Redirect.Capture

namespace DebugSession

/-- Where log records go: to the log of the program, to the client, or to a file of their own. -/
inductive Sink where
  | main
  | console
  | file
deriving Repr, DecidableEq, Inhabited

/-- What a written record is. -/
inductive Origin where
  /-- Written by the command loop itself. -/
  | reply
  | event
  /-- A log record for the client. -/
  | console
deriving Repr, DecidableEq, Inhabited

inductive Action where
  /-- An entry of the input was taken. -/
  | took (a : Arrival)
  | told (n : Notice)
  | called (c : Call)
  | wrote (origin : Origin) (text : String)
  /-- A record was not written. -/
  | lost (origin : Origin) (text error : String)
  | logged (r : Log.Record)
  /-- The log file of the engine was opened. -/
  | openedLog (path : String)
  /-- A line went to the log file of the engine. -/
  | filed (line : String)
deriving Repr, DecidableEq, Inhabited

structure Scene where
  mode : Mode
  /-- The error of the n-th write to the client, none if it succeeds. -/
  writeError : Nat → Option String
  writes : Nat := 0
  /-- The number of the last numbered message. -/
  seq : Nat := 0
  switch : Log.Switch Sink
  /-- The capture that output of the program goes through, if it is redirected. -/
  capture : Option Redirect.Capture := none
  trace : List Action := []

namespace Scene

def add (a : Action) : StateM Scene Unit := modify fun s => { s with trace := s.trace ++ [a] }

def write (origin : Origin) (text : String) : StateM Scene (Except String Unit) := do
  let s ← get
  set { s with writes := s.writes + 1 }
  match s.writeError s.writes with
  | none => add (.wrote origin text); return .ok ()
  | some e => add (.lost origin text e); return .error e

/-- The next number of a message.  It counts as used even if the message is lost. -/
def nextSeq : StateM Scene Nat := do
  let s ← get
  set { s with seq := s.seq + 1 }
  return s.seq + 1

def sendEvent (origin : Origin) (name : String) (body : Option Json) :
    StateM Scene (Except String Unit) := do
  write origin (Dap.frame (Dap.eventJson (← nextSeq) name body))

def sendResponse (request : Int) (command : String) (result : Except String (Option Json)) :
    StateM Scene (Except String Unit) := do
  write .reply (Dap.frame (Dap.responseJson (← nextSeq) request command result))

/-- Reports an event to the client.  Nobody learns of it if the client is gone. -/
def report (e : Event) : StateM Scene Unit := do
  match (← get).mode with
  | .mi => discard (write .event (Mi.eventRecord e ++ "\n"))
  | .cli => discard (write .event (Cli.eventText e))
  | .dap => let (name, body) := Dap.eventMessage e; discard (sendEvent .event name body)

def reportAll (es : List Event) : StateM Scene Unit := es.forM report

def log (r : Log.Record) : StateM Scene Unit := do
  match (← get).switch.recipient r with
  | none => return
  | some .main => add (.logged r)
  | some .file => add (.filed r.line)
  | some .console => discard (sendEvent .console "output" (some (Dap.outputBody "console" r.line)))

/-- Changes where records go. -/
def setSwitch (f : Log.Switch Sink → Log.Switch Sink) : StateM Scene Unit :=
  modify fun s => { s with switch := f s.switch }

/-- The target of the front ends' records. -/
def frontEndTarget : String := "protocol"

def logFrontEnd (level : Log.Level) (text : String) : StateM Scene Unit :=
  log { level, target := frontEndTarget, text }

/-- Publishes output of the program. -/
def output (channel : Channel) (bytes : Text.Bytes) : StateM Scene Unit := do
  match (← get).capture with
  | none => report (.output channel (Text.Utf8.lossy bytes))
  | some c =>
    let (events, c) := c.publish channel bytes
    modify fun s => { s with capture := some c }
    reportAll events

def emit : Emission → StateM Scene Unit
  | .event e => report e
  | .record r => log r
  | .output channel bytes => output channel bytes

/-- What an exchange with the engine looks like from outside. -/
def exchange (x : Exchange) : StateM Scene Unit := do
  add (.called x.call)
  x.emitted.forM emit

def take (a : Arrival) : StateM Scene Unit := do
  add (.took a)
  match a with
  | .event e => report e
  | .record r => log r
  | _ => return

/-- Sends output through a capture from now on. -/
def startCapture : StateM Scene Unit := modify fun s => { s with capture := some {} }

def endCapture : StateM Scene Unit := do
  match (← get).capture with
  | none => return
  | some c =>
    modify fun s => { s with capture := none }
    reportAll c.close.1

end Scene
end DebugSession
