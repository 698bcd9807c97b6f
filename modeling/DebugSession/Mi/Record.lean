/-
Output records of the machine interface.  Whatever comes from outside stands in a quoted string, so
that a record is one line.
-/
import DebugSession.Event
import DebugSession.Mi.Quoted

namespace DebugSession
namespace Mi

open Text.Decimal (render renderInt)

/-- A value of a record: a string, fields in braces, fields in brackets or values in brackets. -/
inductive Value where
  | text (s : String)
  | tuple (fields : List (String × Value))
  | list (fields : List (String × Value))
  | values (vs : List Value)
deriving Repr, Inhabited

namespace Value

def number (n : UInt32) : Value := .text (render n.toNat)

mutual

def toText : Value → String
  | .text s => Quoted.quote s
  | .tuple fields => "\x7b" ++ join fields ++ "\x7d"
  | .list fields => "[" ++ join fields ++ "]"
  | .values vs => "[" ++ joinValues vs ++ "]"

def join : List (String × Value) → String
  | [] => ""
  | [(name, v)] => name ++ "=" ++ toText v
  | (name, v) :: rest => name ++ "=" ++ toText v ++ "," ++ join rest

def joinValues : List Value → String
  | [] => ""
  | [v] => toText v
  | v :: rest => toText v ++ "," ++ joinValues rest

end

end Value

abbrev Fields := List (String × Value)

/-- A record: its class with a mark in front, and its fields. -/
def record (head : String) (fields : Fields) : String :=
  if fields.isEmpty then head else head ++ "," ++ Value.join fields

def breakpointValue (bp : Breakpoint) : Value :=
  let warning := match bp.message with
    | some m => [("warning", .text m)]
    | none => []
  .tuple ([("number", .number bp.id), ("type", .text "breakpoint"), ("disp", .text "keep"),
    ("enabled", .text "y"), ("file", .text bp.file), ("line", .number bp.line),
    ("verified", .text (if bp.verified then "y" else "n"))] ++ warning)

def threadValue (t : ThreadInfo) : Value :=
  .tuple [("id", .number t.id), ("name", .text t.name),
    ("state", .text (if t.running then "running" else "stopped"))]

/-- The group that all threads of the program belong to. -/
def threadGroup : String := "i1"

def stoppedFields (reason : StopReason) (thread : Fields) : Fields :=
  match reason with
  | .entry => ("reason", .text "entry-point-hit") :: thread
  | .breakpoint id => ("reason", .text "breakpoint-hit") :: thread ++ [("bkptno", .number id)]
  | .step => ("reason", .text "end-stepping-range") :: thread
  | .pause => ("reason", .text "signal-received") :: ("signal-name", .text "SIGINT") :: thread
  | .signal name => ("reason", .text "signal-received") :: ("signal-name", .text name) :: thread
  | .exception text => ("reason", .text "exception-received") :: ("exception", .text text) :: thread

/-- The record of an event, without the end of its line. -/
def eventRecord : Event → String
  | .processStarted pid _ =>
    record "=thread-group-started" [("id", .text threadGroup), ("pid", .number pid)]
  | .stopped reason thread =>
    record "*stopped" (stoppedFields reason (thread.toList.map fun id => ("thread-id", .number id)))
  | .continued (some id) => record "*running" [("thread-id", .number id)]
  | .continued none => record "*running" [("thread-id", .text "all")]
  | .breakpointChanged bp => record "=breakpoint-modified" [("bkpt", breakpointValue bp)]
  | .output channel text =>
    let source := match channel with
      | .stdout => []
      | .stderr => [("source", .text "target-stderr")]
    record "=message" ([("text", .text text), ("send-to", .text "output-window")] ++ source)
  | .exited code =>
    record "*stopped" [("reason", .text "exited"), ("exit-code", .text (renderInt code))]
  | .terminated => record "=thread-group-exited" [("id", .text threadGroup)]

/-- The answer to a command that succeeded. -/
inductive Reply where
  | done (fields : Fields)
  | running
  | exit
deriving Inhabited

/-- The line that invites a command. -/
def prompt : String := "(gdb)\n"

/-- The lines of an answer to a command that carried a token. -/
def Reply.toText (token : String) : Reply → String
  | .done fields => token ++ record "^done" fields ++ "\n" ++ prompt
  | .running => token ++ "^running\n" ++ prompt
  | .exit => token ++ "^exit\n"

/-- The lines of an answer to a command that failed. -/
def errorText (token message : String) : String :=
  token ++ record "^error" [("msg", .text message)] ++ "\n" ++ prompt

end Mi
end DebugSession
