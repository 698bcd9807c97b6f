/-
Messages to a client of the Debug Adapter Protocol.
-/
import DebugSession.Event
import DebugSession.Framing.Message
import DebugSession.Json.Writer

namespace DebugSession
namespace Dap

def breakpointBody (bp : Breakpoint) : Json :=
  Json.sorted ([("id", .ofWord bp.id), ("verified", .bool bp.verified), ("line", .ofWord bp.line),
    ("source", Json.sorted [("path", .string bp.file)])] ++
    bp.message.toList.map fun m => ("message", Json.string m))

def threadBody (t : ThreadInfo) : Json :=
  Json.sorted [("id", .ofWord t.id), ("name", .string t.name)]

def stopMembers : StopReason → List (String × Json)
  | .entry => [("reason", .string "entry")]
  | .breakpoint id =>
    [("reason", .string "breakpoint"), ("hitBreakpointIds", .array [.ofWord id])]
  | .step => [("reason", .string "step")]
  | .pause => [("reason", .string "pause")]
  | .signal name => exceptionMembers (.signal name)
  | .exception text => exceptionMembers (.exception text)
where
  exceptionMembers (reason : StopReason) : List (String × Json) :=
    [("reason", .string "exception"), ("description", .string reason.text)]

def outputBody (category text : String) : Json :=
  Json.sorted [("category", .string category), ("output", .string text)]

def category : Channel → String
  | .stdout => "stdout"
  | .stderr => "stderr"

/-- The name and the body of an event. -/
def eventMessage : Event → String × Option Json
  | .processStarted pid name =>
    ("process", some (Json.sorted [("name", .string name), ("systemProcessId", .ofWord pid),
      ("isLocalProcess", .bool true), ("startMethod", .string "launch")]))
  | .stopped reason thread =>
    ("stopped", some (Json.sorted (stopMembers reason ++ [("allThreadsStopped", .bool true)] ++
      thread.toList.map fun id => ("threadId", Json.ofWord id))))
  | .continued thread =>
    ("continued", some (Json.sorted [("threadId", .ofWord (thread.getD 0)),
      ("allThreadsContinued", .bool thread.isNone)]))
  | .breakpointChanged bp =>
    ("breakpoint", some (Json.sorted [("reason", .string "changed"),
      ("breakpoint", breakpointBody bp)]))
  | .output channel text => ("output", some (outputBody (category channel) text))
  | .exited code => ("exited", some (Json.sorted [("exitCode", .integer code)]))
  | .terminated => ("terminated", none)

/-- An event with its number in the stream of messages. -/
def eventJson (seq : Nat) (name : String) (body : Option Json) : Json :=
  .object ([("seq", .ofNat seq), ("type", .string "event"), ("event", .string name)] ++
    body.toList.map fun b => ("body", b))

/-- The answer to a request: a body perhaps, or the reason why it failed. -/
def responseJson (seq : Nat) (request : Int) (command : String)
    (result : Except String (Option Json)) : Json :=
  let (success, rest) : Bool × List (String × Json) := match result with
    | .ok body => (true, body.toList.map fun b => ("body", b))
    | .error message => (false, [("message", .string message)])
  .object ([("seq", .ofNat seq), ("type", .string "response"), ("request_seq", .integer request),
    ("success", .bool success), ("command", .string command)] ++ rest)

def frame (message : Json) : String := Message.encode message.render

end Dap
end DebugSession
