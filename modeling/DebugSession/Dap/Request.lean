/-
Requests of a client of the Debug Adapter Protocol and their arguments.
-/
import DebugSession.Json.Decode
import DebugSession.Text.Blank

namespace DebugSession
namespace Dap

open Json (Decoded Field Shape)

structure Request where
  seq : Int
  kind : String
  command : String
  arguments : Json
deriving Repr, Inhabited

namespace Request

def decode : Json → Decoded Request :=
  ((((Shape.base Request.mk).field (.required "seq" Json.signed64)).field
    (.required "type" Json.text)).field
    (.required "command" Json.text)).field
    (.defaulted "arguments" Json.any .null)
  |>.decode "DapRequest"

end Request

structure LaunchArguments where
  program : Option String := none
  args : List String := []
deriving Repr, DecidableEq, Inhabited

namespace LaunchArguments

def decode : Json → Decoded LaunchArguments :=
  ((Shape.base LaunchArguments.mk).field (.optional "program" Json.text)).field
    (.defaulted "args" (Json.list Json.text) [])
  |>.decode "LaunchArguments"

end LaunchArguments

structure AttachArguments where
  process : Option Json := none
deriving Repr, Inhabited

namespace AttachArguments

def decode : Json → Decoded AttachArguments :=
  (Shape.base AttachArguments.mk).field (.optional "processId" Json.any)
  |>.decode "AttachArguments"

/-- The process, given as a number or as a text that holds one. -/
def pid? (a : AttachArguments) : Option UInt32 :=
  match a.process with
  | some (.integer i) => if 0 ≤ i ∧ i < UInt32.size then some (UInt32.ofNat i.toNat) else none
  | some (.string s) =>
    (UInt32.ofNat <$> Text.Decimal.parse UInt32.size (Text.trimBlank s.toList)).toOption
  | _ => none

end AttachArguments

structure Source where
  path : Option String := none
  name : Option String := none
deriving Repr, DecidableEq, Inhabited

namespace Source

def decode : Json → Decoded Source :=
  ((Shape.base Source.mk).field (.optional "path" Json.text)).field (.optional "name" Json.text)
  |>.decode "Source"

/-- The file: the path, or else the name. -/
def file? (s : Source) : Option String := s.path <|> s.name

end Source

structure SourceBreakpoint where
  line : UInt32
deriving Repr, DecidableEq, Inhabited

namespace SourceBreakpoint

def decode : Json → Decoded SourceBreakpoint :=
  (Shape.base SourceBreakpoint.mk).field (.required "line" Json.word32)
  |>.decode "SourceBreakpoint"

end SourceBreakpoint

structure SetBreakpointsArguments where
  source : Source := {}
  breakpoints : Option (List SourceBreakpoint) := none
  /-- The lines as older clients give them. -/
  lines : Option (List UInt32) := none
deriving Repr, DecidableEq, Inhabited

namespace SetBreakpointsArguments

def decode : Json → Decoded SetBreakpointsArguments :=
  (((Shape.base SetBreakpointsArguments.mk).field (.defaulted "source" Source.decode {})).field
    (.optionalDefaulted "breakpoints" (Json.list SourceBreakpoint.decode))).field
    (.optionalDefaulted "lines" (Json.list Json.word32))
  |>.decode "SetBreakpointsArguments"

def requestedLines (a : SetBreakpointsArguments) : List UInt32 :=
  match a.breakpoints, a.lines with
  | some bps, _ => bps.map SourceBreakpoint.line
  | none, some lines => lines
  | none, none => []

end SetBreakpointsArguments

structure DisconnectArguments where
  terminate : Option Bool := none
deriving Repr, DecidableEq, Inhabited

namespace DisconnectArguments

def decode : Json → Decoded DisconnectArguments :=
  (Shape.base DisconnectArguments.mk).field (.optional "terminateDebuggee" Json.boolean)
  |>.decode "DisconnectArguments"

end DisconnectArguments

/-- Arguments of a request, which may be left out. -/
def argumentsOr {α : Type} (absent : α) (decode : Json → Decoded α) : Json → Decoded α
  | .null => .ok absent
  | v => decode v

/-- What a request asks for. -/
inductive Command where
  | setUp
  | launch
  | attach
  | setBreakpoints
  | configurationDone
  | threads
  | resume
  | next
  | stepIn
  | stepOut
  | pause
  | terminate
  | disconnect
deriving Repr, DecidableEq, Inhabited

namespace Command

def name : Command → String
  | setUp => "initialize"
  | launch => "launch"
  | attach => "attach"
  | setBreakpoints => "setBreakpoints"
  | configurationDone => "configurationDone"
  | threads => "threads"
  | resume => "continue"
  | next => "next"
  | stepIn => "stepIn"
  | stepOut => "stepOut"
  | pause => "pause"
  | terminate => "terminate"
  | disconnect => "disconnect"

def all : List Command :=
  [setUp, launch, attach, setBreakpoints, configurationDone, threads, resume, next, stepIn,
    stepOut, pause, terminate, disconnect]

def ofName? (s : String) : Option Command := all.find? fun c => c.name == s

end Command
end Dap
end DebugSession
