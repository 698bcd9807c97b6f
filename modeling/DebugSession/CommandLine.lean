/-
The arguments of the program: options, and after `--` the program to start.
-/
import DebugSession.Config
import DebugSession.Text.Decimal

namespace DebugSession
namespace CommandLine

/-- What the options ask for; each may be given once. -/
structure Options where
  interpreter : Option Mode := none
  attach : Option UInt32 := none
  server : Option UInt16 := none
  engineLogging : Option String := none
  log : Option String := none
  buildInfo : Bool := false
  program : List String := []
deriving Repr, DecidableEq, Inhabited

/-- What the arguments come to. -/
inductive Request where
  | run (o : Options)
  | version
  | help
  /-- The arguments cannot be understood. -/
  | misuse
deriving Repr, DecidableEq, Inhabited

/-- An integer of 64 bits with its sign, leading zeros allowed. -/
def signed (cs : List Char) : Option Int :=
  let magnitude := fun (bound : Nat) (ds : List Char) =>
    if ds.isEmpty then none else (Text.Decimal.scan bound 0 ds).toOption
  match cs with
  | '-' :: ds => (magnitude (0x8000000000000000 + 1) ds).map fun n => -(n : Int)
  | '+' :: ds => (magnitude 0x8000000000000000 ds).map fun n => (n : Int)
  | ds => (magnitude 0x8000000000000000 ds).map fun n => (n : Int)

/-- A number from zero on and below a bound. -/
def numberBelow (bound : Nat) (value : String) : Option Nat := do
  let i ← signed value.toList
  if 0 ≤ i ∧ i < bound then some i.toNat else none

/-- Sets an option that is not set yet. -/
def once {α : Type} (old : Option α) (new : Option α) : Option (Option α) :=
  match old, new with
  | none, some v => some (some v)
  | _, _ => none

/-- Options that need a value. -/
def setValue (o : Options) (name value : String) : Option Options :=
  match name with
  | "interpreter" =>
    (once o.interpreter (Mode.ofName? value)).map fun v => { o with interpreter := v }
  | "attach" =>
    (once o.attach ((numberBelow UInt32.size value).map UInt32.ofNat)).map fun v =>
      { o with attach := v }
  | _ => none

/-- Options that may have a value after an equals sign. -/
def setOptional (o : Options) (name : String) (value : Option String) : Option Options :=
  match name with
  | "server" =>
    (once o.server ((numberBelow UInt16.size (value.getD "0")).map UInt16.ofNat)).map fun v =>
      { o with server := v }
  | "engine-logging" =>
    (once o.engineLogging (some (value.getD ""))).map fun v => { o with engineLogging := v }
  | "log" => (once o.log (some (value.getD ""))).map fun v => { o with log := v }
  | _ => none

def needsValue (name : String) : Bool := name == "interpreter" || name == "attach"

/-- Splits an option at its first equals sign. -/
def splitOption (cs : List Char) : String × Option String :=
  let name := String.ofList (cs.takeWhile (· ≠ '='))
  match cs.dropWhile (· ≠ '=') with
  | [] => (name, none)
  | _ :: value => (name, some (String.ofList value))

/-- What one option comes to. -/
inductive Parsed where
  | options (o : Options)
  /-- The next argument is the value of this option. -/
  | pending (name : String)
  | finished (r : Request)

def orMisuse : Option Options → Parsed
  | some o => .options o
  | none => .finished .misuse

/-- An option without its dashes. -/
def parseOption (o : Options) (name : String) (value : Option String) : Parsed :=
  match name, value with
  | "help", none => .finished .help
  | "version", none => .finished .version
  | "buildinfo", none =>
    if o.buildInfo then .finished .misuse else .options { o with buildInfo := true }
  | name, some value =>
    if needsValue name then orMisuse (setValue o name value)
    else orMisuse (setOptional o name (some value))
  | name, none => if needsValue name then .pending name else orMisuse (setOptional o name none)

/-- An argument before `--`. -/
def parseArgument (o : Options) (arg : String) : Parsed :=
  match arg.toList with
  | '-' :: '-' :: cs => let (name, value) := splitOption cs; parseOption o name value
  | ['-', 'h'] => .finished .help
  | ['-', 'V'] => .finished .version
  | _ => .finished .misuse

/-- The value of an option as an argument of its own; it must not look like an option. -/
def parsePending (o : Options) (name value : String) : Option Options :=
  if value.toList.head? = some '-' then none else setValue o name value

/-- Reads arguments from left to right. -/
def parseFrom (o : Options) : List String → Request
  | [] => .run o
  | "--" :: program => if program.isEmpty then .misuse else .run { o with program }
  | arg :: args =>
    match parseArgument o arg with
    | .finished r => r
    | .options o => parseFrom o args
    | .pending name =>
      match args with
      | [] => .misuse
      | value :: args =>
        match parsePending o name value with
        | some o => parseFrom o args
        | none => .misuse

def parse (args : List String) : Request := parseFrom {} args

/-- An empty path stands for the default place. -/
def path? (s : String) : Option String := if s.isEmpty then none else some s

/-- The configuration that options describe. -/
def Options.config (o : Options) : Config where
  mode := o.interpreter.getD .mi
  engineLogging := o.engineLogging.map fun s => { path := path? s }
  serverPort := o.server
  launch := match o.program with
    | [] => none
    | program :: args => some { program, args }
  attachPid := o.attach

end CommandLine
end DebugSession
