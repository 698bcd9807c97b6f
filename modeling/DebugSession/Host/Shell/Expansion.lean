/-
What the words of a script stand for when a command runs.
-/
import DebugSession.Host.Shell.Arithmetic
import DebugSession.Host.Shell.Word
import DebugSession.Text.Utf8

namespace DebugSession
namespace Host
namespace Shell

/-- What a running script knows. -/
structure Frame where
  name : String
  args : List String
  pid : Nat
  status : Nat := 0
  bindings : List (String × String) := []
  /-- The signals that have no effect. -/
  ignored : List Nat := []
  /-- What is left of the input. -/
  input : Text.Bytes := []
deriving Inhabited

namespace Frame

def setVariable (f : Frame) (name value : String) : Frame :=
  { f with bindings := (name, value) :: f.bindings.filter fun v => v.1 != name }

/-- The value of a parameter that stands for one text. -/
def value (f : Frame) (name : String) : String :=
  match name with
  | "#" => Text.Decimal.render f.args.length
  | "?" => Text.Decimal.render f.status
  | "$" => Text.Decimal.render f.pid
  | "0" => f.name
  | "@" => " ".intercalate f.args
  | "*" => " ".intercalate f.args
  | name =>
    if name.toList.all Text.Decimal.isDigit then
      (f.args[Text.Decimal.value name.toList - 1]?).getD ""
    else (f.bindings.lookup name).getD ""

/-- The value of a name in an expression; what is no number counts as zero. -/
def number (f : Frame) (name : String) : Int :=
  match (f.value name).toList with
  | '-' :: ds => -(Text.Decimal.value ds : Int)
  | ds => if ds.all Text.Decimal.isDigit then (Text.Decimal.value ds : Int) else 0

end Frame

/-- The fields of a word while it is expanded: those that are complete, and the one at work. -/
structure Fields where
  done : List String := []
  current : Option (List Char) := none

namespace Fields

def append (f : Fields) (cs : List Char) : Fields :=
  { f with current := some (f.current.getD [] ++ cs) }

def split (f : Fields) : Fields :=
  match f.current with
  | some cs => { done := f.done ++ [String.ofList cs] }
  | none => f

/-- Several texts, each in a field of its own. -/
def appendAll (f : Fields) : List String → Fields
  | [] => f
  | [s] => f.append s.toList
  | s :: rest => ((f.append s.toList).split).appendAll rest

end Fields

/-- The texts between white space; `held` is the one at work, the last character first. -/
def blankSplit (held : List Char) : List Char → List String
  | [] => if held.isEmpty then [] else [String.ofList held.reverse]
  | c :: cs =>
    if Text.isBlank c then
      if held.isEmpty then blankSplit [] cs else String.ofList held.reverse :: blankSplit [] cs
    else blankSplit (c :: held) cs

/-- A text, which white space splits unless it is quoted. -/
def Fields.appendText (f : Fields) (s : String) (quoted : Bool) : Fields :=
  if quoted then f.append s.toList else f.appendAll (blankSplit [] s.toList)

def isAllArguments : Piece → Bool
  | .parameter "@" true => true
  | _ => false

/-- The fields that a word expands to; `capture` gives what a script writes. -/
def expand (capture : List Char → String) (frame : Frame) (w : Word) : List String :=
  let step := fun (f : Fields) (p : Piece) =>
    match p with
    | .plain c => f.append [c]
    | .quote => if w.any isAllArguments then f else f.append []
    | .parameter "@" true => f.appendAll frame.args
    | .parameter "@" false => f.appendAll (frame.args.flatMap fun a => blankSplit [] a.toList)
    | .parameter "*" false => f.appendAll (frame.args.flatMap fun a => blankSplit [] a.toList)
    | .parameter name quoted => f.appendText (frame.value name) quoted
    | .value expression quoted =>
      let n := (Arithmetic.eval frame.number expression).getD 0
      f.appendText (Text.Decimal.renderInt n) quoted
    | .output script quoted => f.appendText (capture script) quoted
  (w.foldl step {}).split.done

/-- The one text that a word expands to where it is not split. -/
def expandWhole (capture : List Char → String) (frame : Frame) (w : Word) : String :=
  " ".intercalate (expand capture frame w)

end Shell
end Host
end DebugSession
