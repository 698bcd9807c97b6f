/-
The machine interface as a front end: one answer for each line, marked with the token of the line.
-/
import DebugSession.FrontEnd
import DebugSession.Framing.Line
import DebugSession.Mi.Desk

namespace DebugSession
namespace Mi

/-- What is said of a line that has not the form of a command. -/
def malformedLine : String := "<syntax error>"

variable {σ : Type}

abbrev Work (σ : Type) := StateM (Run σ Desk)

def write (text : String) : Work σ (Except String Unit) := Run.onScene (Scene.write .reply text)

/-- Writes an answer after which the loop goes on. -/
def reply (text : String) : Work σ (Except String Flow) :=
  return (← write text).map fun _ => .goOn

/-- Carries out a line that has the form of a command. -/
def obey (E : Engine σ) (cmd : Command) : Work σ (Except String Flow) := do
  let token := (cmd.token.map fun t => Text.Decimal.render t.toNat).getD ""
  match ← Run.converse fun d => d.handle E cmd with
  | .ok .exit => return (← write (Reply.exit.toText token)).map fun _ => .leave
  | .ok r => reply (r.toText token)
  | .error c => reply (errorText token c.message)

def answer (E : Engine σ) : Except Line.Undecodable String → Work σ (Except String Flow)
  | .error u => reply (errorText (Command.leadingDigits (Text.Utf8.lossy u.bytes)) u.message)
  | .ok line => do
    if Text.allBlank line.toList then reply prompt
    else
      Run.onScene (Scene.logFrontEnd .debug ("mi <- " ++ line))
      match Command.parse line with
      | none => reply (errorText (Command.leadingDigits line) malformedLine)
      | some cmd => obey E cmd

def frontEnd (E : Engine σ) : FrontEnd σ Desk (Except Line.Undecodable String) where
  answer := answer E

/-- Serves a client: a prompt first, then the answers. -/
def loop (E : Engine σ) (input : List Arrival) : Work σ (Except String Unit) := do
  match ← write prompt with
  | .error e => return .error e
  | .ok _ => (frontEnd E).serve (Line.framing.readings input)

end Mi
end DebugSession
