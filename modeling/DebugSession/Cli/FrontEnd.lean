/-
The command line as a front end: a prompt before each line, and an answer if there is one.
-/
import DebugSession.Cli.Desk
import DebugSession.FrontEnd
import DebugSession.Framing.Line

namespace DebugSession
namespace Cli

variable {σ : Type}

abbrev Work (σ : Type) := StateM (Run σ Desk)

/-- Writes an answer after which the loop goes on. -/
def reply (text : String) : Work σ (Except String Flow) :=
  return (← Run.onScene (Scene.write .reply text)).map fun _ => .goOn

def complain (message : String) : Work σ (Except String Flow) :=
  reply ("Error: " ++ message ++ "\n")

def obey (E : Engine σ) (cmd : Command) : Work σ (Except String Flow) := do
  match ← Run.converse fun d => d.handle E cmd with
  | .ok (.text s) => reply (s ++ "\n")
  | .ok .silent => return .ok .goOn
  | .ok .quit => return .ok .leave
  | .error c => complain c.message

def answer (E : Engine σ) : Except Line.Undecodable String → Work σ (Except String Flow)
  | .error u => complain u.message
  | .ok line => do
    if Text.allBlank line.toList then return .ok .goOn
    else
      Run.onScene (Scene.logFrontEnd .debug ("cli <- " ++ line))
      match Command.parse line with
      | .error fault => complain fault.message
      | .ok cmd => obey E cmd

def frontEnd (E : Engine σ) : FrontEnd σ Desk (Except Line.Undecodable String) where
  invite := Scene.write .reply prompt
  answer := answer E

def loop (E : Engine σ) (input : List Arrival) : Work σ (Except String Unit) :=
  (frontEnd E).serve (Line.framing.readings input)

end Cli
end DebugSession
