/-
The front ends, by the format that the client speaks.
-/

namespace DebugSession

inductive Mode where
  | mi
  | dap
  | cli
deriving Repr, DecidableEq, Inhabited

namespace Mode

def name : Mode → String
  | mi => "mi"
  | dap => "vscode"
  | cli => "cli"

/-- The names a mode may be asked for by. -/
def ofName? : String → Option Mode
  | "mi" => some mi
  | "vscode" => some dap
  | "dap" => some dap
  | "cli" => some cli
  | _ => none

def unknownName : String := "Matching variant not found"

end Mode
end DebugSession
