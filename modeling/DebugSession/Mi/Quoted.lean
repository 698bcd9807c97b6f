/-
Quoted strings of the machine interface: the quote, the backslash and the characters that would
break a line are escaped, everything else stands for itself.
-/

namespace DebugSession
namespace Mi
namespace Quoted

def escapeChar : Char → List Char
  | '"' => ['\\', '"']
  | '\\' => ['\\', '\\']
  | '\n' => ['\\', 'n']
  | '\r' => ['\\', 'r']
  | '\t' => ['\\', 't']
  | c => [c]

/-- No line ends inside a quoted string. -/
theorem not_mem_escapeChar (c : Char) : '\n' ∉ escapeChar c ∧ '\r' ∉ escapeChar c := by
  unfold escapeChar
  split
  all_goals first | decide | (constructor <;> simp_all [eq_comm])

def escape (s : String) : String := String.ofList (s.toList.flatMap escapeChar)

def quote (s : String) : String := "\"" ++ escape s ++ "\""

/-- The character that a letter after a backslash stands for. -/
def unescapeChar : Char → Option Char
  | 'n' => some '\n'
  | 't' => some '\t'
  | 'r' => some '\r'
  | '"' => some '"'
  | '\\' => some '\\'
  | _ => none

/-- A character stands for itself or is written as a backslash with a letter that stands for it. -/
theorem escapeChar_cases (c : Char) :
    (escapeChar c = [c] ∧ c ≠ '"' ∧ c ≠ '\\') ∨
      ∃ e, escapeChar c = ['\\', e] ∧ unescapeChar e = some c := by
  unfold escapeChar
  split
  · exact .inr ⟨_, rfl, rfl⟩
  · exact .inr ⟨_, rfl, rfl⟩
  · exact .inr ⟨_, rfl, rfl⟩
  · exact .inr ⟨_, rfl, rfl⟩
  · exact .inr ⟨_, rfl, rfl⟩
  · exact .inl ⟨rfl, by assumption, by assumption⟩

end Quoted
end Mi
end DebugSession
