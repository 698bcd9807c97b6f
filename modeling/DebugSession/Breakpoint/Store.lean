/-
The breakpoints an engine holds, file by file.  Setting the lines of a file replaces what it held
for the file; a line that was set already keeps its number, and every other line gets the next
number that no breakpoint had before.
-/
import DebugSession.Breakpoint

namespace DebugSession
namespace Breakpoint

structure Store where
  /-- The breakpoints of each file that has any. -/
  files : List (String × List Breakpoint) := []
  lastId : UInt32 := 0
deriving Repr, DecidableEq, Inhabited

namespace Store

def get (s : Store) (file : String) : List Breakpoint := (s.files.lookup file).getD []

/-- Why no breakpoint of the store is verified. -/
def pendingMessage : String := "source breakpoints are not resolved by the process engine"

def pending (file : String) (id line : UInt32) : Breakpoint :=
  { id, verified := false, file, line, message := some pendingMessage }

/-- The breakpoints at lines that do not repeat, where `old` are those the file has and `last` is
the last number given out; and the last number afterwards. -/
def assign (file : String) (old : List Breakpoint) (last : UInt32) :
    List UInt32 → List Breakpoint × UInt32
  | [] => ([], last)
  | line :: lines =>
    match old.find? fun bp => bp.line == line with
    | some bp =>
      let (rest, final) := assign file old last lines
      (pending file bp.id line :: rest, final)
    | none =>
      let (rest, final) := assign file old (last + 1) lines
      (pending file (last + 1) line :: rest, final)

theorem map_line_assign (file : String) (old : List Breakpoint) (last : UInt32)
    (lines : List UInt32) : (assign file old last lines).1.map Breakpoint.line = lines := by
  induction lines generalizing last with
  | nil => rfl
  | cons line lines ih =>
    simp only [assign]
    split <;> simp [ih, pending]

/-- Replaces the breakpoints of a file by one for each line, in the order in which the lines occur
first. -/
def set (s : Store) (file : String) (lines : List UInt32) : List Breakpoint × Store :=
  let (found, lastId) := assign file (s.get file) s.lastId lines.eraseDups
  let others := s.files.filter fun entry => entry.1 != file
  (found, { files := if found.isEmpty then others else (file, found) :: others, lastId })

theorem lookup_filter_self {α : Type} (files : List (String × α)) (file : String) :
    (files.filter fun entry => entry.1 != file).lookup file = none := by
  induction files with
  | nil => rfl
  | cons entry files ih =>
    obtain ⟨name, value⟩ := entry
    by_cases h : name = file
    · simpa [h] using ih
    · simpa [h, List.lookup_cons, beq_eq_false_iff_ne.2 (Ne.symm h)] using ih

theorem lookup_filter_of_ne {α : Type} (files : List (String × α)) {file other : String}
    (h : other ≠ file) :
    (files.filter fun entry => entry.1 != file).lookup other = files.lookup other := by
  induction files with
  | nil => rfl
  | cons entry files ih =>
    obtain ⟨name, value⟩ := entry
    by_cases hn : name = file
    · simpa [hn, List.lookup_cons, beq_eq_false_iff_ne.2 h] using ih
    · simp [hn, List.lookup_cons, ih]

def others (s : Store) (file : String) : List (String × List Breakpoint) :=
  s.files.filter fun entry => entry.1 != file

theorem files_set (s : Store) (file : String) (lines : List UInt32) :
    (s.set file lines).2.files =
      if (s.set file lines).1.isEmpty then s.others file
      else (file, (s.set file lines).1) :: s.others file := rfl

theorem lookup_files_set_self (s : Store) (file : String) (lines : List UInt32) :
    (s.set file lines).2.files.lookup file =
      if (s.set file lines).1 = [] then none else some (s.set file lines).1 := by
  rw [files_set]
  simp only [List.isEmpty_iff]
  split
  · exact lookup_filter_self s.files file
  · exact List.lookup_cons_self

theorem lookup_files_set_of_ne (s : Store) {file other : String} (h : other ≠ file)
    (lines : List UInt32) :
    (s.set file lines).2.files.lookup other = s.files.lookup other := by
  have hothers : (s.others file).lookup other = s.files.lookup other :=
    lookup_filter_of_ne s.files h
  rw [files_set]
  split
  · exact hothers
  · rw [List.lookup_cons, beq_eq_false_iff_ne.2 h]
    exact hothers

/-- What is set is what the file has then. -/
theorem get_set_self (s : Store) (file : String) (lines : List UInt32) :
    (s.set file lines).2.get file = (s.set file lines).1 := by
  rw [get, lookup_files_set_self]
  split
  · next hnil => exact hnil.symm
  · rfl

theorem get_set_of_ne (s : Store) {file other : String} (h : other ≠ file) (lines : List UInt32) :
    (s.set file lines).2.get other = s.get other := by
  rw [get, lookup_files_set_of_ne s h, get]

end Store
end Breakpoint
end DebugSession
