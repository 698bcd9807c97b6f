/-
Insertions over any engine.  A book takes over what the engine answers before it looks for the place
it asked for, so that it may change although the insertion fails; it does so just if the engine's
breakpoints of the file are others than it had (`insert_outcome`).
-/
import DebugSession.Proofs.Breakpoint.Book

namespace DebugSession
namespace Breakpoint
namespace Book

variable {σ : Type} {E : Engine σ} {b : Book} {file : String} {line : UInt32} {t t' : Talk σ}

/-! ## One insertion -/

theorem sync_of_error {lines : List UInt32} {e : EngineError}
    (h : E.ask (.setBreakpoints file lines) t = (.error e, t')) :
    b.sync E file lines t = (.error (.engine e), t') := by
  simp only [sync, bind, StateT.bind, h]
  rfl

theorem sync_of_ok {lines : List UInt32} {updated : List Breakpoint}
    (h : E.ask (.setBreakpoints file lines) t = (.ok updated, t')) :
    b.sync E file lines t = (.ok (b.replaceFile file updated), t') := by
  simp only [sync, bind, StateT.bind, h]
  rfl

theorem insert_of_error {e : EngineError}
    (h : E.ask (.setBreakpoints file (b.linesOf file ++ [line])) t = (.error e, t')) :
    b.insert E file line t = ((.error (.engine e), b), t') := by
  simp only [insert, bind, StateT.bind, sync_of_error h]
  rfl

/-- The book takes over the answer of the engine, and looks in it for the place. -/
theorem insert_of_ok {updated : List Breakpoint}
    (h : E.ask (.setBreakpoints file (b.linesOf file ++ [line])) t = (.ok updated, t')) :
    b.insert E file line t =
      ((match (b.replaceFile file updated).findAt? file line with
        | some bp => Except.ok bp
        | none => Except.error (.rejected file line), b.replaceFile file updated), t') := by
  simp only [insert, bind, StateT.bind, sync_of_ok h]
  cases (b.replaceFile file updated).findAt? file line with
  | some bp => rfl
  | none => rfl

/-! ## Books that take over an answer -/

theorem entries_replaceFile_perm (b : Book) (file : String) (updated : List Breakpoint) :
    (b.replaceFile file updated).entries.Perm
      ((b.entries.filter fun bp => bp.file != file) ++ updated) :=
  List.mergeSort_perm _ _

theorem mem_replaceFile {updated : List Breakpoint} {bp : Breakpoint} :
    bp ∈ (b.replaceFile file updated).entries ↔
      bp ∈ b.entries ∧ bp.file ≠ file ∨ bp ∈ updated := by
  rw [(entries_replaceFile_perm b file updated).mem_iff, List.mem_append, List.mem_filter,
    bne_iff_ne]

/-- A place that an answer does not have is not in the book that takes it over. -/
theorem findAt?_replaceFile_eq_none {updated : List Breakpoint}
    (h : (b.replaceFile file updated).findAt? file line = none) :
    ∀ bp ∈ updated, ¬ (bp.file = file ∧ bp.line = line) := by
  intro bp hbp hplace
  have hnone := List.find?_eq_none.1 h bp (mem_replaceFile.2 (.inr hbp))
  exact hnone (by simp [hplace])

/-- A book that an answer does not change had its breakpoints. -/
theorem perm_of_replaceFile_eq {updated : List Breakpoint} (h : b.replaceFile file updated = b) :
    updated.Perm (b.entries.filter fun bp => bp.file == file) := by
  have hperm := entries_replaceFile_perm b file updated
  rw [h] at hperm
  exact (List.perm_append_left_iff _).1
    (hperm.symm.trans (others_append_own_perm b.entries file).symm)

theorem replaceFile_eq_of_perm {updated : List Breakpoint}
    (hids : b.entries.Pairwise fun x y => x.id < y.id)
    (h : updated.Perm (b.entries.filter fun bp => bp.file == file)) :
    b.replaceFile file updated = b :=
  congrArg Book.mk (mergeSort_eq_of_perm hids
    ((h.append_left _).trans (others_append_own_perm b.entries file)))

theorem findAt?_eq_some {bp : Breakpoint} (h : b.findAt? file line = some bp) :
    bp ∈ b.entries ∧ bp.file = file ∧ bp.line = line := by
  have hplace : bp.file = file ∧ bp.line = line := by simpa using List.find?_some h
  exact ⟨List.mem_of_find?_eq_some h, hplace⟩

/-! ## What an insertion comes to -/

/-- An insertion that succeeds lists its breakpoint.  One that fails leaves the book as it is if the
engine refused; if the engine answered without the place, the book changes unless the answer has the
breakpoints that the file had. -/
theorem insert_outcome (E : Engine σ) (b : Book) (file : String) (line : UInt32) (t : Talk σ) :
    let answer := (E.ask (.setBreakpoints file (b.linesOf file ++ [line])) t).1
    let outcome := (b.insert E file line t).1.1
    let after := (b.insert E file line t).1.2
    let own := b.entries.filter fun bp => bp.file == file
    let others := b.entries.filter fun bp => bp.file != file
    (∀ bp, outcome = .ok bp → bp ∈ after.entries ∧ bp.file = file ∧ bp.line = line) ∧
    ∀ complaint, outcome = .error complaint →
      (∃ e, answer = .error e ∧ complaint = .engine e ∧ after = b) ∨
      ∃ updated : List Breakpoint, answer = .ok updated ∧ complaint = .rejected file line ∧
        (∀ bp ∈ updated, ¬ (bp.file = file ∧ bp.line = line)) ∧
        after.entries.Perm (others ++ updated) ∧
        (after.entries.Pairwise fun x y => x.id ≤ y.id) ∧
        (after = b → updated.Perm own) ∧
        (b.entries.Pairwise (fun x y => x.id < y.id) → updated.Perm own → after = b) := by
  intro answer outcome after own others
  rcases hask : E.ask (.setBreakpoints file (b.linesOf file ++ [line])) t with ⟨e | updated, t'⟩
  case error =>
    have hinsert := insert_of_error hask
    have houtcome : outcome = .error (.engine e) := congrArg (fun r => r.1.1) hinsert
    have hafter : after = b := congrArg (fun r => r.1.2) hinsert
    rw [houtcome]
    refine ⟨fun bp hbp => (by cases hbp), fun complaint hcomplaint => ?_⟩
    obtain rfl := Except.error.inj hcomplaint
    exact .inl ⟨e, congrArg Prod.fst hask, rfl, hafter⟩
  case ok =>
    have hinsert := insert_of_ok hask
    have hafter : after = b.replaceFile file updated := congrArg (fun r => r.1.2) hinsert
    rw [hafter]
    cases hfind : (b.replaceFile file updated).findAt? file line with
    | some bp =>
      have houtcome : outcome = .ok bp := by
        rw [hfind] at hinsert
        exact congrArg (fun r => r.1.1) hinsert
      rw [houtcome]
      refine ⟨fun x hx => ?_, fun complaint hcomplaint => by cases hcomplaint⟩
      obtain rfl := Except.ok.inj hx
      exact findAt?_eq_some hfind
    | none =>
      have houtcome : outcome = .error (.rejected file line) := by
        rw [hfind] at hinsert
        exact congrArg (fun r => r.1.1) hinsert
      rw [houtcome]
      refine ⟨fun bp hbp => (by cases hbp), fun complaint hcomplaint => ?_⟩
      obtain rfl := Except.error.inj hcomplaint
      exact .inr ⟨updated, congrArg Prod.fst hask, rfl, findAt?_replaceFile_eq_none hfind,
        entries_replaceFile_perm b file updated, pairwise_mergeSort _,
        perm_of_replaceFile_eq, replaceFile_eq_of_perm⟩

/-- An engine that sets every breakpoint one line below the one it is asked for. -/
def moving : Engine Unit where
  respond
    | .setBreakpoints file lines, s =>
      (⟨[], .ok (lines.map fun line =>
        { id := line, verified := true, file, line := line + 1, message := none })⟩, s)
    | _, s => (⟨[], .error .noProcess⟩, s)

/-- A breakpoint that is said to be rejected is in the book. -/
theorem insert_rejected_listed :
    ∃ bp : Breakpoint, bp.file = "a.c" ∧ bp.line = 11 ∧
      (({} : Book).insert moving "a.c" 10 { engine := () }).1 =
        (.error (.rejected "a.c" 10), ⟨[bp]⟩) ∧ (⟨[bp]⟩ : Book) ≠ {} := by
  refine ⟨{ id := 10, verified := true, file := "a.c", line := 11, message := none }, rfl, rfl, ?_,
    by decide⟩
  decide +kernel

end Book
end Breakpoint
end DebugSession
