/-
The numbers of breakpoints.  A request keeps the breakpoints that its file has at lines it names, and
gives numbers to its other lines in turn; how many numbers a store has given out in all is found by
going through its requests again (`issued`).
-/
import DebugSession.Breakpoint.Store

namespace DebugSession
namespace Breakpoint
namespace Store

@[simp] theorem file_pending (file : String) (id line : UInt32) :
    (pending file id line).file = file := rfl

@[simp] theorem line_pending (file : String) (id line : UInt32) :
    (pending file id line).line = line := rfl

/-! ## Lines of a request -/

theorem assign_append (file : String) (old : List Breakpoint) (last : UInt32)
    (xs ys : List UInt32) :
    assign file old last (xs ++ ys) =
      ((assign file old last xs).1 ++ (assign file old (assign file old last xs).2 ys).1,
        (assign file old (assign file old last xs).2 ys).2) := by
  induction xs generalizing last with
  | nil => rfl
  | cons line xs ih =>
    rw [List.cons_append, assign, assign]
    cases old.find? fun bp => bp.line == line with
    | some bp =>
      simp only [ih]
      rfl
    | none =>
      simp only [ih]
      rfl

/-- Breakpoints as a store may hold them for a file: at different lines, and as they were made. -/
structure Settled (file : String) (bps : List Breakpoint) : Prop where
  lines : bps.Pairwise fun x y => x.line ≠ y.line
  plain : ∀ bp ∈ bps, bp = pending file bp.id bp.line

theorem Settled.find?_line {file : String} {bps : List Breakpoint} (h : Settled file bps)
    {bp : Breakpoint} (hbp : bp ∈ bps) : (bps.find? fun x => x.line == bp.line) = some bp := by
  obtain ⟨hlines, -⟩ := h
  induction bps with
  | nil => exact absurd hbp List.not_mem_nil
  | cons x bps ih =>
    obtain ⟨hx, htail⟩ := List.pairwise_cons.1 hlines
    rcases List.mem_cons.1 hbp with rfl | hbp
    · exact List.find?_cons_of_pos (beq_self_eq_true _)
    · rw [List.find?_cons_of_neg (by simpa using hx bp hbp), ih hbp htail]

theorem Settled.nodup {file : String} {bps : List Breakpoint} (h : Settled file bps) :
    (bps.map Breakpoint.line).Nodup :=
  List.pairwise_map.2 h.lines

/-- The lines of breakpoints that the file has keep them. -/
theorem assign_map_line {file : String} {old kept : List Breakpoint} (h : Settled file old)
    (hkept : ∀ bp ∈ kept, bp ∈ old) (last : UInt32) :
    assign file old last (kept.map Breakpoint.line) = (kept, last) := by
  induction kept with
  | nil => rfl
  | cons bp kept ih =>
    have hbp := hkept bp List.mem_cons_self
    have hrest := ih fun x hx => hkept x (List.mem_cons_of_mem bp hx)
    rw [List.map_cons, assign, h.find?_line hbp]
    simp only [hrest]
    rw [← h.plain bp hbp]

theorem assign_new {file : String} {old : List Breakpoint} {line : UInt32}
    (h : ∀ bp ∈ old, bp.line ≠ line) (last : UInt32) :
    assign file old last [line] = ([pending file (last + 1) line], last + 1) := by
  have hnone : (old.find? fun bp => bp.line == line) = none :=
    List.find?_eq_none.2 fun bp hbp => by simpa using h bp hbp
  rw [assign, hnone]
  rfl

/-- Whether a file with these breakpoints has none at a line. -/
def isNew (old : List Breakpoint) (line : UInt32) : Bool := old.all fun bp => bp.line != line

theorem isNew_iff {old : List Breakpoint} {line : UInt32} :
    isNew old line = true ↔ ∀ bp ∈ old, bp.line ≠ line := by
  simp [isNew]

theorem not_isNew_of_mem {old : List Breakpoint} {bp : Breakpoint} (h : bp ∈ old) :
    isNew old bp.line = false := by
  rw [← Bool.not_eq_true, isNew_iff]
  exact fun hnew => hnew bp h rfl

theorem not_isNew_of_find? {old : List Breakpoint} {line : UInt32} {bp : Breakpoint}
    (h : (old.find? fun x => x.line == line) = some bp) : isNew old line = false := by
  have hline : bp.line = line := by simpa using List.find?_some h
  rw [← hline]
  exact not_isNew_of_mem (List.mem_of_find?_eq_some h)

theorem isNew_of_find? {old : List Breakpoint} {line : UInt32}
    (h : (old.find? fun bp => bp.line == line) = none) : isNew old line = true :=
  isNew_iff.2 fun bp hbp => by simpa using List.find?_eq_none.1 h bp hbp

/-- Every line without a breakpoint takes one number. -/
theorem lastId_assign (file : String) (old : List Breakpoint) (last : UInt32)
    (lines : List UInt32) :
    (assign file old last lines).2 = last + UInt32.ofNat (lines.filter (isNew old)).length := by
  induction lines generalizing last with
  | nil => exact (UInt32.add_zero last).symm
  | cons line lines ih =>
    rw [assign]
    cases h : old.find? fun bp => bp.line == line with
    | some bp =>
      rw [List.filter_cons_of_neg (by simp [not_isNew_of_find? h])]
      exact ih last
    | none =>
      rw [List.filter_cons_of_pos (isNew_of_find? h), List.length_cons, UInt32.ofNat_add,
        UInt32.add_comm (UInt32.ofNat _), ← UInt32.add_assoc]
      exact ih (last + 1)

theorem eraseDups_of_nodup {lines : List UInt32} (h : lines.Nodup) : lines.eraseDups = lines := by
  induction lines with
  | nil => rfl
  | cons line lines ih =>
    obtain ⟨hline, hlines⟩ := List.nodup_cons.1 h
    have hfilter : (lines.filter fun x => !x == line) = lines :=
      List.filter_eq_self.2 fun x hx => by
        simpa using fun hxl : x = line => hline (hxl ▸ hx)
    rw [List.eraseDups_cons, hfilter, ih hlines]

/-- One more line; it does not count if it is there. -/
theorem eraseDups_append_singleton {lines : List UInt32} (h : lines.Nodup) (line : UInt32) :
    (lines ++ [line]).eraseDups = lines ++ if line ∈ lines then [] else [line] := by
  rw [List.eraseDups_append, eraseDups_of_nodup h]
  by_cases hline : line ∈ lines
  · simp [List.removeAll, hline]
  · simp [List.removeAll, hline, List.eraseDups_cons]

theorem toNat_next {last : UInt32} (h : last.toNat + 1 < UInt32.size) :
    (last + 1).toNat = last.toNat + 1 :=
  (UInt32.toNat_add last 1).trans (Nat.mod_eq_of_lt h)

/-- The next number is a greater one if it is not a smaller one. -/
theorem lt_next_of_le {last : UInt32} (h : last ≤ last + 1) : last < last + 1 :=
  UInt32.lt_of_le_of_ne h fun hsame => by simp at hsame

/-! ## Requests -/

/-- The lines of a request that get a number, each once. -/
def newLines (s : Store) (file : String) (lines : List UInt32) : List UInt32 :=
  lines.eraseDups.filter (isNew (s.get file))

theorem lastId_set (s : Store) (file : String) (lines : List UInt32) :
    (s.set file lines).2.lastId =
      s.lastId + UInt32.ofNat (s.newLines file lines).length :=
  lastId_assign file (s.get file) s.lastId lines.eraseDups

theorem toNat_lastId_set {s : Store} {file : String} {lines : List UInt32}
    (h : s.lastId.toNat + (s.newLines file lines).length < UInt32.size) :
    (s.set file lines).2.lastId.toNat = s.lastId.toNat + (s.newLines file lines).length := by
  rw [lastId_set, UInt32.toNat_add, UInt32.toNat_ofNat_of_lt' (by omega)]
  exact Nat.mod_eq_of_lt h

/-- A request for the lines of breakpoints that the file has, and for other lines. -/
theorem set_of_eraseDups {s : Store} {file : String} {lines others : List UInt32}
    {kept : List Breakpoint} (h : Settled file (s.get file))
    (hkept : ∀ bp ∈ kept, bp ∈ s.get file)
    (hlines : lines.eraseDups = kept.map Breakpoint.line ++ others) :
    (s.set file lines).1 = kept ++ (assign file (s.get file) s.lastId others).1 ∧
      (s.set file lines).2.lastId = (assign file (s.get file) s.lastId others).2 := by
  have hassign := assign_append file (s.get file) s.lastId (kept.map Breakpoint.line) others
  rw [assign_map_line h hkept, ← hlines] at hassign
  exact Prod.ext_iff.1 hassign

theorem newLines_of_eraseDups {s : Store} {file : String} {lines others : List UInt32}
    {kept : List Breakpoint} (hkept : ∀ bp ∈ kept, bp ∈ s.get file)
    (hlines : lines.eraseDups = kept.map Breakpoint.line ++ others) :
    s.newLines file lines = others.filter (isNew (s.get file)) := by
  have hnone : (kept.map Breakpoint.line).filter (isNew (s.get file)) = [] := by
    rw [List.filter_eq_nil_iff]
    intro line hline hnew
    obtain ⟨bp, hbp, hbpline⟩ := List.mem_map.1 hline
    exact isNew_iff.1 hnew bp (hkept bp hbp) hbpline
  rw [newLines, hlines, List.filter_append, hnone, List.nil_append]

def setAll (s : Store) : List (String × List UInt32) → Store
  | [] => s
  | (file, lines) :: requests => (s.set file lines).2.setAll requests

/-- How many numbers requests get. -/
def issued (s : Store) : List (String × List UInt32) → Nat
  | [] => 0
  | (file, lines) :: requests =>
    (s.newLines file lines).length + (s.set file lines).2.issued requests

theorem setAll_append (s : Store) (xs ys : List (String × List UInt32)) :
    s.setAll (xs ++ ys) = (s.setAll xs).setAll ys := by
  induction xs generalizing s with
  | nil => rfl
  | cons request xs ih => exact ih (s.set request.1 request.2).2

theorem issued_append (s : Store) (xs ys : List (String × List UInt32)) :
    s.issued (xs ++ ys) = s.issued xs + (s.setAll xs).issued ys := by
  induction xs generalizing s with
  | nil => exact (Nat.zero_add _).symm
  | cons request xs ih =>
    rw [List.cons_append, issued, issued, ih, Nat.add_assoc]
    rfl

/-- While the numbers last, the last one tells how many were given out. -/
theorem toNat_lastId_setAll {s : Store} {requests : List (String × List UInt32)}
    (h : s.lastId.toNat + s.issued requests < UInt32.size) :
    (s.setAll requests).lastId.toNat = s.lastId.toNat + s.issued requests := by
  induction requests generalizing s with
  | nil => rfl
  | cons request requests ih =>
    obtain ⟨file, lines⟩ := request
    rw [issued] at h ⊢
    have hlast : (s.set file lines).2.lastId.toNat =
        s.lastId.toNat + (s.newLines file lines).length := toNat_lastId_set (by omega)
    rw [setAll, ih (by omega), hlast, Nat.add_assoc]

end Store
end Breakpoint
end DebugSession
