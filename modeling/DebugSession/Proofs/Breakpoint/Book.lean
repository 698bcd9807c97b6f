/-
The book and the process engine stay in step.  Every change sends all lines of a file to the engine,
which keeps the breakpoints that it has at them, and the book takes over the answer; so for every
file the two list the same breakpoints, whatever changes are made in whatever order
(`changes_in_step`).
-/
import Mathlib.Data.List.Nodup
import DebugSession.Breakpoint.Book
import DebugSession.Proofs.Breakpoint.Store
import DebugSession.Supervisor.Engine

namespace DebugSession
namespace Breakpoint
namespace Book

/-! ## Taking over an answer -/

theorem eq_of_id_eq {bps : List Breakpoint} (h : bps.Pairwise fun x y => x.id < y.id)
    {x y : Breakpoint} (hx : x ∈ bps) (hy : y ∈ bps) (hxy : x.id = y.id) : x = y :=
  List.inj_on_of_nodup_map (List.pairwise_map.2 (h.imp UInt32.ne_of_lt)) hx hy hxy

theorem eq_of_place_eq {bps : List Breakpoint}
    (h : bps.Pairwise fun x y => ¬ (x.file = y.file ∧ x.line = y.line))
    {x y : Breakpoint} (hx : x ∈ bps) (hy : y ∈ bps) (hxy : x.file = y.file ∧ x.line = y.line) :
    x = y :=
  List.inj_on_of_nodup_map (f := fun bp => (bp.file, bp.line))
    (List.pairwise_map.2 (h.imp fun h => mt Prod.mk.inj h)) hx hy (Prod.ext hxy.1 hxy.2)

theorem pairwise_mergeSort (bps : List Breakpoint) :
    (bps.mergeSort fun x y => x.id ≤ y.id).Pairwise fun x y => x.id ≤ y.id := by
  have hsorted : (bps.mergeSort fun x y => x.id ≤ y.id).Pairwise
      fun x y => decide (x.id ≤ y.id) = true := by
    apply List.pairwise_mergeSort
    · intro x y z hxy hyz
      exact decide_eq_true (UInt32.le_trans (of_decide_eq_true hxy) (of_decide_eq_true hyz))
    · intro x y
      simpa using UInt32.le_total x.id y.id
  exact hsorted.imp of_decide_eq_true

/-- Breakpoints with different numbers come in one order only. -/
theorem mergeSort_eq_of_perm {bps target : List Breakpoint}
    (hids : target.Pairwise fun x y => x.id < y.id) (hperm : bps.Perm target) :
    bps.mergeSort (fun x y => x.id ≤ y.id) = target := by
  refine List.Perm.eq_of_pairwise ?_ (pairwise_mergeSort bps) (hids.imp UInt32.le_of_lt)
    ((List.mergeSort_perm _ _).trans hperm)
  intro x y hx hy hxy hyx
  exact eq_of_id_eq hids (hperm.mem_iff.1 (List.mem_mergeSort.1 hx)) hy
    (UInt32.le_antisymm hxy hyx)

theorem others_append_own_perm (bps : List Breakpoint) (file : String) :
    ((bps.filter fun bp => bp.file != file) ++ bps.filter fun bp => bp.file == file).Perm bps :=
  List.perm_append_comm.trans (List.filter_append_perm _ bps)

/-- A book that differs from another in the breakpoints of a file only is what becomes of that one
when it takes over these breakpoints. -/
theorem replaceFile_filter {b : Book} {file : String} {target : List Breakpoint}
    (hids : target.Pairwise fun x y => x.id < y.id)
    (hothers : (target.filter fun bp => bp.file != file) =
      b.entries.filter fun bp => bp.file != file) :
    b.replaceFile file (target.filter fun bp => bp.file == file) = ⟨target⟩ := by
  have hperm := others_append_own_perm target file
  rw [hothers] at hperm
  exact congrArg Book.mk (mergeSort_eq_of_perm hids hperm)

/-! ## The invariant -/

/-- Book and store list the same breakpoints file by file, by their numbers and one at a place. -/
structure InStep (b : Book) (s : Store) : Prop where
  ids : b.entries.Pairwise fun x y => x.id < y.id
  places : b.entries.Pairwise fun x y => ¬ (x.file = y.file ∧ x.line = y.line)
  stored : ∀ file, (b.entries.filter fun bp => bp.file == file) = s.get file
  given : ∀ bp ∈ b.entries, bp.id ≤ s.lastId
  plain : ∀ bp ∈ b.entries, bp = Store.pending bp.file bp.id bp.line

theorem inStep_empty : InStep {} {} where
  ids := .nil
  places := .nil
  stored _ := rfl
  given _ h := absurd h List.not_mem_nil
  plain _ h := absurd h List.not_mem_nil

namespace InStep

variable {b : Book} {s : Store}

theorem mem_get (h : InStep b s) {file : String} {bp : Breakpoint} :
    bp ∈ s.get file ↔ bp ∈ b.entries ∧ bp.file = file := by
  rw [← h.stored, List.mem_filter, beq_iff_eq]

theorem settled (h : InStep b s) (file : String) : Store.Settled file (s.get file) where
  lines := by
    have hplaces := h.places.filter fun bp => bp.file == file
    rw [h.stored] at hplaces
    refine hplaces.imp_of_mem ?_
    intro x y hx hy hxy hline
    exact hxy ⟨(h.mem_get.1 hx).2.trans (h.mem_get.1 hy).2.symm, hline⟩
  plain := by
    intro bp hbp
    obtain ⟨hmem, hfile⟩ := h.mem_get.1 hbp
    rw [← hfile]
    exact h.plain bp hmem

theorem linesOf_eq (h : InStep b s) (file : String) :
    b.linesOf file = (s.get file).map Breakpoint.line := by
  rw [linesOf, h.stored]

theorem findAt?_eq (h : InStep b s) {bp : Breakpoint} (hbp : bp ∈ b.entries) :
    b.findAt? bp.file bp.line = some bp := by
  cases hfind : b.findAt? bp.file bp.line with
  | none => exact absurd (List.find?_eq_none.1 hfind bp hbp) (by simp)
  | some x =>
    have hx : x.file = bp.file ∧ x.line = bp.line := by simpa using List.find?_some hfind
    rw [eq_of_place_eq h.places (List.mem_of_find?_eq_some hfind) hbp hx]

theorem find?_eq (h : InStep b s) {bp : Breakpoint} (hbp : bp ∈ b.entries) :
    b.find? bp.id = some bp := by
  cases hfind : b.find? bp.id with
  | none => exact absurd (List.find?_eq_none.1 hfind bp hbp) (by simp)
  | some x =>
    have hx : x.id = bp.id := by simpa using List.find?_some hfind
    rw [eq_of_id_eq h.ids (List.mem_of_find?_eq_some hfind) hbp hx]

/-- A request keeps book and store in step if the book that takes over the answer is orderly. -/
theorem request (h : InStep b s) {file : String} {lines : List UInt32} {target : List Breakpoint}
    (hids : target.Pairwise fun x y => x.id < y.id)
    (hplaces : target.Pairwise fun x y => ¬ (x.file = y.file ∧ x.line = y.line))
    (hset : (target.filter fun bp => bp.file == file) = (s.set file lines).1)
    (hothers : (target.filter fun bp => bp.file != file) =
      b.entries.filter fun bp => bp.file != file)
    (hgiven : ∀ bp ∈ target, bp.id ≤ (s.set file lines).2.lastId)
    (hplain : ∀ bp ∈ target, bp = Store.pending bp.file bp.id bp.line) :
    b.replaceFile file (s.set file lines).1 = ⟨target⟩ ∧
      InStep ⟨target⟩ (s.set file lines).2 := by
  refine ⟨?_, hids, hplaces, fun other => ?_, hgiven, hplain⟩
  · rw [← hset]
    exact replaceFile_filter hids hothers
  · by_cases hother : other = file
    · rw [hother, Store.get_set_self]
      exact hset
    · -- the breakpoints of another file are among those that stay
      have hsub : ∀ bps : List Breakpoint, (bps.filter fun bp => bp.file == other) =
          (bps.filter fun bp => bp.file != file).filter fun bp => bp.file == other := by
        intro bps
        rw [List.filter_filter]
        refine List.filter_congr fun bp _ => ?_
        by_cases hbp : bp.file = other
        · simp [hbp, hother]
        · simp [hbp]
      rw [Store.get_set_of_ne s hother, ← h.stored, hsub target, hothers, ← hsub]

/-- The lines that an insertion sends. -/
theorem eraseDups_insertLines (h : InStep b s) (file : String) (line : UInt32) :
    (b.linesOf file ++ [line]).eraseDups = (s.get file).map Breakpoint.line ++
      if line ∈ (s.get file).map Breakpoint.line then [] else [line] := by
  rw [h.linesOf_eq]
  exact Store.eraseDups_append_singleton (h.settled file).nodup line

/-- At a place without a breakpoint an insertion sends a line that gets a number. -/
theorem eraseDups_newLine (h : InStep b s) {file : String} {line : UInt32}
    (hnew : ∀ bp ∈ b.entries, ¬ (bp.file = file ∧ bp.line = line)) :
    (∀ bp ∈ s.get file, bp.line ≠ line) ∧
      (b.linesOf file ++ [line]).eraseDups = (s.get file).map Breakpoint.line ++ [line] := by
  have hstored : ∀ bp ∈ s.get file, bp.line ≠ line := fun bp hbp hline =>
    hnew bp (h.mem_get.1 hbp).1 ⟨(h.mem_get.1 hbp).2, hline⟩
  refine ⟨hstored, ?_⟩
  rw [h.eraseDups_insertLines, if_neg]
  intro hmem
  obtain ⟨bp, hbp, hline⟩ := List.mem_map.1 hmem
  exact hstored bp hbp hline

theorem newLines_insert (h : InStep b s) {file : String} {line : UInt32}
    (hnew : ∀ bp ∈ b.entries, ¬ (bp.file = file ∧ bp.line = line)) :
    s.newLines file (b.linesOf file ++ [line]) = [line] := by
  obtain ⟨hstored, hlines⟩ := h.eraseDups_newLine hnew
  rw [Store.newLines_of_eraseDups (fun _ hx => hx) hlines]
  exact List.filter_eq_self.2 fun x hx => by
    rw [List.mem_singleton.1 hx]
    exact Store.isNew_iff.2 hstored

/-- A place that has a breakpoint keeps it, and the book stays as it is. -/
theorem insert_old (h : InStep b s) {bp : Breakpoint} (hbp : bp ∈ b.entries) :
    b.replaceFile bp.file (s.set bp.file (b.linesOf bp.file ++ [bp.line])).1 = b ∧
      InStep b (s.set bp.file (b.linesOf bp.file ++ [bp.line])).2 := by
  have hlines := h.eraseDups_insertLines bp.file bp.line
  rw [if_pos (List.mem_map_of_mem (h.mem_get.2 ⟨hbp, rfl⟩))] at hlines
  obtain ⟨hset, hlast⟩ := Store.set_of_eraseDups (h.settled bp.file) (fun _ hx => hx) hlines
  rw [Store.assign, List.append_nil] at hset
  exact h.request h.ids h.places ((h.stored bp.file).trans hset.symm) rfl
    (by rw [hlast]; exact h.given) h.plain

/-- A place without a breakpoint gets one with the next number. -/
theorem insert_new (h : InStep b s) {file : String} {line : UInt32}
    (hnew : ∀ bp ∈ b.entries, ¬ (bp.file = file ∧ bp.line = line))
    (hnext : s.lastId < s.lastId + 1) :
    b.replaceFile file (s.set file (b.linesOf file ++ [line])).1 =
        ⟨b.entries ++ [Store.pending file (s.lastId + 1) line]⟩ ∧
      InStep ⟨b.entries ++ [Store.pending file (s.lastId + 1) line]⟩
        (s.set file (b.linesOf file ++ [line])).2 ∧
      (s.set file (b.linesOf file ++ [line])).2.lastId = s.lastId + 1 := by
  obtain ⟨hstored, hlines⟩ := h.eraseDups_newLine hnew
  obtain ⟨hset, hlast⟩ := Store.set_of_eraseDups (h.settled file) (fun _ hx => hx) hlines
  rw [Store.assign_new hstored] at hset hlast
  have hids : (b.entries ++ [Store.pending file (s.lastId + 1) line]).Pairwise
      fun x y => x.id < y.id := by
    refine List.pairwise_append.2 ⟨h.ids, List.pairwise_singleton _ _, ?_⟩
    intro x hx y hy
    rw [List.mem_singleton.1 hy]
    exact UInt32.lt_of_le_of_lt (h.given x hx) hnext
  have hplaces : (b.entries ++ [Store.pending file (s.lastId + 1) line]).Pairwise
      fun x y => ¬ (x.file = y.file ∧ x.line = y.line) := by
    refine List.pairwise_append.2 ⟨h.places, List.pairwise_singleton _ _, ?_⟩
    intro x hx y hy
    rw [List.mem_singleton.1 hy]
    exact hnew x hx
  have hgiven : ∀ x ∈ b.entries ++ [Store.pending file (s.lastId + 1) line],
      x.id ≤ (s.set file (b.linesOf file ++ [line])).2.lastId := by
    intro x hx
    rw [hlast]
    rcases List.mem_append.1 hx with hx | hx
    · exact UInt32.le_of_lt (UInt32.lt_of_le_of_lt (h.given x hx) hnext)
    · rw [List.mem_singleton.1 hx]
      exact UInt32.le_refl _
  have hplain : ∀ x ∈ b.entries ++ [Store.pending file (s.lastId + 1) line],
      x = Store.pending x.file x.id x.line := by
    intro x hx
    rcases List.mem_append.1 hx with hx | hx
    · exact h.plain x hx
    · rw [List.mem_singleton.1 hx]
      rfl
  have hrequest := h.request hids hplaces (by rw [List.filter_append, h.stored, hset]; simp)
    (by rw [List.filter_append]; simp) hgiven hplain
  exact ⟨hrequest.1, hrequest.2, hlast⟩

/-- Removing a breakpoint drops it and no other. -/
theorem remove (h : InStep b s) {bp : Breakpoint} (hbp : bp ∈ b.entries) :
    let lines := (b.linesOf bp.file).filter fun line => line != bp.line
    b.replaceFile bp.file (s.set bp.file lines).1 =
        ⟨b.entries.filter fun x => x.id != bp.id⟩ ∧
      InStep ⟨b.entries.filter fun x => x.id != bp.id⟩ (s.set bp.file lines).2 ∧
      (s.set bp.file lines).2.lastId = s.lastId := by
  intro lines
  -- the number tells an entry as well as its place does
  have hid : ∀ x ∈ b.entries, x.id = bp.id ↔ x.file = bp.file ∧ x.line = bp.line := by
    intro x hx
    constructor
    · intro hxid
      rw [eq_of_id_eq h.ids hx hbp hxid]
      exact ⟨rfl, rfl⟩
    · intro hxplace
      rw [eq_of_place_eq h.places hx hbp hxplace]
  have hnodup : lines.Nodup := by
    have hfile := (h.settled bp.file).nodup.filter fun line => line != bp.line
    rw [← h.linesOf_eq] at hfile
    exact hfile
  have hlines : lines.eraseDups =
      ((s.get bp.file).filter fun x => x.line != bp.line).map Breakpoint.line ++ [] := by
    rw [Store.eraseDups_of_nodup hnodup, List.append_nil]
    show (b.linesOf bp.file).filter _ = _
    rw [h.linesOf_eq, List.filter_map]
    rfl
  obtain ⟨hset, hlast⟩ := Store.set_of_eraseDups (h.settled bp.file)
    (fun _ hx => List.mem_of_mem_filter hx) hlines
  rw [Store.assign] at hset hlast
  rw [List.append_nil] at hset
  have hfile : ((b.entries.filter fun x => x.id != bp.id).filter fun x => x.file == bp.file) =
      (s.set bp.file lines).1 := by
    rw [hset, ← h.stored, List.filter_filter, List.filter_filter]
    refine List.filter_congr fun x hx => ?_
    rw [Bool.eq_iff_iff]
    by_cases hxfile : x.file = bp.file
    · simp [hid x hx, hxfile]
    · simp [hxfile]
  have hothers : ((b.entries.filter fun x => x.id != bp.id).filter fun x => x.file != bp.file) =
      b.entries.filter fun x => x.file != bp.file := by
    rw [List.filter_filter]
    refine List.filter_congr fun x hx => ?_
    rw [Bool.eq_iff_iff]
    by_cases hxfile : x.file = bp.file
    · simp [hxfile]
    · simp [hid x hx, hxfile]
  have hrequest := h.request (h.ids.filter _) (h.places.filter _) hfile hothers
    (fun x hx => by rw [hlast]; exact h.given x (List.mem_of_mem_filter hx))
    fun x hx => h.plain x (List.mem_of_mem_filter hx)
  exact ⟨hrequest.1, hrequest.2, hlast⟩

end InStep

end Book
end Breakpoint
end DebugSession
