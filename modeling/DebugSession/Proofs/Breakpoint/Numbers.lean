/-
The numbers of all breakpoints of an engine.  A request keeps the numbers of lines that its file has
set and gives the next ones, which no breakpoint of any file ever had, to its other lines; so over
any history of requests no two stored breakpoints share a number (`requests_number_lines`).
-/
import Mathlib.Data.List.Flatten
import Mathlib.Data.List.Induction
import Mathlib.Data.List.Nodup
import DebugSession.Proofs.Breakpoint.Changes
import DebugSession.Supervisor.Occurrence

namespace DebugSession
namespace Breakpoint
namespace Store

variable {file : String} {old : List Breakpoint} {last : UInt32} {lines : List UInt32}

/-! ## Lines in the order in which they occur first -/

theorem pairwise_idxOf_eraseDups (lines : List UInt32) :
    lines.eraseDups.Pairwise fun x y => lines.idxOf x < lines.idxOf y := by
  -- from the end: one more line comes last or not at all
  induction lines using List.reverseRecOn with
  | nil => exact .nil
  | append_singleton lines line ih =>
    have hold : ∀ x ∈ lines.eraseDups, (lines ++ [line]).idxOf x = lines.idxOf x := fun x hx =>
      List.idxOf_append_of_mem (List.mem_eraseDups.1 hx)
    have hkept : lines.eraseDups.Pairwise fun x y =>
        (lines ++ [line]).idxOf x < (lines ++ [line]).idxOf y := by
      refine ih.imp_of_mem ?_
      intro x y hx hy hxy
      rw [hold x hx, hold y hy]
      exact hxy
    rw [List.eraseDups_append]
    by_cases hline : line ∈ lines
    · simpa [List.removeAll, hline] using hkept
    · have hnew : ([line].removeAll lines).eraseDups = [line] := by
        simp [List.removeAll, hline, List.eraseDups_cons]
      rw [hnew, List.pairwise_append]
      refine ⟨hkept, List.pairwise_singleton _ _, ?_⟩
      intro x hx y hy
      rw [List.mem_singleton.1 hy, hold x hx, List.idxOf_append_of_notMem hline]
      exact Nat.lt_of_lt_of_le (List.idxOf_lt_length_iff.2 (List.mem_eraseDups.1 hx))
        (Nat.le_add_right _ _)

theorem nodup_eraseDups (lines : List UInt32) : lines.eraseDups.Nodup :=
  (pairwise_idxOf_eraseDups lines).imp fun {x y} hxy hne => by
    rw [hne] at hxy
    exact Nat.lt_irrefl _ hxy

/-! ## Numbers of one request -/

/-- A breakpoint of an answer is one that the file had, or its number is a new one. -/
theorem old_or_new_of_mem_assign (h : Settled file old)
    (hlast : last.toNat + (lines.filter (isNew old)).length < UInt32.size) {bp : Breakpoint}
    (hbp : bp ∈ (assign file old last lines).1) :
    bp ∈ old ∨ isNew old bp.line = true ∧ last.toNat < bp.id.toNat ∧
      bp.id.toNat ≤ last.toNat + (lines.filter (isNew old)).length := by
  induction lines generalizing last with
  | nil => exact absurd hbp List.not_mem_nil
  | cons line lines ih =>
    rw [assign] at hbp
    cases hfind : old.find? fun bp => bp.line == line with
    | some x =>
      have hx := List.mem_of_find?_eq_some hfind
      have hline : x.line = line := by simpa using List.find?_some hfind
      rw [List.filter_cons_of_neg (by simp [not_isNew_of_find? hfind])] at hlast ⊢
      simp only [hfind, List.mem_cons] at hbp
      rcases hbp with rfl | hbp
      · left
        rw [← hline, ← h.plain x hx]
        exact hx
      · exact ih hlast hbp
    | none =>
      have hnew := isNew_of_find? hfind
      rw [List.filter_cons_of_pos hnew, List.length_cons] at hlast ⊢
      have hnext : (last + 1).toNat = last.toNat + 1 := toNat_next (by omega)
      have hrest : (last + 1).toNat + (lines.filter (isNew old)).length < UInt32.size := by omega
      simp only [hfind, List.mem_cons] at hbp
      rcases hbp with rfl | hbp
      · right
        refine ⟨hnew, ?_⟩
        show last.toNat < (last + 1).toNat ∧ (last + 1).toNat ≤ _
        omega
      · rcases ih hrest hbp with hold | ⟨hline, hlt, hle⟩
        · exact .inl hold
        · exact .inr ⟨hline, by omega, by omega⟩

theorem pending_of_mem_assign {bp : Breakpoint} (hbp : bp ∈ (assign file old last lines).1) :
    bp = pending file bp.id bp.line := by
  induction lines generalizing last with
  | nil => exact absurd hbp List.not_mem_nil
  | cons line lines ih =>
    rw [assign] at hbp
    cases hfind : old.find? fun bp => bp.line == line with
    | some x =>
      simp only [hfind, List.mem_cons] at hbp
      rcases hbp with rfl | hbp
      · rfl
      · exact ih hbp
    | none =>
      simp only [hfind, List.mem_cons] at hbp
      rcases hbp with rfl | hbp
      · rfl
      · exact ih hbp

/-- The new numbers of an answer grow along it. -/
theorem pairwise_new_assign (h : Settled file old)
    (hlast : last.toNat + (lines.filter (isNew old)).length < UInt32.size) :
    ((assign file old last lines).1.filter fun bp => isNew old bp.line).Pairwise
      fun x y => x.id < y.id := by
  induction lines generalizing last with
  | nil => exact .nil
  | cons line lines ih =>
    rw [assign]
    cases hfind : old.find? fun bp => bp.line == line with
    | some x =>
      have hnot := not_isNew_of_find? hfind
      rw [List.filter_cons_of_neg (by simp [hnot])] at hlast
      simp only
      rw [List.filter_cons_of_neg (by simp [hnot])]
      exact ih hlast
    | none =>
      have hnew := isNew_of_find? hfind
      rw [List.filter_cons_of_pos hnew, List.length_cons] at hlast
      have hnext : (last + 1).toNat = last.toNat + 1 := toNat_next (by omega)
      have hrest : (last + 1).toNat + (lines.filter (isNew old)).length < UInt32.size := by omega
      simp only
      rw [List.filter_cons_of_pos (by simpa using hnew)]
      refine List.pairwise_cons.2 ⟨?_, ih hrest⟩
      intro bp hbp
      obtain ⟨hmem, hbpnew⟩ := List.mem_filter.1 hbp
      rcases old_or_new_of_mem_assign h hrest hmem with hold | hid
      · exact absurd hbpnew (by simp [not_isNew_of_mem hold])
      · exact UInt32.lt_iff_toNat_lt.2 hid.2.1

/-! ## All breakpoints of a store -/

/-- The breakpoints of all files. -/
def stored (s : Store) : List Breakpoint := s.files.flatMap Prod.snd

/-- A store as requests leave it: a file has one entry, which is not empty, and a number is that of
one breakpoint alone. -/
structure Orderly (s : Store) : Prop where
  keys : (s.files.map Prod.fst).Nodup
  filled : ∀ entry ∈ s.files, entry.2 ≠ []
  settled : ∀ entry ∈ s.files, Settled entry.1 entry.2
  ids : s.stored.Pairwise fun x y => x.id ≠ y.id
  given : ∀ bp ∈ s.stored, bp.id ≤ s.lastId

theorem orderly_empty : Orderly {} where
  keys := .nil
  filled _ h := absurd h List.not_mem_nil
  settled _ h := absurd h List.not_mem_nil
  ids := .nil
  given _ h := absurd h List.not_mem_nil

variable {s : Store}

theorem mem_files_of_get_ne_nil (h : s.get file ≠ []) : (file, s.get file) ∈ s.files := by
  rw [get] at h ⊢
  cases hlookup : s.files.lookup file with
  | none => exact absurd (by rw [hlookup]; rfl) h
  | some bps =>
    obtain ⟨before, after, hfiles, -⟩ := List.lookup_eq_some_iff.1 hlookup
    rw [hfiles]
    exact List.mem_append_right _ List.mem_cons_self

theorem mem_stored_of_mem_get {bp : Breakpoint} (h : bp ∈ s.get file) : bp ∈ s.stored :=
  List.mem_flatMap.2 ⟨_, mem_files_of_get_ne_nil (List.ne_nil_of_mem h), h⟩

theorem stored_set (s : Store) (file : String) (lines : List UInt32) :
    (s.set file lines).2.stored =
      (s.set file lines).1 ++ (s.others file).flatMap Prod.snd := by
  rw [stored, files_set]
  split
  · next hnil => rw [List.isEmpty_iff.1 hnil, List.nil_append]
  · rfl

theorem mem_files_set {s : Store} {file : String} {lines : List UInt32}
    {entry : String × List Breakpoint} (h : entry ∈ (s.set file lines).2.files) :
    entry ∈ s.others file ∨
      entry = (file, (s.set file lines).1) ∧ (s.set file lines).1 ≠ [] := by
  rw [files_set] at h
  split at h
  · exact .inl h
  · next hne =>
    rcases List.mem_cons.1 h with rfl | h
    · exact .inr ⟨rfl, mt List.isEmpty_iff.2 hne⟩
    · exact .inl h

theorem others_sublist (s : Store) (file : String) : (s.others file).Sublist s.files :=
  List.filter_sublist

theorem others_set (s : Store) (file : String) (lines : List UInt32) :
    (s.set file lines).2.others file = s.others file := by
  rw [others, files_set]
  split
  · simp [others, List.filter_filter]
  · rw [List.filter_cons_of_neg (by simp)]
    simp [others, List.filter_filter]

theorem map_line_set (s : Store) (file : String) (lines : List UInt32) :
    (s.set file lines).1.map Breakpoint.line = lines.eraseDups :=
  map_line_assign file (s.get file) s.lastId lines.eraseDups

theorem settled_set (s : Store) (file : String) (lines : List UInt32) :
    Settled file (s.set file lines).1 where
  lines := by
    have hnodup := nodup_eraseDups lines
    rw [← map_line_set s file lines] at hnodup
    exact List.pairwise_map.1 hnodup
  plain _ hbp := pending_of_mem_assign hbp

namespace Orderly

theorem settled_get (h : s.Orderly) (file : String) : Settled file (s.get file) := by
  by_cases hnil : s.get file = []
  · rw [hnil]
    exact ⟨.nil, fun _ hbp => absurd hbp List.not_mem_nil⟩
  · exact h.settled _ (mem_files_of_get_ne_nil hnil)

theorem eq_of_id_eq (h : s.Orderly) {x y : Breakpoint} (hx : x ∈ s.stored) (hy : y ∈ s.stored)
    (hxy : x.id = y.id) : x = y :=
  List.inj_on_of_nodup_map (List.pairwise_map.2 h.ids) hx hy hxy

theorem file_ne_of_mem_others (h : s.Orderly) {bp : Breakpoint}
    (hbp : bp ∈ (s.others file).flatMap Prod.snd) : bp ∈ s.stored ∧ bp.file ≠ file := by
  obtain ⟨entry, hentry, hbp⟩ := List.mem_flatMap.1 hbp
  obtain ⟨hmem, hne⟩ := List.mem_filter.1 hentry
  refine ⟨List.mem_flatMap.2 ⟨entry, hmem, hbp⟩, ?_⟩
  rw [(h.settled entry hmem).plain bp hbp]
  simpa using hne

section Request

variable (h : s.Orderly)
  (hlast : s.lastId.toNat + (s.newLines file lines).length < UInt32.size)
include h hlast

theorem old_or_new_of_mem_set {bp : Breakpoint} (hbp : bp ∈ (s.set file lines).1) :
    bp ∈ s.get file ∨ isNew (s.get file) bp.line = true ∧ s.lastId < bp.id ∧
      bp.id ≤ (s.set file lines).2.lastId := by
  rcases old_or_new_of_mem_assign (h.settled_get file) hlast hbp with hold | ⟨hline, hlt, hle⟩
  · exact .inl hold
  · refine .inr ⟨hline, UInt32.lt_iff_toNat_lt.2 hlt, UInt32.le_iff_toNat_le.2 ?_⟩
    rw [toNat_lastId_set hlast]
    exact hle

theorem eq_of_line_eq_set {bp x : Breakpoint} (hbp : bp ∈ (s.set file lines).1)
    (hx : x ∈ s.get file) (hline : x.line = bp.line) : bp = x := by
  rcases h.old_or_new_of_mem_set hlast hbp with hold | ⟨hnew, -⟩
  · exact List.inj_on_of_nodup_map (h.settled_get file).nodup hold hx hline.symm
  · exact absurd hline (isNew_iff.1 hnew x hx)

theorem lastId_lt_of_new {bp : Breakpoint} (hbp : bp ∈ (s.set file lines).1)
    (hnew : ∀ x ∈ s.get file, x.line ≠ bp.line) : s.lastId < bp.id := by
  rcases h.old_or_new_of_mem_set hlast hbp with hold | ⟨-, hlt, -⟩
  · exact absurd rfl (hnew bp hold)
  · exact hlt

omit h in
theorem lastId_le_set : s.lastId ≤ (s.set file lines).2.lastId := by
  rw [UInt32.le_iff_toNat_le, toNat_lastId_set hlast]
  exact Nat.le_add_right _ _

theorem eq_of_id_eq_set {x y : Breakpoint} (hx : x ∈ (s.set file lines).1)
    (hy : y ∈ (s.set file lines).1) (hid : x.id = y.id) : x = y := by
  -- an old number is at most the last one that was given, and a new one is above it
  rcases h.old_or_new_of_mem_set hlast hx with hxold | ⟨hxnew, hxlt, -⟩ <;>
    rcases h.old_or_new_of_mem_set hlast hy with hyold | ⟨hynew, hylt, -⟩
  · exact h.eq_of_id_eq (mem_stored_of_mem_get hxold) (mem_stored_of_mem_get hyold) hid
  · have hx := h.given x (mem_stored_of_mem_get hxold)
    exact absurd (hid ▸ hx) (UInt32.not_le.2 hylt)
  · have hy := h.given y (mem_stored_of_mem_get hyold)
    exact absurd (hid ▸ hy) (UInt32.not_le.2 hxlt)
  · have hgrow : ((s.set file lines).1.filter fun bp => isNew (s.get file) bp.line).Pairwise
        fun x y => x.id < y.id := pairwise_new_assign (h.settled_get file) hlast
    have hnodup := List.pairwise_map.2 (hgrow.imp UInt32.ne_of_lt)
    exact List.inj_on_of_nodup_map hnodup (List.mem_filter.2 ⟨hx, hxnew⟩)
      (List.mem_filter.2 ⟨hy, hynew⟩) hid

/-- A breakpoint of an answer has no number of another file. -/
theorem id_ne_of_mem_others {x y : Breakpoint} (hx : x ∈ (s.set file lines).1)
    (hy : y ∈ (s.others file).flatMap Prod.snd) : x.id ≠ y.id := by
  intro hid
  obtain ⟨hystored, hyfile⟩ := h.file_ne_of_mem_others hy
  rcases h.old_or_new_of_mem_set hlast hx with hxold | ⟨-, hlt, -⟩
  · rw [← h.eq_of_id_eq (mem_stored_of_mem_get hxold) hystored hid] at hyfile
    exact hyfile (by rw [(h.settled_get file).plain x hxold, file_pending])
  · exact absurd (h.given y hystored) (UInt32.not_le.2 (hid ▸ hlt))

theorem set : (s.set file lines).2.Orderly := by
  have hothers := s.others_sublist file
  constructor
  case keys =>
    have hrest : ((s.others file).map Prod.fst).Nodup := h.keys.sublist (hothers.map _)
    rw [files_set]
    split
    · exact hrest
    · refine List.nodup_cons.2 ⟨?_, hrest⟩
      intro hmem
      obtain ⟨entry, hentry, hname⟩ := List.mem_map.1 hmem
      exact absurd hname (by simpa using (List.mem_filter.1 hentry).2)
  case filled =>
    intro entry hmem
    rcases mem_files_set hmem with hmem | ⟨rfl, hne⟩
    · exact h.filled entry (hothers.subset hmem)
    · exact hne
  case settled =>
    intro entry hmem
    rcases mem_files_set hmem with hmem | ⟨rfl, -⟩
    · exact h.settled entry (hothers.subset hmem)
    · exact settled_set s file lines
  case ids =>
    rw [stored_set, List.pairwise_append]
    refine ⟨?_, h.ids.sublist (hothers.flatMap _),
      fun x hx y hy => h.id_ne_of_mem_others hlast hx hy⟩
    refine (settled_set s file lines).lines.imp_of_mem ?_
    intro x y hx hy hline hid
    exact hline (congrArg Breakpoint.line (h.eq_of_id_eq_set hlast hx hy hid))
  case given =>
    intro bp hbp
    have hgrow := lastId_le_set hlast
    rw [stored_set] at hbp
    rcases List.mem_append.1 hbp with hbp | hbp
    · rcases h.old_or_new_of_mem_set hlast hbp with hold | ⟨-, -, hle⟩
      · exact UInt32.le_trans (h.given bp (mem_stored_of_mem_get hold)) hgrow
      · exact hle
    · exact UInt32.le_trans (h.given bp (h.file_ne_of_mem_others hbp).1) hgrow

end Request

theorem setAll {requests : List (String × List UInt32)} (h : s.Orderly)
    (hlast : s.lastId.toNat + s.issued requests < UInt32.size) : (s.setAll requests).Orderly := by
  induction requests generalizing s with
  | nil => exact h
  | cons request requests ih =>
    obtain ⟨file, lines⟩ := request
    rw [issued] at hlast
    have hset : (s.set file lines).2.lastId.toNat =
        s.lastId.toNat + (s.newLines file lines).length := toNat_lastId_set (by omega)
    exact ih (h.set (by omega)) (by omega)

end Orderly

/-- A request that is repeated is answered in the same way, and leaves the store as it is. -/
theorem set_set (s : Store) (file : String) (lines : List UInt32) :
    (s.set file lines).2.set file lines = s.set file lines := by
  have hassign : assign file ((s.set file lines).2.get file) (s.set file lines).2.lastId
      lines.eraseDups = ((s.set file lines).1, (s.set file lines).2.lastId) := by
    rw [get_set_self, ← map_line_set s file lines]
    exact assign_map_line (settled_set s file lines) (fun _ hbp => hbp) _
  obtain ⟨hfound, hlast⟩ : ((s.set file lines).2.set file lines).1 = (s.set file lines).1 ∧
      ((s.set file lines).2.set file lines).2.lastId = (s.set file lines).2.lastId :=
    Prod.ext_iff.1 hassign
  have hfiles : ((s.set file lines).2.set file lines).2.files = (s.set file lines).2.files := by
    rw [files_set, hfound, others_set, ← files_set]
  exact Prod.ext hfound (congrArg₂ Store.mk hfiles hlast)

end Store
end Breakpoint

/-! ## Requests to an engine -/

namespace Supervisor

open Breakpoint (Store)

variable {ω : Type}

/-- A request as something that happens to an engine. -/
def Occurrence.ofRequest (request : String × List UInt32) : Occurrence ω :=
  .called (.setBreakpoints request.1 request.2)

/-- The breakpoints that an engine answers requests with. -/
def State.answered (S : System ω) (s : State ω) : List (String × List UInt32) → List Breakpoint
  | [] => []
  | (file, lines) :: requests =>
    match perform S (.setBreakpoints file lines) s with
    | (.ok (found : List Breakpoint), s) => found ++ s.answered S requests
    | (.error _, s) => s.answered S requests

theorem setBreakpoints_eq (S : System ω) (file : String) (lines : List UInt32) (s : State ω) :
    perform S (.setBreakpoints file lines) s =
      (.ok (s.store.set file lines).1, { s with store := (s.store.set file lines).2 }) := rfl

theorem State.answered_cons (S : System ω) (s : State ω) (file : String) (lines : List UInt32)
    (requests : List (String × List UInt32)) :
    s.answered S ((file, lines) :: requests) = (s.store.set file lines).1 ++
      { s with store := (s.store.set file lines).2 }.answered S requests := rfl

theorem State.occurAll_ofRequest (S : System ω) (s : State ω)
    (requests : List (String × List UInt32)) :
    s.occurAll S (requests.map .ofRequest) = { s with store := s.store.setAll requests } := by
  induction requests generalizing s with
  | nil => rfl
  | cons request requests ih => exact ih _

theorem State.answered_le (S : System ω) {s : State ω} {requests : List (String × List UInt32)}
    (h : s.store.Orderly) (hlast : s.store.lastId.toNat + s.store.issued requests < UInt32.size)
    {bp : Breakpoint} (hbp : bp ∈ s.answered S requests) :
    bp.id ≤ (s.store.setAll requests).lastId := by
  induction requests generalizing s with
  | nil => exact absurd hbp List.not_mem_nil
  | cons request requests ih =>
    obtain ⟨file, lines⟩ := request
    rw [Store.issued] at hlast
    have hset : (s.store.set file lines).2.lastId.toNat =
        s.store.lastId.toNat + (s.store.newLines file lines).length :=
      Store.toNat_lastId_set (by omega)
    have hrest : (s.store.set file lines).2.lastId.toNat +
        (s.store.set file lines).2.issued requests < UInt32.size := by omega
    have horderly : (s.store.set file lines).2.Orderly := h.set (by omega)
    rw [answered_cons] at hbp
    rcases List.mem_append.1 hbp with hbp | hbp
    -- the breakpoints of the first answer are in the store, and its last number only grows
    · have hle : bp.id ≤ (s.store.set file lines).2.lastId := by
        rw [← Store.get_set_self] at hbp
        exact horderly.given bp (Store.mem_stored_of_mem_get hbp)
      refine UInt32.le_trans hle (UInt32.le_iff_toNat_le.2 ?_)
      show _ ≤ ((s.store.set file lines).2.setAll requests).lastId.toNat
      rw [Store.toNat_lastId_setAll hrest]
      exact Nat.le_add_right _ _
    · exact ih horderly hrest hbp

/-- Requests to a fresh engine, and one more.  It is answered line by line, in the order in which the
lines occur first; a line that the file has set keeps its breakpoint, and the others get numbers
above all that were given before.  No two breakpoints have one number, no other file changes, the
file has what was answered, and the same request once more changes nothing. -/
theorem requests_number_lines (S : System ω) (w : ω) (past : List (String × List UInt32))
    (file : String) (lines : List UInt32)
    (h : Store.issued {} (past ++ [(file, lines)]) < UInt32.size) :
    let fresh : State ω := { system := w }
    let s := fresh.occurAll S (past.map .ofRequest)
    ∃ (bps : List Breakpoint) (s' : State ω),
      perform S (.setBreakpoints file lines) s = (.ok bps, s') ∧
      (∀ line, line ∈ bps.map Breakpoint.line ↔ line ∈ lines) ∧
      ((bps.map Breakpoint.line).Pairwise fun x y => lines.idxOf x < lines.idxOf y) ∧
      (∀ bp ∈ bps, bp.file = file) ∧
      (∀ bp ∈ bps, ∀ old ∈ s.store.get file, old.line = bp.line → bp = old) ∧
      (∀ bp ∈ bps, (∀ old ∈ s.store.get file, old.line ≠ bp.line) →
        ∀ earlier ∈ fresh.answered S past, earlier.id < bp.id) ∧
      ((bps.filter fun bp => (s.store.get file).all fun old => old.line != bp.line).Pairwise
        fun x y => x.id < y.id) ∧
      (s'.store.stored.Pairwise fun x y => x.id ≠ y.id) ∧
      (∀ other, other ≠ file → s'.store.files.lookup other = s.store.files.lookup other) ∧
      s'.store.files.lookup file = (if bps = [] then none else some bps) ∧
      ((s'.store.files.map Prod.fst).Nodup ∧ ∀ entry ∈ s'.store.files, entry.2 ≠ []) ∧
      perform S (.setBreakpoints file lines) s' = (.ok bps, s') := by
  intro fresh s
  rw [Store.issued_append] at h
  have hpast : fresh.store.lastId.toNat + fresh.store.issued past < UInt32.size := by
    show 0 + Store.issued {} past < _
    omega
  have hs : s.store = fresh.store.setAll past := by
    show (fresh.occurAll S (past.map .ofRequest)).store = _
    rw [State.occurAll_ofRequest]
  have horderly : s.store.Orderly := by
    rw [hs]
    exact Store.orderly_empty.setAll hpast
  have hlast : s.store.lastId.toNat + (s.store.newLines file lines).length < UInt32.size := by
    rw [hs, Store.toNat_lastId_setAll hpast]
    show 0 + Store.issued {} past + (Store.newLines (Store.setAll {} past) file lines).length < _
    rw [Nat.zero_add]
    exact h
  have hafter := horderly.set hlast
  refine ⟨(s.store.set file lines).1, { s with store := (s.store.set file lines).2 },
    setBreakpoints_eq S file lines s, ?lines, ?order, ?file, ?kept, ?fresh, ?growing, hafter.ids,
    ?others, Store.lookup_files_set_self s.store file lines, ⟨hafter.keys, hafter.filled⟩, ?again⟩
  case lines =>
    intro line
    rw [Store.map_line_set, List.mem_eraseDups]
  case order =>
    rw [Store.map_line_set]
    exact Store.pairwise_idxOf_eraseDups lines
  case file =>
    intro bp hbp
    rw [(Store.settled_set s.store file lines).plain bp hbp, Store.file_pending]
  case kept => exact fun bp hbp old hold hline => horderly.eq_of_line_eq_set hlast hbp hold hline
  case fresh =>
    intro bp hbp hnew earlier hearlier
    have hle := State.answered_le S Store.orderly_empty hpast hearlier
    rw [← hs] at hle
    exact UInt32.lt_of_le_of_lt hle (horderly.lastId_lt_of_new hlast hbp hnew)
  case growing => exact Store.pairwise_new_assign (horderly.settled_get file) hlast
  case others => exact fun other hne => Store.lookup_files_set_of_ne s.store hne lines
  case again => rw [setBreakpoints_eq, Store.set_set]

/-- Lines of two files, and then other lines of the first one. -/
theorem requests_number_lines_merged :
    Store.issued {} [("a.c", [3, 5]), ("b.c", [5]), ("a.c", [7, 3, 7])] = 4 ∧
      ∃ s' : State Unit,
        perform Breakpoint.Book.idle (.setBreakpoints "a.c" [7, 3, 7])
            (({ system := () } : State Unit).occurAll Breakpoint.Book.idle
              ([("a.c", [3, 5]), ("b.c", [5])].map .ofRequest)) =
          (.ok [Store.pending "a.c" 4 7, Store.pending "a.c" 1 3], s') ∧
        s'.store.files.lookup "b.c" = some [Store.pending "b.c" 3 5] ∧
        perform Breakpoint.Book.idle (.setBreakpoints "a.c" [7, 3, 7]) s' =
          (.ok [Store.pending "a.c" 4 7, Store.pending "a.c" 1 3], s') := by
  have hissued : Store.issued {} [("a.c", [3, 5]), ("b.c", [5]), ("a.c", [7, 3, 7])] = 4 := by
    decide
  obtain ⟨bps, s', hcall, -, -, -, -, -, -, -, hothers, -, -, hagain⟩ :=
    requests_number_lines Breakpoint.Book.idle () [("a.c", [3, 5]), ("b.c", [5])] "a.c" [7, 3, 7]
      (Nat.lt_of_le_of_lt (Nat.le_of_eq hissued) (by decide))
  obtain ⟨rfl⟩ : bps = [Store.pending "a.c" 4 7, Store.pending "a.c" 1 3] :=
    Except.ok.inj ((congrArg Prod.fst hcall).symm.trans (by cbv))
  refine ⟨hissued, s', hcall, ?_, hagain⟩
  rw [hothers "b.c" (by decide)]
  cbv

end Supervisor
end DebugSession
