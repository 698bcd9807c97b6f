/-
Changes of a book over the process engine, in any order.  Book and engine are in step after each of
them (`changes_in_step`), as long as the engine has numbers to give; how many it gave out is told by
the requests it got.
-/
import Mathlib
import DebugSession.Proofs.Breakpoint.Insertion
import DebugSession.Supervisor.Engine

namespace DebugSession
namespace Breakpoint
namespace Book

variable {σ ω : Type}

/-! ## Requests -/

/-- What a call asks of the store. -/
def request? : Call → Option (String × List UInt32)
  | .setBreakpoints file lines => some (file, lines)
  | _ => none

/-- What the calls of a talk asked of the store. -/
def requests (t : Talk σ) : List (String × List UInt32) :=
  t.exchanges.filterMap fun x => request? x.call

/-- How many numbers the engine gave out in a talk, if it had no breakpoints before. -/
def issued (t : Talk σ) : Nat := Store.issued {} (requests t)

/-- A talk that goes on with a request. -/
def goOn (t : Talk (Supervisor.State ω)) (file : String) (lines : List UInt32) :
    Talk (Supervisor.State ω) where
  engine := { t.engine with store := (t.engine.store.set file lines).2 }
  exchanges := t.exchanges ++ [⟨.setBreakpoints file lines, []⟩]

theorem requests_goOn (t : Talk (Supervisor.State ω)) (file : String) (lines : List UInt32) :
    requests (goOn t file lines) = requests t ++ [(file, lines)] :=
  List.filterMap_append

/-- The engine answers a request out of its store, and reports nothing. -/
theorem ask_setBreakpoints (S : Supervisor.System ω) (file : String) (lines : List UInt32)
    (t : Talk (Supervisor.State ω)) :
    (Supervisor.engine S).ask (.setBreakpoints file lines) t =
      (.ok (t.engine.store.set file lines).1, goOn t file lines) := by
  have hquiet : Supervisor.eventsOf (t.engine.trace.drop t.engine.trace.length) = [] := by
    rw [List.drop_length]
    rfl
  show (_, Talk.mk _ (t.exchanges ++ [⟨_, (Supervisor.eventsOf
    (t.engine.trace.drop t.engine.trace.length)).map .event⟩])) = _
  rw [hquiet]
  rfl

theorem sync_eq (S : Supervisor.System ω) (b : Book) (file : String) (lines : List UInt32)
    (t : Talk (Supervisor.State ω)) :
    b.sync (Supervisor.engine S) file lines t =
      (.ok (b.replaceFile file (t.engine.store.set file lines).1), goOn t file lines) :=
  sync_of_ok (ask_setBreakpoints S file lines t)

theorem insert_eq (S : Supervisor.System ω) {b b' : Book} {file : String} {line : UInt32}
    {t : Talk (Supervisor.State ω)}
    (hb' : b.replaceFile file (t.engine.store.set file (b.linesOf file ++ [line])).1 = b') :
    b.insert (Supervisor.engine S) file line t =
      ((match b'.findAt? file line with
        | some bp => Except.ok bp
        | none => Except.error (.rejected file line), b'),
        goOn t file (b.linesOf file ++ [line])) := by
  subst hb'
  exact insert_of_ok (ask_setBreakpoints S file (b.linesOf file ++ [line]) t)

theorem remove_of_none (S : Supervisor.System ω) {b : Book} {id : UInt32} (h : b.find? id = none)
    (t : Talk (Supervisor.State ω)) :
    b.remove (Supervisor.engine S) id t = ((.error (.unknownNumber id), b), t) := by
  rw [remove, h]
  rfl

theorem remove_of_some (S : Supervisor.System ω) {b b' : Book} {id : UInt32} {bp : Breakpoint}
    {t : Talk (Supervisor.State ω)} (hbp : b.find? id = some bp)
    (hb' : b.replaceFile bp.file (t.engine.store.set bp.file
      ((b.linesOf bp.file).filter fun line => line != bp.line)).1 = b') :
    b.remove (Supervisor.engine S) id t =
      ((.ok bp, b'), goOn t bp.file ((b.linesOf bp.file).filter fun line => line != bp.line)) := by
  rw [remove, hbp]
  simp only [bind, StateT.bind]
  rw [sync_eq, hb']
  rfl

/-! ## Changes -/

inductive Change where
  | insert (file : String) (line : UInt32)
  | remove (id : UInt32)
deriving Repr, DecidableEq

def Change.make (E : Engine σ) (b : Book) :
    Change → StateM (Talk σ) (Except Complaint Breakpoint × Book)
  | .insert file line => b.insert E file line
  | .remove id => b.remove E id

/-- Makes changes one after the other, whatever comes of each. -/
def makeAll (E : Engine σ) (b : Book) : List Change → StateM (Talk σ) Book
  | [] => return b
  | c :: changes => do
    let (_, b) ← c.make E b
    b.makeAll E changes

theorem makeAll_cons (E : Engine σ) (b : Book) (c : Change) (changes : List Change) (t : Talk σ) :
    b.makeAll E (c :: changes) t =
      (c.make E b t).1.2.makeAll E changes (c.make E b t).2 := rfl

/-- What a change comes to: the answer, the book and the talk after it. -/
inductive Effect (b : Book) (t : Talk (Supervisor.State ω)) :
    Change → Except Complaint Breakpoint → Book → Talk (Supervisor.State ω) → Prop where
  | old {bp : Breakpoint} (h : bp ∈ b.entries) :
    Effect b t (.insert bp.file bp.line) (.ok bp) b
      (goOn t bp.file (b.linesOf bp.file ++ [bp.line]))
  | new {file : String} {line : UInt32} {bp : Breakpoint}
    (h : ∀ x ∈ b.entries, ¬ (x.file = file ∧ x.line = line))
    (hbp : bp = Store.pending file (t.engine.store.lastId + 1) line)
    (hnext : t.engine.store.lastId < t.engine.store.lastId + 1) :
    Effect b t (.insert file line) (.ok bp) ⟨b.entries ++ [bp]⟩
      (goOn t file (b.linesOf file ++ [line]))
  | unknown {id : UInt32} (h : ∀ bp ∈ b.entries, bp.id ≠ id) :
    Effect b t (.remove id) (.error (.unknownNumber id)) b t
  | gone {bp : Breakpoint} (h : bp ∈ b.entries) :
    Effect b t (.remove bp.id) (.ok bp) ⟨b.entries.filter fun x => x.id != bp.id⟩
      (goOn t bp.file ((b.linesOf bp.file).filter fun line => line != bp.line))

/-- Book and engine after a talk in which the numbers lasted. -/
structure Kept (b : Book) (t : Talk (Supervisor.State ω)) : Prop where
  inStep : InStep b t.engine.store
  replayed : Store.setAll {} (requests t) = t.engine.store
  lasted : issued t < UInt32.size

theorem issued_goOn {t : Talk (Supervisor.State ω)}
    (h : Store.setAll {} (requests t) = t.engine.store) (file : String) (lines : List UInt32) :
    issued (goOn t file lines) = issued t + (t.engine.store.newLines file lines).length := by
  rw [issued, requests_goOn, Store.issued_append, h]
  rfl

theorem kept_start (w : ω) : Kept {} { engine := { system := w } } where
  inStep := inStep_empty
  replayed := rfl
  lasted := Nat.zero_lt_succ _

/-- A change does what it should if the engine does not start its numbers over with it. -/
theorem InStep.make {b : Book} {t : Talk (Supervisor.State ω)} (h : InStep b t.engine.store)
    (S : Supervisor.System ω) {c : Change}
    (hnumbers : t.engine.store.lastId ≤
      (c.make (Supervisor.engine S) b t).2.engine.store.lastId) :
    Effect b t c (c.make (Supervisor.engine S) b t).1.1 (c.make (Supervisor.engine S) b t).1.2
        (c.make (Supervisor.engine S) b t).2 ∧
      InStep (c.make (Supervisor.engine S) b t).1.2
        (c.make (Supervisor.engine S) b t).2.engine.store := by
  cases c with
  | insert file line =>
    by_cases hold : ∃ bp ∈ b.entries, bp.file = file ∧ bp.line = line
    · obtain ⟨bp, hbp, rfl, rfl⟩ := hold
      obtain ⟨hbook, hstep⟩ := h.insert_old hbp
      have hmake : (Change.insert bp.file bp.line).make (Supervisor.engine S) b t = _ :=
        insert_eq S hbook
      rw [h.findAt?_eq hbp] at hmake
      rw [hmake]
      exact ⟨.old hbp, hstep⟩
    · have hnew : ∀ x ∈ b.entries, ¬ (x.file = file ∧ x.line = line) := fun x hx hplace =>
        hold ⟨x, hx, hplace⟩
      have hnext : t.engine.store.lastId < t.engine.store.lastId + 1 := by
        rw [show (Change.insert file line).make (Supervisor.engine S) b t =
          b.insert (Supervisor.engine S) file line t from rfl, insert_eq S rfl] at hnumbers
        have hlast := Store.lastId_set t.engine.store file (b.linesOf file ++ [line])
        rw [h.newLines_insert hnew] at hlast
        exact Store.lt_next_of_le (hlast ▸ hnumbers)
      obtain ⟨hbook, hstep, -⟩ := h.insert_new hnew hnext
      have hmake : (Change.insert file line).make (Supervisor.engine S) b t = _ :=
        insert_eq S hbook
      have hfind := hstep.findAt?_eq (List.mem_append_right b.entries List.mem_cons_self)
      rw [Store.file_pending, Store.line_pending] at hfind
      rw [hfind] at hmake
      rw [hmake]
      exact ⟨.new hnew rfl hnext, hstep⟩
  | remove id =>
    by_cases hlisted : ∃ bp ∈ b.entries, bp.id = id
    · obtain ⟨bp, hbp, rfl⟩ := hlisted
      obtain ⟨hbook, hstep, -⟩ := h.remove hbp
      have hmake : (Change.remove bp.id).make (Supervisor.engine S) b t = _ :=
        remove_of_some S (h.find?_eq hbp) hbook
      rw [hmake]
      exact ⟨.gone hbp, hstep⟩
    · have hnone : ∀ bp ∈ b.entries, bp.id ≠ id := fun bp hbp hid => hlisted ⟨bp, hbp, hid⟩
      have hfind : b.find? id = none :=
        List.find?_eq_none.2 fun bp hbp => by simpa using hnone bp hbp
      have hmake : (Change.remove id).make (Supervisor.engine S) b t = _ :=
        remove_of_none S hfind t
      rw [hmake]
      exact ⟨.unknown hnone, h⟩

/-- What a change asks of the store, and the store after it, whatever the book is. -/
theorem requests_make (S : Supervisor.System ω) (b : Book) (c : Change)
    (t : Talk (Supervisor.State ω)) :
    ∃ more, requests (c.make (Supervisor.engine S) b t).2 = requests t ++ more ∧
      (c.make (Supervisor.engine S) b t).2.engine.store = t.engine.store.setAll more := by
  cases c with
  | insert file line =>
    refine ⟨[(file, b.linesOf file ++ [line])], ?_⟩
    show requests (b.insert (Supervisor.engine S) file line t).2 = _ ∧
      (b.insert (Supervisor.engine S) file line t).2.engine.store = _
    rw [insert_eq S rfl, requests_goOn]
    exact ⟨rfl, rfl⟩
  | remove id =>
    show ∃ more, requests (b.remove (Supervisor.engine S) id t).2 = _ ∧
      (b.remove (Supervisor.engine S) id t).2.engine.store = _
    cases hbp : b.find? id with
    | none =>
      refine ⟨[], ?_⟩
      rw [remove_of_none S hbp, List.append_nil]
      exact ⟨rfl, rfl⟩
    | some bp =>
      refine ⟨[(bp.file, (b.linesOf bp.file).filter fun line => line != bp.line)], ?_⟩
      rw [remove_of_some S hbp rfl, requests_goOn]
      exact ⟨rfl, rfl⟩

/-- The numbers given out only get more. -/
theorem issued_le_make (S : Supervisor.System ω) (b : Book) (c : Change)
    (t : Talk (Supervisor.State ω)) :
    issued t ≤ issued (c.make (Supervisor.engine S) b t).2 := by
  obtain ⟨more, hmore, -⟩ := requests_make S b c t
  rw [issued, issued, hmore, Store.issued_append]
  exact Nat.le_add_right _ _

/-- The last number of a replayed store counts the numbers given out, while they last. -/
theorem toNat_lastId_of_replayed {t : Talk (Supervisor.State ω)}
    (h : Store.setAll {} (requests t) = t.engine.store) (hlasted : issued t < UInt32.size) :
    t.engine.store.lastId.toNat = issued t := by
  have hlasted' : ({} : Store).lastId.toNat + Store.issued {} (requests t) < UInt32.size := by
    rw [show ({} : Store).lastId.toNat = 0 from rfl, Nat.zero_add]
    exact hlasted
  have hlast := Store.toNat_lastId_setAll hlasted'
  rw [h] at hlast
  exact hlast.trans (Nat.zero_add _)

/-- A change does what it should as long as the numbers last. -/
theorem Kept.make {b : Book} {t : Talk (Supervisor.State ω)} (h : Kept b t)
    (S : Supervisor.System ω) {c : Change}
    (hlasted : issued (c.make (Supervisor.engine S) b t).2 < UInt32.size) :
    Effect b t c (c.make (Supervisor.engine S) b t).1.1 (c.make (Supervisor.engine S) b t).1.2
        (c.make (Supervisor.engine S) b t).2 ∧
      Kept (c.make (Supervisor.engine S) b t).1.2 (c.make (Supervisor.engine S) b t).2 := by
  have hreplayed : Store.setAll {} (requests (c.make (Supervisor.engine S) b t).2) =
      (c.make (Supervisor.engine S) b t).2.engine.store := by
    obtain ⟨more, hrequests, hstore⟩ := requests_make S b c t
    rw [hrequests, Store.setAll_append, h.replayed, hstore]
  have hnumbers : t.engine.store.lastId ≤
      (c.make (Supervisor.engine S) b t).2.engine.store.lastId := by
    rw [UInt32.le_iff_toNat_le, toNat_lastId_of_replayed h.replayed h.lasted,
      toNat_lastId_of_replayed hreplayed hlasted]
    exact issued_le_make S b c t
  obtain ⟨heffect, hstep⟩ := h.inStep.make S hnumbers
  exact ⟨heffect, hstep, hreplayed, hlasted⟩

/-! ## Runs -/

theorem issued_le_makeAll (S : Supervisor.System ω) (b : Book) (changes : List Change)
    (t : Talk (Supervisor.State ω)) :
    issued t ≤ issued (b.makeAll (Supervisor.engine S) changes t).2 := by
  induction changes generalizing b t with
  | nil => exact Nat.le_refl _
  | cons c changes ih =>
    rw [makeAll_cons]
    exact Nat.le_trans (issued_le_make S b c t) (ih _ _)

/-- What holds of a book and a talk and is kept by every change holds after a run. -/
theorem Kept.makeAll {b : Book} {t : Talk (Supervisor.State ω)} (h : Kept b t)
    (S : Supervisor.System ω) {P : Book → Talk (Supervisor.State ω) → Prop} (hP : P b t)
    (hstep : ∀ {b b' : Book} {t t' : Talk (Supervisor.State ω)} {c outcome},
      Kept b t → Effect b t c outcome b' t' → P b t → P b' t')
    {changes : List Change}
    (hlasted : issued (b.makeAll (Supervisor.engine S) changes t).2 < UInt32.size) :
    Kept (b.makeAll (Supervisor.engine S) changes t).1
        (b.makeAll (Supervisor.engine S) changes t).2 ∧
      P (b.makeAll (Supervisor.engine S) changes t).1
        (b.makeAll (Supervisor.engine S) changes t).2 := by
  induction changes generalizing b t with
  | nil => exact ⟨h, hP⟩
  | cons c changes ih =>
    rw [makeAll_cons] at hlasted ⊢
    obtain ⟨heffect, hkept⟩ := h.make S (Nat.lt_of_le_of_lt (issued_le_makeAll S _ changes _) hlasted)
    exact ih hkept (hstep h heffect hP) hlasted

/-- A number that was given out and is not listed. -/
def Retired (id : UInt32) (b : Book) (t : Talk (Supervisor.State ω)) : Prop :=
  id.toNat ≤ issued t ∧ ∀ bp ∈ b.entries, bp.id ≠ id

theorem Kept.issued_le_goOn {b : Book} {t : Talk (Supervisor.State ω)} (h : Kept b t)
    (file : String) (lines : List UInt32) : issued t ≤ issued (goOn t file lines) := by
  rw [issued_goOn h.replayed]
  exact Nat.le_add_right _ _

theorem Retired.step {id : UInt32} {b b' : Book} {t t' : Talk (Supervisor.State ω)} {c : Change}
    {outcome : Except Complaint Breakpoint} (hretired : Retired id b t) (h : Kept b t)
    (heffect : Effect b t c outcome b' t') : Retired id b' t' := by
  obtain ⟨hissued, hnot⟩ := hretired
  cases heffect with
  | old hbp => exact ⟨Nat.le_trans hissued (h.issued_le_goOn _ _), hnot⟩
  | new hnew hbp hnext =>
    refine ⟨Nat.le_trans hissued (h.issued_le_goOn _ _), fun x hx => ?_⟩
    rcases List.mem_append.1 hx with hx | hx
    · exact hnot x hx
    · -- the number of the new entry is greater than all that were given out
      have hid : id ≤ t.engine.store.lastId := by
        rw [UInt32.le_iff_toNat_le, toNat_lastId_of_replayed h.replayed h.lasted]
        exact hissued
      rw [List.mem_singleton.1 hx, hbp]
      exact (UInt32.ne_of_lt (UInt32.lt_of_le_of_lt hid hnext)).symm
  | unknown hnone => exact ⟨hissued, hnot⟩
  | gone hbp =>
    exact ⟨Nat.le_trans hissued (h.issued_le_goOn _ _),
      fun x hx => hnot x (List.mem_of_mem_filter hx)⟩

/-- Book and engine are in step after every change, an insertion never fails, a removal fails if the
number is not listed and drops that entry alone if it is, and a number removed does not come back. -/
theorem changes_in_step (S : Supervisor.System ω) (w : ω) (changes : List Change) (c : Change)
    {b b' : Book} {t t' : Talk (Supervisor.State ω)} {outcome : Except Complaint Breakpoint}
    (hrun : ({} : Book).makeAll (Supervisor.engine S) changes { engine := { system := w } } = (b, t))
    (hmake : c.make (Supervisor.engine S) b t = ((outcome, b'), t'))
    (hlasted : issued t' < UInt32.size) :
    (b'.entries.Pairwise fun x y => x.id < y.id) ∧
    (b'.entries.Pairwise fun x y => ¬ (x.file = y.file ∧ x.line = y.line)) ∧
    (∀ file, (b'.entries.filter fun bp => bp.file == file) =
      (t'.engine.store.files.lookup file).getD []) ∧
    (∀ file line, c = .insert file line →
      (∃ bp ∈ b'.entries, outcome = .ok bp ∧ bp.file = file ∧ bp.line = line) ∧
      (∀ bp ∈ b.entries, bp.file = file → bp.line = line → outcome = .ok bp ∧ b' = b) ∧
      ((∀ bp ∈ b.entries, ¬ (bp.file = file ∧ bp.line = line)) →
        ∃ bp, outcome = .ok bp ∧ b'.entries = b.entries ++ [bp])) ∧
    (∀ id, c = .remove id →
      ((∀ bp ∈ b.entries, bp.id ≠ id) → outcome = .error (.unknownNumber id) ∧ b' = b ∧ t' = t) ∧
      (∀ bp ∈ b.entries, bp.id = id →
        outcome = .ok bp ∧ b'.entries = b.entries.filter (fun x => x.id != id) ∧
        ∀ later, issued (b'.makeAll (Supervisor.engine S) later t').2 < UInt32.size →
          ∀ x ∈ (b'.makeAll (Supervisor.engine S) later t').1.entries, x.id ≠ id)) := by
  have hle : issued t ≤ issued t' := by
    have hmore := issued_le_makeAll S b [c] t
    rw [makeAll_cons, hmake] at hmore
    exact hmore
  have hkept : Kept b t := by
    have hstart : issued (({} : Book).makeAll (Supervisor.engine S) changes
        { engine := { system := w } }).2 < UInt32.size := by
      rw [hrun]
      exact Nat.lt_of_le_of_lt hle hlasted
    have hall := (kept_start w).makeAll S (P := fun _ _ => True) trivial
      (fun _ _ _ => trivial) hstart
    rw [hrun] at hall
    exact hall.1
  have hstep := hkept.make S (c := c)
  rw [hmake] at hstep
  obtain ⟨heffect, hkept'⟩ : Effect b t c outcome b' t' ∧ Kept b' t' := hstep hlasted
  refine ⟨hkept'.inStep.ids, hkept'.inStep.places, hkept'.inStep.stored, ?_, ?_⟩
  · rintro file line rfl
    cases heffect with
    | @old bp hbp =>
      refine ⟨⟨bp, hbp, rfl, rfl, rfl⟩, fun x hx hfile hline => ?_,
        fun hnew => absurd ⟨rfl, rfl⟩ (hnew bp hbp)⟩
      rw [eq_of_place_eq hkept.inStep.places hx hbp ⟨hfile, hline⟩]
      exact ⟨rfl, rfl⟩
    | @new _ _ bp hnew hbp hnext =>
      refine ⟨⟨bp, List.mem_append_right _ List.mem_cons_self, rfl, ?_⟩,
        fun x hx hfile hline => absurd ⟨hfile, hline⟩ (hnew x hx), fun _ => ⟨bp, rfl, rfl⟩⟩
      rw [hbp]
      exact ⟨rfl, rfl⟩
  · rintro id rfl
    cases heffect with
    | unknown hnone =>
      exact ⟨fun _ => ⟨rfl, rfl, rfl⟩, fun bp hbp hid => absurd hid (hnone bp hbp)⟩
    | @gone bp hbp =>
      refine ⟨fun hnone => absurd rfl (hnone bp hbp), fun x hx hid => ?_⟩
      have hretired : Retired bp.id ⟨b.entries.filter fun x => x.id != bp.id⟩
          (goOn t bp.file ((b.linesOf bp.file).filter fun line => line != bp.line)) := by
        refine ⟨?_, fun y hy => by simpa using List.of_mem_filter hy⟩
        refine Nat.le_trans ?_ hle
        rw [← toNat_lastId_of_replayed hkept.replayed hkept.lasted]
        exact UInt32.le_iff_toNat_le.1 (hkept.inStep.given bp hbp)
      rw [eq_of_id_eq hkept.inStep.ids hx hbp hid]
      exact ⟨rfl, rfl, fun later hlater =>
        (hkept'.makeAll S hretired (fun h heffect hP => hP.step h heffect) hlater).2.2⟩

/-- A system in which nothing can be done. -/
def idle : Supervisor.System Unit where
  probe _ _ := .error .srch
  signal w _ _ := (.error .srch, w)
  spawn w _ _ := (.error (.start ""), w)
  pathExists _ _ := false
  which _ _ := .error ""

def threeInsertions : Book × Talk (Supervisor.State Unit) :=
  ({} : Book).makeAll (Supervisor.engine idle)
    [.insert "a.c" 3, .insert "b.c" 7, .insert "a.c" 5] { engine := { system := () } }

/-- The number that is removed after them does not come back. -/
theorem changes_in_step_three :
    ∃ b t, (Change.remove 2).make (Supervisor.engine idle) threeInsertions.1 threeInsertions.2 =
        ((.ok (Store.pending "b.c" 2 7), b), t) ∧
      b.entries = [Store.pending "a.c" 1 3, Store.pending "a.c" 3 5] ∧ issued t = 3 ∧
      ∀ later, issued (b.makeAll (Supervisor.engine idle) later t).2 < UInt32.size →
        ∀ x ∈ (b.makeAll (Supervisor.engine idle) later t).1.entries, x.id ≠ 2 := by
  have hentries : threeInsertions.1.entries =
      [Store.pending "a.c" 1 3, Store.pending "b.c" 2 7, Store.pending "a.c" 3 5] := by cbv
  have hissued : issued ((Change.remove 2).make (Supervisor.engine idle)
      threeInsertions.1 threeInsertions.2).2 = 3 := by cbv
  obtain ⟨⟨⟨outcome, b⟩, t⟩, hmake⟩ : ∃ r, (Change.remove 2).make (Supervisor.engine idle)
    threeInsertions.1 threeInsertions.2 = r := ⟨_, rfl⟩
  rw [hmake] at hissued
  have hlasted : issued t < UInt32.size := Nat.lt_of_le_of_lt (Nat.le_of_eq hissued) (by decide)
  have hrun : ({} : Book).makeAll (Supervisor.engine idle)
      [.insert "a.c" 3, .insert "b.c" 7, .insert "a.c" 5] { engine := { system := () } } =
        (threeInsertions.1, threeInsertions.2) := by
    show threeInsertions = _
    rw [Prod.mk.eta]
  have hstep := changes_in_step idle () _ (.remove 2) hrun hmake hlasted
  obtain ⟨rfl, hbook, hlater⟩ := (hstep.2.2.2.2 2 rfl).2 (Store.pending "b.c" 2 7)
    (by rw [hentries]; decide) rfl
  refine ⟨b, t, hmake, ?_, hissued, hlater⟩
  rw [hbook, hentries]
  decide

end Book
end Breakpoint
end DebugSession
