/-
What comes of commands.  A course holds the deeds for commands in their order, up to the command with
which the client leaves; a loop follows a course if it takes the lines of these commands and makes
the calls of their deeds.
-/
import DebugSession.Breakpoint.Book
import DebugSession.Proofs.FrontEnd.Conversation
import Mathlib.Data.List.Forall2

namespace DebugSession

open DebugSession.Action (arrivals calls)
open Scene (Stretch)

variable {σ D M C S A : Type}

/-- What came of a command. -/
structure Deed where
  /-- The calls that were made for it. -/
  calls : List Call
  fails : Bool
  /-- Whether the client leaves with it. -/
  leaves : Bool
  /-- The breakpoint list behind it. -/
  book : Breakpoint.Book
deriving Repr, DecidableEq

namespace Deed

/-- Deeds one after the other, taken for one. -/
def inOne (deeds : List Deed) : Deed where
  calls := deeds.flatMap calls
  fails := deeds.any fails
  leaves := deeds.any leaves
  book := (deeds.getLast?.map book).getD {}

theorem inOne_singleton (d : Deed) : inOne [d] = d := by
  simp [inOne]

end Deed

/-- The deeds for commands, and where the last of them leads.  No command is carried out after the
one with which the client leaves. -/
def course (work : C → S → Deed × S) : List C → S → List Deed × S
  | [], s => ([], s)
  | c :: cs, s =>
    let (deed, next) := work c s
    if deed.leaves then ([deed], next)
    else
      let (deeds, last) := course work cs next
      (deed :: deeds, last)

section Course

variable {work : C → S → Deed × S} {c : C} {cs : List C} {s : S}

theorem course_of_leaves (h : (work c s).1.leaves = true) :
    course work (c :: cs) s = ([(work c s).1], (work c s).2) := by
  rw [course]
  exact if_pos h

theorem course_of_not_leaves (h : (work c s).1.leaves = false) :
    course work (c :: cs) s =
      ((work c s).1 :: (course work cs (work c s).2).1, (course work cs (work c s).2).2) := by
  rw [course]
  exact if_neg (by simp [h])

theorem course_singleton (c : C) (s : S) :
    course work [c] s = ([(work c s).1], (work c s).2) := by
  cases h : (work c s).1.leaves with
  | true => exact course_of_leaves h
  | false => exact course_of_not_leaves h

theorem course_append_of_leaves {a : List C} (b : List C)
    (h : (course work a s).1.any Deed.leaves = true) :
    course work (a ++ b) s = course work a s := by
  induction a generalizing s with
  | nil => exact absurd h (by simp [course])
  | cons c a ih =>
    cases hc : (work c s).1.leaves with
    | true => rw [List.cons_append, course_of_leaves hc, course_of_leaves hc]
    | false =>
      rw [course_of_not_leaves hc, List.any_cons, hc, Bool.false_or] at h
      rw [List.cons_append, course_of_not_leaves hc, course_of_not_leaves hc, ih h]

theorem course_append_of_stays {a : List C} (b : List C)
    (h : (course work a s).1.any Deed.leaves = false) :
    course work (a ++ b) s =
      ((course work a s).1 ++ (course work b (course work a s).2).1,
        (course work b (course work a s).2).2) := by
  induction a generalizing s with
  | nil => rfl
  | cons c a ih =>
    have hc : (work c s).1.leaves = false := by
      cases hc : (work c s).1.leaves with
      | true => exact absurd h (by simp [course_of_leaves hc, hc])
      | false => rfl
    rw [course_of_not_leaves hc, List.any_cons, hc, Bool.false_or] at h
    rw [List.cons_append, course_of_not_leaves hc, course_of_not_leaves hc, ih h]
    rfl

end Course

/-! ## Loops -/

/-- A turn does what the work on a command comes to. -/
structure Carries (work : C → S → Deed × S) (c : C) (s : S) (t : Turn A) (f : Flow) (s' : S) :
    Prop where
  calls : Action.calls t.acts = (work c s).1.calls
  flow : f = .leave ↔ (work c s).1.leaves = true
  after : s' = (work c s).2

/-- A conversation in which each message is a command has the course of the commands. -/
theorem Conversation.course_eq {Answers : M → S → Turn A → Flow → S → Prop} {Asks : M → C → Prop}
    {work : C → S → Deed × S}
    (hwork : ∀ m c s t f s', Asks m c → Answers m s t f s' → Carries work c s t f s')
    {ms : List M} {cs : List C} (hasks : List.Forall₂ Asks ms cs) {s s' : S} {ts : List (Turn A)}
    {f : Flow} (h : Conversation Answers ms s ts f s') :
    ts.map (fun t => calls t.acts) = (course work cs s).1.map Deed.calls ∧
      (f = .leave ↔ (course work cs s).1.any Deed.leaves = true) ∧ s' = (course work cs s).2 := by
  induction h generalizing cs with
  | done =>
    cases hasks
    exact ⟨rfl, ⟨fun hf => Flow.noConfusion hf, fun hl => Bool.noConfusion hl⟩, rfl⟩
  | left ht =>
    cases hasks with
    | cons hask _ =>
      have hcarries := hwork _ _ _ _ _ _ hask ht
      have hleaves := hcarries.flow.1 rfl
      rw [course_of_leaves hleaves]
      refine ⟨congrArg (fun x => [x]) hcarries.calls, ⟨fun _ => ?_, fun _ => rfl⟩, hcarries.after⟩
      simp [hleaves]
  | goOn ht _ ih =>
    cases hasks with
    | cons hask hlater =>
      have hcarries := hwork _ _ _ _ _ _ hask ht
      have hstays : (work _ _).1.leaves = false :=
        Bool.eq_false_iff.2 fun hl => Flow.noConfusion (hcarries.flow.2 hl)
      rw [course_of_not_leaves hstays]
      obtain ⟨hcalls, hflow, hafter⟩ := ih hlater
      rw [hcarries.after] at hcalls hflow hafter
      refine ⟨?_, ?_, hafter⟩
      · rw [List.map_cons, List.map_cons, hcarries.calls, hcalls]
      · rw [List.any_cons, hstays, Bool.false_or]
        exact hflow

/-- A loop ends well, makes the calls of a course and ends as the course does.  If the client leaves,
only the reads that bring the commands of the course are made, otherwise all of them. -/
structure Follows (result : Except String Unit × Run σ D) (before : Scene)
    (taken : List (List Arrival)) (course : List Deed × D × σ) : Prop where
  ends : result.1 = .ok ()
  standing : (result.2.desk, result.2.engine) = course.2
  acts : ∃ acts, result.2.scene.trace = before.trace ++ acts ∧
    calls acts = course.1.flatMap Deed.calls ∧
    arrivals acts =
      (if course.1.any Deed.leaves then taken.take course.1.length else taken).flatten

/-- What is written before a loop is no part of its course. -/
theorem Follows.after {result : Except String Unit × Run σ D} {before s : Scene}
    {taken : List (List Arrival)} {course : List Deed × D × σ} {acts : List Action}
    {said : List String} (hs : Stretch (fun _ _ _ => True) [] [] said before acts s)
    (h : Follows result s taken course) : Follows result before taken course := by
  obtain ⟨more, htrace, hcalls, harrivals⟩ := h.acts
  refine ⟨h.ends, h.standing, acts ++ more, ?_, ?_, ?_⟩
  · rw [htrace, hs.grows.trace, List.append_assoc]
  · rw [Action.calls_append, hs.calls, List.nil_append, hcalls]
  · rw [Action.arrivals_append, hs.arrivals, List.nil_append, harrivals]

/-- The loop of a front end whose messages are commands follows the course of the commands. -/
theorem FrontEnd.serve_follows {F : FrontEnd σ D M}
    (hinvite : ∀ r : Run σ D, (∀ n, r.scene.writeError n = none) →
      (Run.onScene F.invite r).1 = .ok () ∧ ∃ acts said,
        Stretch (fun _ _ _ => True) [] [] said r.scene acts (F.invited r).scene)
    (Answers : M → D × σ → Turn A → Flow → D × σ → Prop)
    (hturn : ∀ m taken (r : Run σ D), (∀ n, r.scene.writeError n = none) → ∃ f r' acts answer,
      F.answer m ((F.invited r).shown taken) = (.ok f, r') ∧
        (∀ n, r'.scene.writeError n = none) ∧ r.scene.Grows acts r'.scene ∧
        Answers m (r.desk, r.engine) ⟨taken, acts, answer⟩ f (r'.desk, r'.engine))
    (hshown : ∀ m s t f s', Answers m s t f s' → arrivals t.acts = t.taken)
    {Asks : M → C → Prop} {work : C → D × σ → Deed × D × σ}
    (hwork : ∀ m c s t f s', Asks m c → Answers m s t f s' → Carries work c s t f s')
    {readings : List (Reading M)} {ms : List M} {cs : List C}
    (hreadings : readings.map Reading.outcome = ms.map (fun m => .ok (some m)) ++ [.ok none])
    (hasks : List.Forall₂ Asks ms cs) {r : Run σ D} (hw : ∀ n, r.scene.writeError n = none) :
    Follows (F.serve readings r) r.scene (readings.map Reading.taken)
      (course work cs (r.desk, r.engine)) := by
  have hending : readings.map Reading.outcome = ms.map (fun m => .ok (some m)) ++
      [(Except.ok () : Except String Unit).map fun _ => none] := hreadings
  obtain ⟨turns, f, mid, hconversation, hmid, hgrows, hend⟩ :=
    serve_turns (fun r => ∀ n, r.scene.writeError n = none) (fun r hr => (hinvite r hr).1)
      (fun r => (r.desk, r.engine)) Answers hturn hending hw
  obtain ⟨hcalls, hflow, hafter⟩ := hconversation.course_eq hwork hasks
  have hturns := hconversation.forall_turn hshown
  have hmade : calls (turns.flatMap Turn.acts) = (course work cs (r.desk, r.engine)).1.flatMap
      Deed.calls := by
    rw [Action.calls, List.filterMap_flatMap, List.flatMap_def, List.flatMap_def, ← hcalls]
    rfl
  have htaken : arrivals (turns.flatMap Turn.acts) = (turns.map Turn.taken).flatten := by
    rw [Action.arrivals, List.filterMap_flatMap, List.flatMap_def]
    exact congrArg List.flatten (List.map_congr_left hturns)
  have hlength : turns.length = (course work cs (r.desk, r.engine)).1.length := by
    rw [← List.length_map (f := Deed.calls), ← hcalls, List.length_map]
  rcases hend with ⟨hf, hserve, hprefix⟩ | ⟨hf, last, hserve, hall⟩
  · rw [hserve]
    refine ⟨rfl, hafter, _, hgrows.trace, hmade, ?_⟩
    rw [if_pos (hflow.1 hf), htaken, List.prefix_iff_eq_take.1 hprefix, List.length_map, hlength]
  · obtain ⟨-, acts, said, hinvited⟩ := hinvite mid hmid
    obtain ⟨more, hmore⟩ := Scene.manner_any.stretch_takeAll last (F.invited mid).scene
    have hclosing := Scene.manner_any.stretch_append hinvited hmore
    rw [hserve]
    refine ⟨rfl, ?_, _, (hgrows.trans hclosing.grows).trace, ?_, ?_⟩
    · exact hafter
    · rw [Action.calls_append, hclosing.calls, hmade]
      exact List.append_nil _
    · have hstays : ¬ (course work cs (r.desk, r.engine)).1.any Deed.leaves = true :=
        fun hl => Flow.noConfusion (hf.symm.trans (hflow.2 hl))
      rw [if_neg hstays, ← hall, List.flatten_append, Action.arrivals_append, htaken,
        hclosing.arrivals]
      simp

end DebugSession
