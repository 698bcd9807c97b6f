/-
Deleting breakpoints by their numbers.  The numbers are taken one by one, each removal sends the
engine a request for the file it touches, and the first argument that cannot be obeyed ends the
command.  So what is deleted are the breakpoints of the longest front of the arguments in which each
says the number of a breakpoint, none of them twice.
-/
import DebugSession.Proofs.Breakpoint.Reached
import DebugSession.Proofs.Mi.Conversation
import DebugSession.Proofs.Text.Number

namespace DebugSession

open Text.Decimal (Says parseU32)

namespace Breakpoint
namespace Book

variable {ω : Type}

/-! ## Books without numbers -/

/-- A book without the breakpoints of some numbers. -/
def without (b : Book) (ids : List UInt32) : Book :=
  ⟨b.entries.filter fun bp => !ids.contains bp.id⟩

theorem mem_without {b : Book} {ids : List UInt32} {bp : Breakpoint} :
    bp ∈ (b.without ids).entries ↔ bp ∈ b.entries ∧ bp.id ∉ ids := by
  simp [without]

theorem without_nil (b : Book) : b.without [] = b := by
  simp [without]

/-- Numbers that arguments say one by one, all of listed breakpoints and none twice. -/
structure Named (b : Book) (args : List String) (ids : List UInt32) : Prop where
  said : List.Forall₂ (fun arg id => Says arg.toList (UInt32.toNat id)) args ids
  listed : ∀ id ∈ ids, ∃ bp ∈ b.entries, bp.id = id
  nodup : ids.Nodup

theorem named_nil (b : Book) : Named b [] [] where
  said := .nil
  listed _ h := absurd h List.not_mem_nil
  nodup := .nil

/-- A listed number before numbers that are named without it. -/
theorem Named.cons {b : Book} {arg : String} {args : List String} {bp : Breakpoint}
    {ids : List UInt32} (h : Named (b.without [bp.id]) args ids)
    (hspelled : Says arg.toList bp.id.toNat) (hbp : bp ∈ b.entries) :
    Named b (arg :: args) (bp.id :: ids) where
  said := .cons hspelled h.said
  listed id hid := by
    rcases List.mem_cons.1 hid with rfl | hid
    · exact ⟨bp, hbp, rfl⟩
    · obtain ⟨x, hx, hxid⟩ := h.listed id hid
      exact ⟨x, (mem_without.1 hx).1, hxid⟩
  nodup := by
    refine List.nodup_cons.2 ⟨fun hid => ?_, h.nodup⟩
    obtain ⟨x, hx, hxid⟩ := h.listed bp.id hid
    exact (mem_without.1 hx).2 (List.mem_singleton.2 hxid)

/-- Arguments name numbers in one way only. -/
theorem Named.unique {b : Book} {args : List String} {ids ids' : List UInt32}
    (h : Named b args ids) (h' : Named b args ids') : ids = ids' :=
  List.right_unique_forall₂' (fun arg _ _ h h' => Says.unique (s := arg) h h') h.said h'.said

/-- Arguments that name numbers go on with one that says a listed number that was not named. -/
theorem Named.next {b : Book} {front more : List String} {arg : String} {ids ids' : List UInt32}
    (h : Named b front ids) (hall : Named b (front ++ arg :: more) ids') :
    ∃ id, Says arg.toList id.toNat ∧ id ∉ ids ∧ ∃ bp ∈ b.entries, bp.id = id := by
  have hsplit := List.take_append_drop front.length ids'
  have htake := List.forall₂_take front.length hall.said
  have hdrop := List.forall₂_drop front.length hall.said
  rw [List.take_left] at htake
  rw [List.drop_left] at hdrop
  cases hrest : ids'.drop front.length with
  | nil =>
    rw [hrest] at hdrop
    exact nomatch hdrop
  | cons id rest =>
    rw [hrest] at hdrop hsplit
    have hspelled := (List.forall₂_cons.1 hdrop).1
    have hnodup := hall.nodup
    rw [← hsplit] at hnodup
    have hfront : Named b front (ids'.take front.length) :=
      ⟨htake, fun x hx => hall.listed x (List.mem_of_mem_take hx), (List.nodup_append.1 hnodup).1⟩
    obtain rfl := h.unique hfront
    refine ⟨id, hspelled, fun hid => ?_, hall.listed id ?_⟩
    · exact (List.nodup_append.1 hnodup).2.2 id hid id List.mem_cons_self rfl
    · rw [← hsplit]
      exact List.mem_append_right _ List.mem_cons_self

end Book
end Breakpoint

namespace Mi
namespace Desk

open Breakpoint (Book Store)
open Breakpoint.Book (InStep Named goOn)
open Supervisor (System State engine)

variable {ω : Type}

/-! ## Deletions -/

/-- What is wrong with the argument behind those that said the numbers `ids`. -/
inductive Stuck (b : Book) (ids : List UInt32) (arg : String) : Complaint → Prop where
  | unread (fault : Text.Decimal.Fault) (h : parseU32 arg = .error fault) :
    Stuck b ids arg (.badNumber arg fault)
  | again (id : UInt32) (h : Says arg.toList id.toNat) (hid : id ∈ ids) :
    Stuck b ids arg (.book (.unknownNumber id))
  | unlisted (id : UInt32) (h : Says arg.toList id.toNat) (hid : ∀ bp ∈ b.entries, bp.id ≠ id) :
    Stuck b ids arg (.book (.unknownNumber id))

/-- The numbers that arguments come to, and how it ends. -/
inductive Comes (b : Book) : List String → List UInt32 → Except Complaint Unit → Prop where
  | all {args : List String} {ids : List UInt32} (h : Named b args ids) : Comes b args ids (.ok ())
  | front {front rest : List String} {arg : String} {ids : List UInt32} {c : Complaint}
    (h : Named b front ids) (hstuck : Stuck b ids arg c) :
    Comes b (front ++ arg :: rest) ids (.error c)

/-- What is wrong after a removal was wrong before it, or names the removed number again. -/
theorem Stuck.cons {b : Book} {id : UInt32} {ids : List UInt32} {arg : String} {c : Complaint}
    (h : Stuck (b.without [id]) ids arg c) : Stuck b (id :: ids) arg c := by
  cases h with
  | unread fault hfault => exact .unread fault hfault
  | again other hspelled hother => exact .again other hspelled (List.mem_cons_of_mem id hother)
  | unlisted other hspelled hother =>
    by_cases hid : other = id
    · exact .again other hspelled (by rw [hid]; exact List.mem_cons_self)
    · refine .unlisted other hspelled fun bp hbp hbpid => ?_
      have hkept : bp ∈ (b.without [id]).entries :=
        Book.mem_without.2 ⟨hbp, fun hmem => hid (hbpid.symm.trans (List.mem_singleton.1 hmem))⟩
      exact hother bp hkept hbpid

theorem Comes.cons {b : Book} {arg : String} {args : List String} {bp : Breakpoint}
    {ids : List UInt32} {result : Except Complaint Unit}
    (h : Comes (b.without [bp.id]) args ids result) (hspelled : Says arg.toList bp.id.toNat)
    (hbp : bp ∈ b.entries) : Comes b (arg :: args) (bp.id :: ids) result := by
  cases h with
  | all hnamed => exact .all (hnamed.cons hspelled hbp)
  | front hnamed hstuck => exact .front (hnamed.cons hspelled hbp) hstuck.cons

/-- A deletion: what the arguments come to, from the book and from the engine. -/
structure Deletion (S : System ω) (args : List String) (b : Book) (t : Talk (State ω))
    (ids : List UInt32) (result : Except Complaint Unit) (t' : Talk (State ω)) : Prop where
  ran : deleteAll (engine S) args b t = ((result, b.without ids), t')
  comes : Comes b args ids result
  inStep : InStep (b.without ids) t'.engine.store
  engine_eq : t'.engine = { t.engine with store := t'.engine.store }
  lastId : t'.engine.store.lastId = t.engine.store.lastId

theorem Deletion.stop {S : System ω} {arg : String} {args : List String} {b : Book}
    {t : Talk (State ω)} {c : Complaint} (h : InStep b t.engine.store) (hstuck : Stuck b [] arg c)
    (hran : deleteAll (engine S) (arg :: args) b t = ((.error c, b), t)) :
    Deletion S (arg :: args) b t [] (.error c) t where
  ran := by
    rw [Book.without_nil]
    exact hran
  comes := .front (Book.named_nil b) hstuck
  inStep := by
    rw [Book.without_nil]
    exact h
  engine_eq := rfl
  lastId := rfl

namespace Deletion

variable {S : System ω} {args : List String} {b : Book} {t t' : Talk (State ω)}
  {ids : List UInt32} {result : Except Complaint Unit}

/-- Every file keeps its breakpoints with other numbers, in their order. -/
theorem get (d : Deletion S args b t ids result t') (h : InStep b t.engine.store) (file : String) :
    t'.engine.store.get file =
      (t.engine.store.get file).filter fun bp => !ids.contains bp.id := by
  rw [← d.inStep.stored, ← h.stored, Book.without, List.filter_filter, List.filter_filter]
  refine List.filter_congr fun bp _ => Bool.and_comm ..

/-- What a command to delete comes to. -/
theorem carriedOut {s : State ω} {cmd : Command} {desk : Desk}
    (d : Deletion S cmd.args desk.book { engine := s } ids result t')
    (hop : cmd.operation = "break-delete") (hargs : cmd.args ≠ []) :
    cmd.carriedOut (engine S) (desk, s) =
      ((result.map fun _ => .done [], { desk with book := desk.book.without ids }), t') := by
  have hname : Operation.ofName? cmd.operation = some .deleteBreakpoints := by
    rw [hop]
    exact Operation.ofName?_name .deleteBreakpoints
  have hsome : cmd.args.isEmpty = false := List.isEmpty_eq_false_iff.2 hargs
  rw [Command.carriedOut, handle, hname]
  show desk.deleteBreakpoints (engine S) cmd.args { engine := s } = _
  rw [deleteBreakpoints, hsome]
  simp only [Bool.false_eq_true, if_false]
  rw [bind_of_eq d.ran]
  rfl

end Deletion

end Desk
end Mi
end DebugSession
