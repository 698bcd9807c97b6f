/-
What the desk of the machine interface answers.  A command that succeeds has found one of a few
things, or lets the program run; only the exit ends the session, and only if the engine agrees.
-/
import DebugSession.Mi.Desk
import DebugSession.Proofs.Scene

namespace DebugSession
namespace Mi

open Breakpoint (Book)

/-- What a command finds. -/
inductive Finding where
  | nothing
  | breakpoint (bp : Breakpoint)
  | table (book : Book)
  | threads (ts : List ThreadInfo)

namespace Finding

def fields : Finding → Fields
  | nothing => []
  | breakpoint bp => [("bkpt", breakpointValue bp)]
  | table book =>
    [("BreakpointTable", .tuple
      [("nr_rows", .text (Text.Decimal.render book.entries.length)),
        ("body", .list (book.entries.map fun bp => ("bkpt", breakpointValue bp)))])]
  | threads ts => [("threads", .values (ts.map threadValue))]

end Finding

/-- The replies that an operation can have. -/
inductive Yields : Operation → Reply → Prop where
  | left : Yields .exit .exit
  | runs {op : Operation} : op ≠ .exit → Yields op .running
  | finds {op : Operation} (found : Finding) : op ≠ .exit → Yields op (.done found.fields)

variable {σ : Type}

namespace Desk

theorem drive_eq (E : Engine σ) (d : Desk) (calls : List Call) (reply : Reply) (t : Talk σ) :
    d.drive E calls reply t =
      match E.tellAll calls t with
      | (.ok _, t') => ((.ok reply, d), t')
      | (.error e, t') => ((.error (.engine e), d), t') := by
  rcases htell : E.tellAll calls t with ⟨_ | _, t'⟩ <;> rw [drive, bind_of_eq htell] <;> rfl

theorem reply_of_drive {E : Engine σ} {d : Desk} {calls : List Call} {reply reply' : Reply}
    {t : Talk σ} (h : (d.drive E calls reply t).1.1 = .ok reply') : reply' = reply := by
  rw [drive_eq] at h
  generalize E.tellAll calls t = told at h
  obtain ⟨_ | _, t'⟩ := told
  · exact nomatch h
  · exact (Except.ok.inj h).symm

theorem yields_run {E : Engine σ} {d : Desk} {t : Talk σ} {reply : Reply}
    (h : (d.run E t).1.1 = .ok reply) : Yields .run reply := by
  unfold run at h
  cases htarget : d.launchTarget? with
  | none =>
    rw [htarget] at h
    exact nomatch h
  | some target =>
    rw [htarget] at h
    obtain rfl := reply_of_drive h
    exact .runs (by decide)

theorem yields_attach {E : Engine σ} {d : Desk} {args : List String} {t : Talk σ} {reply : Reply}
    (h : (d.attach E args t).1.1 = .ok reply) : Yields .attach reply := by
  cases args with
  | nil => exact nomatch h
  | cons arg more =>
    unfold attach at h
    cases hpid : Text.Decimal.parseU32 arg with
    | error fault =>
      simp only [hpid] at h
      exact nomatch h
    | ok pid =>
      simp only [hpid] at h
      obtain rfl := reply_of_drive h
      exact .finds .nothing (by decide)

theorem yields_insertBreakpoint {E : Engine σ} {d : Desk} {args : List String} {t : Talk σ}
    {reply : Reply} (h : (d.insertBreakpoint E args t).1.1 = .ok reply) :
    Yields .insertBreakpoint reply := by
  unfold insertBreakpoint at h
  cases harg : args.find? fun arg => !isOption arg with
  | none =>
    simp only [harg] at h
    exact nomatch h
  | some arg =>
    cases hlocation : location? arg with
    | none =>
      simp only [harg, hlocation] at h
      exact nomatch h
    | some location =>
      obtain ⟨file, line⟩ := location
      simp only [harg, hlocation] at h
      rcases hinsert : d.book.insert E file line t with ⟨⟨_ | bp, book⟩, t'⟩
      · rw [bind_of_eq hinsert] at h
        exact nomatch h
      · rw [bind_of_eq hinsert] at h
        obtain rfl := Except.ok.inj h
        exact .finds (.breakpoint bp) (by decide)

theorem yields_deleteBreakpoints {E : Engine σ} {d : Desk} {args : List String} {t : Talk σ}
    {reply : Reply} (h : (d.deleteBreakpoints E args t).1.1 = .ok reply) :
    Yields .deleteBreakpoints reply := by
  cases args with
  | nil => exact nomatch h
  | cons arg more =>
    rw [deleteBreakpoints, if_neg (by simp)] at h
    rcases hdelete : deleteAll E (arg :: more) d.book t with ⟨⟨_ | _, book⟩, t'⟩
    · rw [bind_of_eq hdelete] at h
      exact nomatch h
    · rw [bind_of_eq hdelete] at h
      obtain rfl := Except.ok.inj h
      exact .finds .nothing (by decide)

theorem yields_listThreads {E : Engine σ} {d : Desk} {t : Talk σ} {reply : Reply}
    (h : (d.listThreads E t).1.1 = .ok reply) : Yields .listThreads reply := by
  unfold listThreads at h
  rcases hask : E.ask .threads t with ⟨_ | threads, t'⟩
  · rw [bind_of_eq hask] at h
    exact nomatch h
  · rw [bind_of_eq hask] at h
    obtain rfl := Except.ok.inj h
    exact .finds (.threads threads) (by decide)

theorem yields_perform {E : Engine σ} {d : Desk} {op : Operation} {args : List String} {t : Talk σ}
    {reply : Reply} (h : (d.perform E op args t).1.1 = .ok reply) : Yields op reply := by
  cases op with
  | setProgram =>
    cases args with
    | nil => exact nomatch h
    | cons path more =>
      obtain rfl := Except.ok.inj h
      exact .finds .nothing (by decide)
  | setArguments =>
    obtain rfl := Except.ok.inj h
    exact .finds .nothing (by decide)
  | run => exact yields_run h
  | attach => exact yields_attach h
  | resume =>
    obtain rfl := reply_of_drive h
    exact .runs (by decide)
  | pause =>
    obtain rfl := reply_of_drive h
    exact .finds .nothing (by decide)
  | next =>
    obtain rfl := reply_of_drive h
    exact .runs (by decide)
  | step =>
    obtain rfl := reply_of_drive h
    exact .runs (by decide)
  | finish =>
    obtain rfl := reply_of_drive h
    exact .runs (by decide)
  | insertBreakpoint => exact yields_insertBreakpoint h
  | deleteBreakpoints => exact yields_deleteBreakpoints h
  | listBreakpoints =>
    obtain rfl := Except.ok.inj h
    exact .finds (.table d.book) (by decide)
  | listThreads => exact yields_listThreads h
  | exit =>
    obtain rfl := reply_of_drive h
    exact .left

/-- A command that succeeds has a reply of its operation. -/
theorem yields_handle {E : Engine σ} {d : Desk} {cmd : Command} {t : Talk σ} {reply : Reply}
    (h : (d.handle E cmd t).1.1 = .ok reply) :
    ∃ op, Operation.ofName? cmd.operation = some op ∧ Yields op reply := by
  unfold handle at h
  cases hop : Operation.ofName? cmd.operation with
  | none =>
    rw [hop] at h
    exact nomatch h
  | some op =>
    rw [hop] at h
    exact ⟨op, rfl, yields_perform h⟩

end Desk

/-! ## Leaving -/

theorem Operation.name_of_ofName? {s : String} {op : Operation} (h : ofName? s = some op) :
    op.name = s := by
  have hfound := List.find?_some h
  exact beq_iff_eq.1 hfound

/-- A single call succeeds exactly if the engine answers it. -/
theorem tellAll_singleton (E : Engine σ) (c : Call) (t : Talk σ) :
    (E.tellAll [c] t).1 = (E.respond c t.engine).1.outcome.map fun _ => () := by
  rw [Engine.tellAll_cons, Engine.tell_eq]
  cases (E.respond c t.engine).1.outcome <;> rfl

theorem Desk.handle_of_exit (E : Engine σ) (d : Desk) {cmd : Command}
    (h : cmd.operation = "gdb-exit") (t : Talk σ) :
    (d.handle E cmd t).1.1 =
      match (E.respond (.disconnect true) t.engine).1.outcome with
      | .ok _ => .ok .exit
      | .error e => .error (.engine e) := by
  have hop : Operation.ofName? cmd.operation = some .exit := by
    rw [h]
    exact Operation.ofName?_name .exit
  have hexit : d.handle E cmd t = d.drive E [.disconnect true] .exit t := by
    rw [handle, hop]
    rfl
  have htold := tellAll_singleton E (.disconnect true) t
  rw [hexit, drive_eq]
  generalize E.tellAll [.disconnect true] t = told at htold
  obtain ⟨result, t'⟩ := told
  obtain rfl : result = _ := htold
  cases (E.respond (.disconnect true) t.engine).1.outcome <;> rfl

/-- The session ends exactly with an exit that the engine grants. -/
theorem Desk.handle_eq_exit_iff {E : Engine σ} {d : Desk} {cmd : Command} {t : Talk σ} :
    (d.handle E cmd t).1.1 = .ok .exit ↔
      cmd.operation = "gdb-exit" ∧ (E.respond (.disconnect true) t.engine).1.outcome = .ok () := by
  constructor
  · intro h
    obtain ⟨op, hop, hyields⟩ := yields_handle h
    cases hyields with
    | left =>
      have hname : cmd.operation = "gdb-exit" := (Operation.name_of_ofName? hop).symm
      rw [handle_of_exit E d hname] at h
      refine ⟨hname, ?_⟩
      cases hgranted : (E.respond (.disconnect true) t.engine).1.outcome with
      | ok _ => rfl
      | error e =>
        rw [hgranted] at h
        exact nomatch h
  · rintro ⟨hname, hgranted⟩
    rw [handle_of_exit E d hname, hgranted]

end Mi
end DebugSession
