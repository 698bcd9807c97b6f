/-
The answer to a request for breakpoints.  A client takes the answer by position: one breakpoint for
each line that it named, in the order in which it named them.  The process engine holds one
breakpoint for a line however often the line is named, and its list is the answer.  So the answer is
right up to the first line that is named again, and not from there on.
-/
import DebugSession.Dap.Desk
import DebugSession.Proofs.Breakpoint.Changes
import DebugSession.Proofs.Breakpoint.Numbers
import DebugSession.Proofs.Dap.Desk
import DebugSession.Supervisor.Occurrence

namespace DebugSession

/-! ## Lines without repetitions, by position -/

namespace Breakpoint
namespace Store

theorem eraseDups_eq_self_iff {lines : List UInt32} : lines.eraseDups = lines ↔ lines.Nodup :=
  ⟨fun h => h ▸ nodup_eraseDups lines, eraseDups_of_nodup⟩

theorem eraseDups_subperm (lines : List UInt32) : lines.eraseDups.Subperm lines :=
  List.subperm_of_subset (nodup_eraseDups lines) fun _ => List.mem_eraseDups.1

/-- Some line is left out just if one is there twice. -/
theorem length_eraseDups_eq_iff {lines : List UInt32} :
    lines.eraseDups.length = lines.length ↔ lines.Nodup := by
  constructor
  · intro h
    have hperm := (eraseDups_subperm lines).perm_of_length_le (Nat.le_of_eq h.symm)
    exact hperm.nodup_iff.1 (nodup_eraseDups lines)
  · intro h
    rw [eraseDups_of_nodup h]

/-- A line keeps its position just if no line is there twice up to it. -/
theorem getElem?_eraseDups_iff {lines : List UInt32} {i : Nat} {line : UInt32}
    (h : lines[i]? = some line) :
    lines.eraseDups[i]? = some line ↔ (lines.take (i + 1)).Nodup := by
  obtain ⟨hi, -⟩ := List.getElem?_eq_some_iff.1 h
  have hlength : (lines.take (i + 1)).length = i + 1 := List.length_take_of_le hi
  have htake : (lines.take (i + 1))[i]? = some line := by
    rw [List.getElem?_take_of_succ, h]
  have hsplit : lines.eraseDups = (lines.take (i + 1)).eraseDups ++
      ((lines.drop (i + 1)).removeAll (lines.take (i + 1))).eraseDups := by
    rw [← List.eraseDups_append, List.take_append_drop]
  rw [hsplit]
  generalize lines.take (i + 1) = front at hlength htake
  constructor
  · -- if a line is left out up to this one, what comes here is none of those before
    intro hkept
    by_contra hdup
    have hshort : front.eraseDups.length ≤ i := by
      have hle := (eraseDups_subperm front).length_le
      have hne := mt length_eraseDups_eq_iff.1 hdup
      omega
    rw [List.getElem?_append_right hshort] at hkept
    have hmem := List.mem_eraseDups.1 (List.mem_of_getElem? hkept)
    have hnot : line ∉ front := by
      simpa [List.removeAll] using (List.mem_filter.1 hmem).2
    exact hnot (List.mem_of_getElem? htake)
  · intro hnodup
    rw [eraseDups_of_nodup hnodup, List.getElem?_append_left (by omega), htake]

end Store
end Breakpoint

namespace Dap

open Breakpoint (Book Store)
open Supervisor (System State engine)

variable {ω : Type}

/-! ## Items of an answer -/

/-- What an item says under a key. -/
def member (key : String) : Json → Option Json
  | .object members => Json.find? members key
  | _ => none

theorem member_line_breakpointBody (bp : Breakpoint) :
    member "line" (breakpointBody bp) = some (.ofWord bp.line) := by
  rw [breakpointBody]
  cases bp.message <;> rfl

theorem member_id_breakpointBody (bp : Breakpoint) :
    member "id" (breakpointBody bp) = some (.ofWord bp.id) := by
  rw [breakpointBody]
  cases bp.message <;> rfl

theorem ofWord_inj {m n : UInt32} : Json.ofWord m = Json.ofWord n ↔ m = n := by
  constructor
  · intro h
    exact UInt32.toNat_inj.1 (Int.ofNat.inj (Json.integer.inj h))
  · intro h
    rw [h]

/-! ## Answers -/

/-- The answer to a readable request is what the engine holds for the file then. -/
theorem handle_setBreakpoints (S : System ω) (s : State ω) (preset : Option LaunchTarget)
    {r : Request} {args : SetBreakpointsArguments} {file : String}
    (hcommand : r.command = "setBreakpoints")
    (hargs : argumentsOr {} SetBreakpointsArguments.decode r.arguments = .ok args)
    (hfile : args.source.file? = some file) :
    handle (engine S) preset r { engine := s } =
      (.ok { body := some (.object [("breakpoints",
          .array ((s.store.set file args.requestedLines).1.map breakpointBody))]) },
        Book.goOn { engine := s } file args.requestedLines) := by
  have hname : Command.ofName? r.command = some .setBreakpoints := by
    rw [hcommand]
    exact Command.ofName?_name .setBreakpoints
  have hlines : breakpointLines r.arguments = .ok (file, args.requestedLines) := by
    rw [breakpointLines, arguments, hargs]
    simp only [Except.mapError, bind, Except.bind, hfile]
    rfl
  rw [handle, hname]
  show setBreakpoints _ _ _ = _
  rw [setBreakpoints, hlines]
  show (_ >>= _ : StateM (Talk (State ω)) Outcome) _ = _
  rw [bind_of_eq (Book.ask_setBreakpoints S file args.requestedLines { engine := s })]
  rfl

/-- The line that the answer has at a position. -/
theorem bind_member_line (s : Store) (file : String) (lines : List UInt32) (i : Nat) :
    ((s.set file lines).1.map breakpointBody)[i]?.bind (member "line") =
      lines.eraseDups[i]?.map Json.ofWord := by
  rw [← Store.map_line_set s file lines, List.getElem?_map, List.getElem?_map]
  cases (s.set file lines).1[i]? with
  | none => rfl
  | some bp => exact member_line_breakpointBody bp

/-- A breakpoint of the engine is the only one at its line. -/
theorem eq_of_mem_set {s : Store} {file : String} {lines : List UInt32} {bp : Breakpoint}
    (hbp : bp ∈ (s.set file lines).1) (x : Breakpoint) :
    x ∈ (s.set file lines).1 ∧ x.line = bp.line ↔ x = bp := by
  constructor
  · rintro ⟨hx, hline⟩
    have hfound := (Store.settled_set s file lines).find?_line hx
    rw [hline, (Store.settled_set s file lines).find?_line hbp] at hfound
    exact (Option.some.inj hfound).symm
  · rintro rfl
    exact ⟨hbp, rfl⟩

/-- A request for breakpoints with a file is answered with the breakpoints that the engine holds for
the file afterwards.  That is one for each line that was named, in this order, just if no line was
named twice.  Up to the first line named again the answer at a position is the one breakpoint at the
line named there; from then on it is at another line, or there is none. -/
theorem setBreakpoints_by_position (S : System ω) (s : State ω) (preset : Option LaunchTarget)
    (r : Request) (args : SetBreakpointsArguments) (file : String)
    (hcommand : r.command = "setBreakpoints")
    (hargs : argumentsOr {} SetBreakpointsArguments.decode r.arguments = .ok args)
    (hfile : args.source.file? = some file) :
    ∃ (items : List Json) (t : Talk (State ω)),
      handle (engine S) preset r { engine := s } =
        (.ok { body := some (.object [("breakpoints", .array items)]) }, t) ∧
      items = (t.engine.store.get file).map breakpointBody ∧
      (items.map (member "line") = args.requestedLines.map (some <| .ofWord ·) ↔
        args.requestedLines.Nodup) ∧
      (items.length = args.requestedLines.length ↔ args.requestedLines.Nodup) ∧
      ∀ i line, args.requestedLines[i]? = some line →
        (items[i]?.bind (member "line") = some (.ofWord line) ↔
          (args.requestedLines.take (i + 1)).Nodup) ∧
        ((args.requestedLines.take (i + 1)).Nodup → ∃ bp,
          items[i]?.bind (member "id") = some (.ofWord bp.id) ∧
            ∀ x, x ∈ t.engine.store.get file ∧ x.line = line ↔ x = bp) := by
  have hheld : (Book.goOn { engine := s } file args.requestedLines).engine.store.get file =
      (s.store.set file args.requestedLines).1 := Store.get_set_self ..
  refine ⟨_, _, handle_setBreakpoints S s preset hcommand hargs hfile, ?held, ?whole, ?length,
    fun i line hline => ⟨?position, fun hnodup => ?number⟩⟩
  case held => rw [hheld]
  case whole =>
    have hword : Function.Injective fun n : UInt32 => some (Json.ofWord n) := fun m n h =>
      ofWord_inj.1 (Option.some.inj h)
    have hmember : member "line" ∘ breakpointBody = (some <| .ofWord ·) ∘ Breakpoint.line :=
      funext member_line_breakpointBody
    rw [List.map_map, hmember, ← List.map_map, Store.map_line_set,
      (List.map_injective_iff.2 hword).eq_iff, Store.eraseDups_eq_self_iff]
  case length =>
    rw [List.length_map, ← List.length_map (f := Breakpoint.line), Store.map_line_set,
      Store.length_eraseDups_eq_iff]
  case position =>
    rw [bind_member_line, ← Store.getElem?_eraseDups_iff hline]
    cases args.requestedLines.eraseDups[i]? with
    | none => exact iff_of_false (nomatch ·) (nomatch ·)
    | some other => rw [Option.map_some, Option.some_inj, Option.some_inj, ofWord_inj]
  case number =>
    have hkept := (Store.getElem?_eraseDups_iff hline).2 hnodup
    rw [← Store.map_line_set s.store file, List.getElem?_map] at hkept
    obtain ⟨bp, hbp, rfl⟩ := Option.map_eq_some_iff.1 hkept
    refine ⟨bp, ?_, fun x => ?_⟩
    · rw [List.getElem?_map, hbp]
      exact member_id_breakpointBody bp
    · rw [hheld]
      exact eq_of_mem_set (List.mem_of_getElem? hbp) x

/-- A request for breakpoints of a file, in the form of older clients. -/
def linesRequest (path : String) (lines : List UInt32) : Request where
  seq := 1
  kind := "request"
  command := "setBreakpoints"
  arguments := .object [("source", .object [("path", .string path)]),
    ("lines", .array (lines.map Json.ofWord))]

theorem setBreakpoints_by_position_two :
    argumentsOr {} SetBreakpointsArguments.decode (linesRequest "/a" [3, 1]).arguments =
      .ok { source := { path := some "/a" }, lines := some [3, 1] } ∧
    ∃ (items : List Json) (t : Talk (State Unit)),
      handle (engine Book.idle) none (linesRequest "/a" [3, 1]) { engine := { system := () } } =
        (.ok { body := some (.object [("breakpoints", .array items)]) }, t) ∧
      items.map (member "line") = [some (.ofWord 3), some (.ofWord 1)] := by
  have hargs : argumentsOr {} SetBreakpointsArguments.decode (linesRequest "/a" [3, 1]).arguments =
      .ok { source := { path := some "/a" }, lines := some [3, 1] } := by rfl
  obtain ⟨items, t, hhandle, -, hwhole, -⟩ := setBreakpoints_by_position Book.idle
    { system := () } none (linesRequest "/a" [3, 1]) _ "/a" rfl hargs rfl
  exact ⟨hargs, items, t, hhandle, hwhole.2 (by decide)⟩

/-- Of three lines the third is the first again: there are two answers. -/
theorem setBreakpoints_line_again :
    SetBreakpointsArguments.requestedLines { lines := some [3, 1, 3] } = [3, 1, 3] ∧
    ∃ (items : List Json) (t : Talk (State Unit)),
      handle (engine Book.idle) none (linesRequest "/a" [3, 1, 3]) { engine := { system := () } } =
        (.ok { body := some (.object [("breakpoints", .array items)]) }, t) ∧
      items.map (member "line") = [some (.ofWord 3), some (.ofWord 1)] ∧
      items.length ≠ [3, 1, 3].length :=
  ⟨rfl, _, _, rfl, rfl, by decide⟩

end Dap
end DebugSession
