/-
The command line and the machine interface drive the engine alike.  An intent is what a user wants
done; each of the two has commands for it, and both come to the same deeds, whatever the engine
answers.
-/
import DebugSession.Proofs.Cli.Conversation
import DebugSession.Proofs.FrontEnd.Course
import DebugSession.Proofs.Mi.Conversation

namespace DebugSession

open Scene (Stretch)

variable {σ : Type}

/-! ## Commands as deeds -/

namespace Cli

def Command.deed (E : Engine σ) (cmd : Command) (before : Desk × σ) : Deed × Desk × σ :=
  let ((outcome, desk), talk) := cmd.carriedOut E before
  ({ calls := talk.exchanges.map Exchange.call
     fails := !outcome.isOk
     leaves := flowAfter outcome = .leave
     book := desk.book }, desk, talk.engine)

theorem carries_deed {E : Engine σ} {h : Heard} {cmd : Command} {before after : Desk × σ}
    {t : Turn (Option String)} {f : Flow} (hcmd : h.sense = .command cmd)
    (ht : Answers E h before t f after) : Carries (Command.deed E) cmd before t f after := by
  have heffect := ht.effect
  rw [hcmd, Sense.effect] at heffect
  rcases hcarried : cmd.carriedOut E before with ⟨⟨outcome, desk⟩, talk⟩
  rw [hcarried] at heffect
  obtain ⟨-, hflow, hcalls, hafter⟩ := Effect.mk.inj heffect
  refine ⟨?_, ?_, ?_⟩
  all_goals simp only [Command.deed, hcarried]
  · exact hcalls.symm
  · rw [← hflow, decide_eq_true_iff]
  · exact hafter.symm

/-- The command line over lines that are commands. -/
theorem loop_follows (E : Engine σ) {input : List Arrival} {lines : List Heard}
    (hlines : Line.framing.heard input = (lines, .ok ())) {cmds : List Command}
    (hcmds : List.Forall₂ (fun h cmd => h.sense = .command cmd) lines cmds) {r : Run σ Desk}
    (hw : ∀ n, r.scene.writeError n = none) :
    Follows (loop E input r) r.scene ((Line.framing.readings input).map Reading.taken)
      (course (Command.deed E) cmds (r.desk, r.engine)) := by
  have hread := Line.framing.outcomes_readings input
  rw [hlines] at hread
  refine FrontEnd.serve_follows (F := frontEnd E) (fun r hr => ?_) (Answers E)
    (fun h taken r hr => answer_turn E h taken hr) (fun _ _ _ _ _ ht => ht.shown)
    (fun _ _ _ _ _ _ hcmd ht => carries_deed hcmd ht) hread hcmds hw
  exact ⟨congrArg Prod.fst (Run.onScene_write prompt hr), _, _, Run.stretch_wrote prompt hr⟩

end Cli

namespace Mi

def Command.deed (E : Engine σ) (cmd : Command) (before : Desk × σ) : Deed × Desk × σ :=
  let ((outcome, desk), talk) := cmd.carriedOut E before
  ({ calls := talk.exchanges.map Exchange.call
     fails := !outcome.isOk
     leaves := flowAfter outcome = .leave
     book := desk.book }, desk, talk.engine)

theorem carries_deed {E : Engine σ} {h : Heard} {cmd : Command} {before after : Desk × σ}
    {t : Turn String} {f : Flow} (hcmd : h.command? = some cmd)
    (ht : Answers E h before t f after) : Carries (Command.deed E) cmd before t f after := by
  have hobeyed := ht.obeyed cmd hcmd
  have hleaves := ht.leaves
  rcases hcarried : cmd.carriedOut E before with ⟨⟨outcome, desk⟩, talk⟩
  rw [hcarried] at hobeyed
  obtain ⟨-, hcalls, hafter⟩ := hobeyed
  have hexit : (before.1.handle E cmd { engine := before.2 }).1.1 = .ok .exit ↔
      cmd.operation = "gdb-exit" ∧ (E.respond (.disconnect true) before.2).1.outcome = .ok () :=
    Desk.handle_eq_exit_iff
  have houtcome : (before.1.handle E cmd { engine := before.2 }).1.1 = outcome :=
    congrArg (fun x => x.1.1) hcarried
  refine ⟨?_, ?_, ?_⟩
  all_goals simp only [Command.deed, hcarried]
  · exact hcalls
  · rw [hleaves, decide_eq_true_iff, flowAfter_eq_leave_iff, ← houtcome, hexit]
    constructor
    · rintro ⟨cmd', hcmd', hgranted⟩
      obtain rfl := Option.some.inj (hcmd.symm.trans hcmd')
      exact hgranted
    · exact fun hgranted => ⟨cmd, hcmd, hgranted⟩
  · exact hafter

/-- The machine interface over lines that are commands. -/
theorem loop_follows (E : Engine σ) {input : List Arrival} {lines : List Heard}
    (hlines : Line.framing.heard input = (lines, .ok ())) {cmds : List Command}
    (hcmds : List.Forall₂ (fun h cmd => h.command? = some cmd) lines cmds) {r : Run σ Desk}
    (hw : ∀ n, r.scene.writeError n = none) :
    Follows (loop E input r) r.scene ((Line.framing.readings input).map Reading.taken)
      (course (Command.deed E) cmds (r.desk, r.engine)) := by
  have hloop : loop E input r =
      (frontEnd E).serve (Line.framing.readings input) (r.wrote prompt) := by
    have hprompt : write prompt r = (.ok (), r.wrote prompt) := Run.onScene_write prompt hw
    rw [loop, bind_of_eq hprompt]
  have hread := Line.framing.outcomes_readings input
  rw [hlines] at hread
  have hwritten := Run.stretch_wrote prompt hw
  rw [hloop]
  refine .after hwritten (FrontEnd.serve_follows (F := frontEnd E)
    (fun r _ => ⟨rfl, [], [], Scene.manner_any.stretch_nil r.scene⟩) (Answers E)
    (fun h taken r hr => answer_turn E h taken hr) (fun _ _ _ _ _ ht => ht.shown)
    (fun _ _ _ _ _ _ hcmd ht => carries_deed hcmd ht) hread hcmds ?_)
  exact hwritten.grows.writeError ▸ hw

end Mi

/-! ## Intents -/

/-- What a user wants, whatever the front end. -/
inductive Intent where
  | setProgram (program : String) (args : List String)
  | run
  | attach (pid : UInt32)
  | resume
  | next
  | step
  | finish
  | interrupt
  /-- The file does not look like an option. -/
  | addBreakpoint (file : String) (line : UInt32) (plain : file.toList.head? ≠ some '-')
  | removeBreakpoint (id : UInt32)
  | listBreakpoints
  | listThreads
  | quit

namespace Intent

open Text.Decimal (render)

/-- The command of the command line for an intent. -/
def cli : Intent → Cli.Command
  | setProgram program args => .file program args
  | run => .run
  | attach pid => .attach pid
  | resume => .resume
  | next => .next
  | step => .step
  | finish => .finish
  | interrupt => .interrupt
  | addBreakpoint file line _ => .breakAdd file line
  | removeBreakpoint id => .breakRemove id
  | listBreakpoints => .breakInfo
  | listThreads => .threadInfo
  | quit => .quit

/-- The operations of the machine interface for an intent, each with its arguments. -/
def operations : Intent → List (Mi.Operation × List String)
  | setProgram program args => [(.setProgram, [program]), (.setArguments, args)]
  | run => [(.run, [])]
  | attach pid => [(.attach, [render pid.toNat])]
  | resume => [(.resume, [])]
  | next => [(.next, [])]
  | step => [(.step, [])]
  | finish => [(.finish, [])]
  | interrupt => [(.pause, [])]
  | addBreakpoint file line _ => [(.insertBreakpoint, [file ++ ":" ++ render line.toNat])]
  | removeBreakpoint id => [(.deleteBreakpoints, [render id.toNat])]
  | listBreakpoints => [(.listBreakpoints, [])]
  | listThreads => [(.listThreads, [])]
  | quit => [(.exit, [])]

/-- The commands of the machine interface, with any tokens, say what is intended. -/
def Spells (o : Intent) (cmds : List Mi.Command) : Prop :=
  List.Forall₂ (fun op cmd => cmd.operation = op.1.name ∧ cmd.args = op.2) o.operations cmds

end Intent

/-- The two desks stand for the same program and the same breakpoints. -/
structure Agree (c : Cli.Desk) (m : Mi.Desk) : Prop where
  preset : m.preset = c.preset
  program : m.program = c.chosen.map LaunchTarget.program
  args : m.args = c.chosen.map LaunchTarget.args
  book : m.book = c.book

/-- The two commands came to the same. -/
structure Matches (x : Cli.Desk.Outcome × Talk σ) (y : Mi.Desk.Outcome × Talk σ) : Prop where
  talk : y.2 = x.2
  fails : y.1.1.isOk = x.1.1.isOk
  flow : Mi.flowAfter y.1.1 = Cli.flowAfter x.1.1
  desks : Agree x.1.2 y.1.2

section Desks

variable {E : Engine σ} {c : Cli.Desk} {m : Mi.Desk}

theorem Agree.launchTarget?_eq (h : Agree c m) : m.launchTarget? = c.launchTarget? := by
  rw [Mi.Desk.launchTarget?, Cli.Desk.launchTarget?, h.program, h.args, h.preset]
  cases c.chosen <;> cases c.preset <;> rfl

theorem Agree.drive (h : Agree c m) (calls : List Call) {x : Cli.Reply} {y : Mi.Reply}
    (hflow : Mi.flowAfter (.ok y) = Cli.flowAfter (.ok x)) (t : Talk σ) :
    Matches (c.drive E calls x t) (m.drive E calls y t) := by
  rw [Mi.Desk.drive_eq]
  rcases htell : E.tellAll calls t with ⟨_ | _, t'⟩
  · rw [Cli.Desk.drive, bind_of_eq htell]
    exact ⟨rfl, rfl, rfl, h⟩
  · rw [Cli.Desk.drive, bind_of_eq htell]
    exact ⟨rfl, rfl, hflow, h⟩

theorem Agree.run (h : Agree c m) (t : Talk σ) : Matches (c.run E t) (m.run E t) := by
  rw [Mi.Desk.run, Cli.Desk.run, h.launchTarget?_eq]
  cases c.launchTarget? with
  | none => exact ⟨rfl, rfl, rfl, h⟩
  | some target => exact h.drive _ rfl t

theorem splitAtLastColon_append (file : String) (n : Nat) :
    Mi.Desk.splitAtLastColon (file ++ ":" ++ Text.Decimal.render n) =
      some (file, Text.Decimal.render n) := by
  have hreverse : (file ++ ":" ++ Text.Decimal.render n).toList.reverse =
      (Text.Decimal.digits n).reverse ++ ':' :: file.toList.reverse := by
    simp [Text.Decimal.render]
  have hdigits : ∀ d ∈ (Text.Decimal.digits n).reverse, decide (d ≠ ':') = true := by
    intro d hd
    refine decide_eq_true fun hcolon => ?_
    have hdigit := Text.Decimal.isDigit_of_mem_digits d (List.mem_reverse.1 hd)
    exact absurd (hcolon ▸ hdigit) (by decide)
  rw [Mi.Desk.splitAtLastColon, hreverse, List.dropWhile_append_of_pos hdigits,
    List.takeWhile_append_of_pos hdigits, List.dropWhile_cons_of_neg (by simp),
    List.takeWhile_cons_of_neg (by simp)]
  simp [Text.Decimal.render]

theorem Agree.addBreakpoint (h : Agree c m) {file : String} (hplain : file.toList.head? ≠ some '-')
    (line : UInt32) (t : Talk σ) :
    Matches (c.addBreakpoint E file line t)
      (m.insertBreakpoint E [file ++ ":" ++ Text.Decimal.render line.toNat] t) := by
  have hoption : Mi.Desk.isOption (file ++ ":" ++ Text.Decimal.render line.toNat) = false := by
    rw [Mi.Desk.isOption]
    cases hfile : file.toList with
    | nil => simp [hfile]
    | cons a as =>
      rw [hfile] at hplain
      simpa [hfile] using hplain
  have hlocation : Mi.Desk.location? (file ++ ":" ++ Text.Decimal.render line.toNat) =
      some (file, line) := by
    simp [Mi.Desk.location?, splitAtLastColon_append, Text.Decimal.parseU32_render, Except.toOption]
  have hfind : List.find? (fun arg => !Mi.Desk.isOption arg)
      [file ++ ":" ++ Text.Decimal.render line.toNat] =
        some (file ++ ":" ++ Text.Decimal.render line.toNat) := by
    rw [List.find?_cons_of_pos (by simp [hoption])]
  rw [Mi.Desk.insertBreakpoint, Cli.Desk.addBreakpoint, hfind]
  simp only [hlocation]
  rw [h.book]
  rcases hinsert : c.book.insert E file line t with ⟨⟨_ | bp, book⟩, t'⟩
  · rw [bind_of_eq hinsert, bind_of_eq hinsert]
    exact ⟨rfl, rfl, rfl, h.preset, h.program, h.args, rfl⟩
  · rw [bind_of_eq hinsert, bind_of_eq hinsert]
    exact ⟨rfl, rfl, rfl, h.preset, h.program, h.args, rfl⟩

theorem Agree.removeBreakpoint (h : Agree c m) (id : UInt32) (t : Talk σ) :
    Matches (c.removeBreakpoint E id t)
      (m.deleteBreakpoints E [Text.Decimal.render id.toNat] t) := by
  rw [Mi.Desk.deleteBreakpoints, Cli.Desk.removeBreakpoint, if_neg (by simp), h.book]
  have hdelete : Mi.Desk.deleteAll E [Text.Decimal.render id.toNat] c.book t =
      (((c.book.remove E id t).1.1.mapError Mi.Complaint.book |>.map fun _ => (),
        (c.book.remove E id t).1.2), (c.book.remove E id t).2) := by
    rw [Mi.Desk.deleteAll, Text.Decimal.parseU32_render]
    rcases hremove : c.book.remove E id t with ⟨⟨_ | bp, book⟩, t'⟩
    · simp only [bind_of_eq hremove]
      rfl
    · simp only [bind_of_eq hremove]
      rfl
  rw [bind_of_eq hdelete]
  rcases hremove : c.book.remove E id t with ⟨⟨_ | bp, book⟩, t'⟩
  · rw [bind_of_eq hremove]
    exact ⟨rfl, rfl, rfl, h.preset, h.program, h.args, rfl⟩
  · rw [bind_of_eq hremove]
    exact ⟨rfl, rfl, rfl, h.preset, h.program, h.args, rfl⟩

theorem Agree.listThreads (h : Agree c m) (t : Talk σ) :
    Matches (c.listThreads E t) (m.listThreads E t) := by
  rw [Mi.Desk.listThreads, Cli.Desk.listThreads]
  rcases hask : E.ask .threads t with ⟨_ | threads, t'⟩
  · rw [bind_of_eq hask, bind_of_eq hask]
    exact ⟨rfl, rfl, rfl, h⟩
  · rw [bind_of_eq hask, bind_of_eq hask]
    exact ⟨rfl, rfl, rfl, h⟩

/-- An intent that is one operation comes to the same at both desks. -/
theorem Agree.perform (h : Agree c m) {o : Intent} {op : Mi.Operation} {args : List String}
    (hop : o.operations = [(op, args)]) (t : Talk σ) :
    Matches (c.handle E o.cli t) (m.perform E op args t) := by
  cases o with
  | setProgram program args => exact nomatch hop
  | addBreakpoint file line plain =>
    obtain ⟨rfl, rfl⟩ := Prod.mk.inj (List.cons.inj hop).1
    exact h.addBreakpoint plain line t
  | run =>
    obtain ⟨rfl, rfl⟩ := Prod.mk.inj (List.cons.inj hop).1
    exact h.run t
  | removeBreakpoint id =>
    obtain ⟨rfl, rfl⟩ := Prod.mk.inj (List.cons.inj hop).1
    exact h.removeBreakpoint id t
  | listThreads =>
    obtain ⟨rfl, rfl⟩ := Prod.mk.inj (List.cons.inj hop).1
    exact h.listThreads t
  | listBreakpoints =>
    obtain ⟨rfl, rfl⟩ := Prod.mk.inj (List.cons.inj hop).1
    have hflow : Cli.flowAfter (.ok (Cli.Desk.breakpointList c.book)) = .goOn := by
      rw [Cli.Desk.breakpointList]
      split <;> rfl
    exact ⟨rfl, rfl, hflow.symm, h⟩
  | attach pid =>
    obtain ⟨rfl, rfl⟩ := Prod.mk.inj (List.cons.inj hop).1
    have hattach : m.perform E .attach [Text.Decimal.render pid.toNat] t =
        m.drive E [.setUp, .attach pid, .configurationDone] (.done []) t := by
      simp only [Mi.Desk.perform, Mi.Desk.attach, Text.Decimal.parseU32_render]
    rw [hattach]
    exact h.drive _ rfl t
  | resume | next | step | finish | interrupt | quit =>
    obtain ⟨rfl, rfl⟩ := Prod.mk.inj (List.cons.inj hop).1
    exact h.drive _ rfl t

end Desks

/-! ## Courses -/

section Courses

variable {E : Engine σ} {c : Cli.Desk} {m : Mi.Desk}

theorem Mi.Command.carriedOut_of_operation {cmd : Mi.Command} {op : Mi.Operation}
    {args : List String} (hcmd : cmd.operation = op.name ∧ cmd.args = args) (m : Mi.Desk) (s : σ) :
    cmd.carriedOut E (m, s) = m.perform E op args { engine := s } := by
  obtain ⟨hname, rfl⟩ := hcmd
  have hop : Mi.Operation.ofName? cmd.operation = some op := by
    rw [hname]
    exact Mi.Operation.ofName?_name op
  show m.handle E cmd { engine := s } = _
  rw [Mi.Desk.handle, hop]

/-- What an intent comes to at the two desks. -/
structure Intent.Agreed (E : Engine σ) (o : Intent) (cmds : List Mi.Command) (c : Cli.Desk)
    (m : Mi.Desk) (s : σ) : Prop where
  deed : Deed.inOne (course (Mi.Command.deed E) cmds (m, s)).1 = (o.cli.deed E (c, s)).1
  length : (course (Mi.Command.deed E) cmds (m, s)).1.length = cmds.length
  desks : Agree (o.cli.deed E (c, s)).2.1 (course (Mi.Command.deed E) cmds (m, s)).2.1
  engine : (course (Mi.Command.deed E) cmds (m, s)).2.2 = (o.cli.deed E (c, s)).2.2

theorem Agree.intent_of_operation (h : Agree c m) {o : Intent} {op : Mi.Operation}
    {args : List String} (hop : o.operations = [(op, args)]) {cmd : Mi.Command}
    (hcmd : cmd.operation = op.name ∧ cmd.args = args) (s : σ) :
    o.Agreed E [cmd] c m s := by
  have hmatches := h.perform (E := E) hop { engine := s }
  rw [← Mi.Command.carriedOut_of_operation hcmd] at hmatches
  have hcli : c.handle E o.cli { engine := s } = o.cli.carriedOut E (c, s) := rfl
  rw [hcli] at hmatches
  obtain ⟨htalk, hfails, hflow, hdesks⟩ := hmatches
  have hdeed : (cmd.deed E (m, s)).1 = (o.cli.deed E (c, s)).1 := by
    simp only [Mi.Command.deed, Cli.Command.deed, htalk, hfails, hflow, hdesks.book]
  refine ⟨?_, ?_, ?_, ?_⟩
  all_goals rw [course_singleton]
  · exact (Deed.inOne_singleton _).trans hdeed
  · rfl
  · exact hdesks
  · exact congrArg Talk.engine htalk

/-- The two commands that set the program are one deed, in which the engine has no part. -/
theorem Agree.setProgram (h : Agree c m) {program : String} {args : List String}
    {cmd cmd' : Mi.Command}
    (hcmd : cmd.operation = Mi.Operation.setProgram.name ∧ cmd.args = [program])
    (hcmd' : cmd'.operation = Mi.Operation.setArguments.name ∧ cmd'.args = args) (s : σ) :
    (Intent.setProgram program args).Agreed E [cmd, cmd'] c m s := by
  have hfirst : cmd.deed E (m, s) =
      (⟨[], false, false, m.book⟩, { m with program := some program }, s) := by
    rw [Mi.Command.deed, Mi.Command.carriedOut_of_operation hcmd]
    rfl
  have hsecond : cmd'.deed E ({ m with program := some program }, s) =
      (⟨[], false, false, m.book⟩,
        { m with program := some program, args := some args }, s) := by
    rw [Mi.Command.deed, Mi.Command.carriedOut_of_operation hcmd']
    rfl
  have hcourse : course (Mi.Command.deed E) [cmd, cmd'] (m, s) =
      ([⟨[], false, false, m.book⟩, ⟨[], false, false, m.book⟩],
        { m with program := some program, args := some args }, s) := by
    rw [course_of_not_leaves (by rw [hfirst]), hfirst, course_singleton, hsecond]
  refine ⟨?_, ?_, ?_, ?_⟩
  all_goals rw [hcourse]
  · rw [h.book]
    rfl
  · rfl
  · exact ⟨h.preset, rfl, rfl, h.book⟩
  · rfl

theorem Agree.intent (h : Agree c m) {o : Intent} {cmds : List Mi.Command} (hspell : o.Spells cmds)
    (s : σ) : o.Agreed E cmds c m s := by
  cases o with
  | setProgram program args =>
    obtain ⟨cmd, _, hcmd, hrest, rfl⟩ := List.forall₂_cons_left_iff.1 hspell
    obtain ⟨cmd', _, hcmd', hnil, rfl⟩ := List.forall₂_cons_left_iff.1 hrest
    obtain rfl := List.forall₂_nil_left_iff.1 hnil
    exact h.setProgram hcmd hcmd' s
  | run | attach _ | resume | next | step | finish | interrupt | addBreakpoint _ _ _
  | removeBreakpoint _ | listBreakpoints | listThreads | quit =>
    obtain ⟨cmd, _, hcmd, hnil, rfl⟩ := List.forall₂_cons_left_iff.1 hspell
    obtain rfl := List.forall₂_nil_left_iff.1 hnil
    exact h.intent_of_operation rfl hcmd s

/-- The deeds of the machine interface fall into parts, each of which is one deed of the command
line. -/
theorem Agree.intents (h : Agree c m) {intents : List Intent} {groups : List (List Mi.Command)}
    (hspell : List.Forall₂ Intent.Spells intents groups) (s : σ) :
    ∃ parts : List (List Deed),
      parts.flatten = (course (Mi.Command.deed E) groups.flatten (m, s)).1 ∧
      parts.map Deed.inOne = (course (Cli.Command.deed E) (intents.map Intent.cli) (c, s)).1 ∧
      parts.map List.length = (groups.map List.length).take parts.length := by
  induction hspell generalizing c m s with
  | nil => exact ⟨[], rfl, rfl, rfl⟩
  | @cons o cmds intents groups ho _ ih =>
    obtain ⟨hdeed, hlength, hdesks, hengine⟩ := h.intent (E := E) ho s
    have hleaves := congrArg Deed.leaves hdeed
    rw [List.map_cons, List.flatten_cons]
    cases hl : (o.cli.deed E (c, s)).1.leaves with
    | true =>
      rw [hl] at hleaves
      rw [course_append_of_leaves _ hleaves, course_of_leaves hl]
      refine ⟨[_], List.append_nil _, congrArg (fun x => [x]) hdeed, ?_⟩
      rw [List.map_cons, List.map_cons, hlength]
      rfl
    | false =>
      rw [hl] at hleaves
      rw [course_append_of_stays _ hleaves, course_of_not_leaves hl]
      obtain ⟨parts, hflatten, hparts, hlengths⟩ := ih hdesks (o.cli.deed E (c, s)).2.2
      rw [← hengine] at hflatten
      refine ⟨(course (Mi.Command.deed E) cmds (m, s)).1 :: parts, ?_, ?_, ?_⟩
      · rw [List.flatten_cons, hflatten]
      · rw [List.map_cons, hdeed, hparts]
      · rw [List.map_cons, List.map_cons, hlength, hlengths]
        rfl

end Courses

/-- The command line and the machine interface drive the engine alike.  Whatever is intended, preset
and answered, the deeds of the machine interface fall into one part for each intent up to the one
with which the client leaves, and each part is the deed of the command line for that intent: the same
calls, the same breakpoint list behind it, failing and leaving alike.  The loops of both follow these
courses on all lines that are commands. -/
theorem intents_agree :
    (∀ {σ : Type} (E : Engine σ) (preset : Option LaunchTarget) (s : σ) {intents : List Intent}
      {groups : List (List Mi.Command)}, List.Forall₂ Intent.Spells intents groups →
      ∃ parts : List (List Deed),
        parts.flatten = (course (Mi.Command.deed E) groups.flatten ({ preset }, s)).1 ∧
        parts.map Deed.inOne =
          (course (Cli.Command.deed E) (intents.map Intent.cli) ({ preset }, s)).1 ∧
        parts.map List.length = (groups.map List.length).take parts.length) ∧
    (∀ {σ : Type} (E : Engine σ) {input : List Arrival} {lines : List Cli.Heard}
      {cmds : List Cli.Command} {r : Run σ Cli.Desk},
      Line.framing.heard input = (lines, .ok ()) →
      List.Forall₂ (fun h cmd => h.sense = .command cmd) lines cmds →
      (∀ n, r.scene.writeError n = none) →
      Follows (Cli.loop E input r) r.scene ((Line.framing.readings input).map Reading.taken)
        (course (Cli.Command.deed E) cmds (r.desk, r.engine))) ∧
    (∀ {σ : Type} (E : Engine σ) {input : List Arrival} {lines : List Mi.Heard}
      {cmds : List Mi.Command} {r : Run σ Mi.Desk},
      Line.framing.heard input = (lines, .ok ()) →
      List.Forall₂ (fun h cmd => h.command? = some cmd) lines cmds →
      (∀ n, r.scene.writeError n = none) →
      Follows (Mi.loop E input r) r.scene ((Line.framing.readings input).map Reading.taken)
        (course (Mi.Command.deed E) cmds (r.desk, r.engine))) := by
  refine ⟨fun E preset s _ _ hspell => ?_,
    fun E _ _ _ _ hlines hcmds hw => Cli.loop_follows E hlines hcmds hw,
    fun E _ _ _ _ hlines hcmds hw => Mi.loop_follows E hlines hcmds hw⟩
  have hagree : Agree { preset } { preset } := ⟨rfl, rfl, rfl, rfl⟩
  exact hagree.intents hspell s

namespace Intent

/-- A breakpoint and a program that the engine refuses, and an end that it grants. -/
def session : List Intent :=
  [setProgram "a.out" ["x"], addBreakpoint "a.c" 3 (by decide), run, quit, next]

def cliInput : List Arrival :=
  [.bytes (Text.Utf8.encode "file a.out x\nb a.c:3\nru"),
    .bytes (Text.Utf8.encode "n\nquit\n"), .bytes (Text.Utf8.encode "next\n")]

def cliRun : Run Unit Cli.Desk where
  desk := {}
  scene := { mode := .cli, writeError := fun _ => none, switch := { main := .main } }
  engine := ()

def miInput : List Arrival :=
  [.bytes (Text.Utf8.encode
    "-file-exec-and-symbols a.out\n-exec-arguments x\n7-break-insert \"a.c:3\"\n-exec-run\n"),
    .bytes (Text.Utf8.encode "-gdb-exit\n"), .bytes (Text.Utf8.encode "-exec-next\n")]

def miGroups : List (List Mi.Command) :=
  [[⟨none, "file-exec-and-symbols", ["a.out"]⟩, ⟨none, "exec-arguments", ["x"]⟩],
    [⟨some 7, "break-insert", ["a.c:3"]⟩], [⟨none, "exec-run", []⟩], [⟨none, "gdb-exit", []⟩],
    [⟨none, "exec-next", []⟩]]

end Intent

open Intent (session cliInput cliRun miInput miGroups) in
theorem intents_agree_session :
    (∃ parts : List (List Deed), parts.map List.length = [2, 1, 1, 1] ∧
      parts.map Deed.inOne =
        [⟨[], false, false, {}⟩, ⟨[.setBreakpoints "a.c" [3]], true, false, {}⟩,
          ⟨[.launch "a.out" ["x"]], true, false, {}⟩, ⟨[.disconnect true], false, true, {}⟩] ∧
      parts.flatten = (course (Mi.Command.deed Mi.lettingGo) miGroups.flatten ({}, ())).1) ∧
    Follows (Cli.loop Mi.lettingGo cliInput cliRun) cliRun.scene
      ((Line.framing.readings cliInput).map Reading.taken)
      (course (Cli.Command.deed Mi.lettingGo) (session.map Intent.cli) ({}, ())) ∧
    Follows (Mi.loop Mi.lettingGo miInput Mi.freshRun) Mi.freshRun.scene
      ((Line.framing.readings miInput).map Reading.taken)
      (course (Mi.Command.deed Mi.lettingGo) miGroups.flatten ({}, ())) := by
  have hspell : List.Forall₂ Intent.Spells session miGroups := by
    refine .cons (.cons ?_ (.cons ?_ .nil)) (.cons (.cons ?_ .nil) (.cons (.cons ?_ .nil)
      (.cons (.cons ?_ .nil) (.cons (.cons ?_ .nil) .nil))))
    all_goals decide +kernel
  obtain ⟨hagree, hcli, hmi⟩ := intents_agree
  refine ⟨?_, ?_, ?_⟩
  · obtain ⟨parts, hflatten, hparts, hlengths⟩ := hagree Mi.lettingGo none () hspell
    have hdeeds : (course (Cli.Command.deed Mi.lettingGo) (session.map Intent.cli) ({}, ())).1 =
        [⟨[], false, false, {}⟩, ⟨[.setBreakpoints "a.c" [3]], true, false, {}⟩,
          ⟨[.launch "a.out" ["x"]], true, false, {}⟩, ⟨[.disconnect true], false, true, {}⟩] := by
      decide +kernel
    rw [hdeeds] at hparts
    have hcount := congrArg List.length hparts
    rw [List.length_map] at hcount
    refine ⟨parts, ?_, hparts, hflatten⟩
    rw [hlengths, hcount]
    rfl
  · have hheard : Line.framing.heard cliInput =
        ([.ok "file a.out x", .ok "b a.c:3", .ok "run", .ok "quit", .ok "next"], .ok ()) := by
      decide +kernel
    refine hcli Mi.lettingGo hheard ?_ fun _ => rfl
    refine .cons ?_ (.cons ?_ (.cons ?_ (.cons ?_ (.cons ?_ .nil))))
    all_goals decide +kernel
  · have hheard : Line.framing.heard miInput =
        ([.ok "-file-exec-and-symbols a.out", .ok "-exec-arguments x",
          .ok "7-break-insert \"a.c:3\"", .ok "-exec-run", .ok "-gdb-exit", .ok "-exec-next"],
          .ok ()) := by
      decide +kernel
    refine hmi Mi.lettingGo hheard ?_ fun _ => rfl
    refine .cons ?_ (.cons ?_ (.cons ?_ (.cons ?_ (.cons ?_ (.cons ?_ .nil)))))
    all_goals decide +kernel

end DebugSession
