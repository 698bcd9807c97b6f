/-
Which program a client of the machine interface has started.  It is told by the lines so far alone:
the last that set a program, the last that set arguments, and the configuration.
-/
import DebugSession.Proofs.FrontEnd.Launch
import DebugSession.Proofs.Mi.Conversation

namespace DebugSession
namespace Mi

variable {σ : Type}

/-! ## What lines ask for -/

namespace Command

/-- The program that a command sets. -/
def program? (cmd : Command) : Option String :=
  if cmd.operation = "file-exec-and-symbols" then cmd.args.head? else none

/-- The arguments that a command sets. -/
def arguments? (cmd : Command) : Option (List String) :=
  if cmd.operation = "exec-arguments" then some cmd.args else none

end Command

/-- The program that was set last. -/
def lastProgram? (past : List Heard) : Option String :=
  (past.filterMap fun h => h.command?.bind Command.program?).getLast?

/-- The arguments that were set last. -/
def lastArguments? (past : List Heard) : Option (List String) :=
  (past.filterMap fun h => h.command?.bind Command.arguments?).getLast?

/-- The program to start after these lines.  Arguments that were set are for any program, those of
the configuration for its own only. -/
def targetAfter? (preset : Option LaunchTarget) (past : List Heard) : Option LaunchTarget :=
  match lastProgram? past, preset with
  | some program, _ => some { program, args := (lastArguments? past).getD [] }
  | none, some t => some { program := t.program, args := (lastArguments? past).getD t.args }
  | none, none => none

/-- Lines start programs with `-exec-run`. -/
def starter (preset : Option LaunchTarget) : Starter Heard where
  wish past h :=
    if h.command?.map Command.operation = some "exec-run" then
      some (match targetAfter? preset past with
        | some t => .ok t
        | none => .error Complaint.noProgram.message)
    else none
  later := [.configurationDone]
  refusal h reason said := said = [errorText h.mark reason]
  leaves h := ∃ cmd, h.command? = some cmd ∧ cmd.operation = "gdb-exit"

/-! ## What the desk keeps -/

/-- The desk knows of the lines what they set. -/
structure Informed (preset : Option LaunchTarget) (past : List Heard) (d : Desk) : Prop where
  preset : d.preset = preset
  program : d.program = lastProgram? past
  args : d.args = lastArguments? past

theorem Informed.launchTarget? {preset : Option LaunchTarget} {past : List Heard} {d : Desk}
    (h : Informed preset past d) : d.launchTarget? = targetAfter? preset past := by
  obtain ⟨preset', program, args, book⟩ := d
  obtain ⟨rfl, hprogram, hargs⟩ := h
  obtain rfl : program = _ := hprogram
  obtain rfl : args = _ := hargs
  unfold targetAfter?
  cases lastProgram? past <;> cases lastArguments? past <;> cases preset' <;> rfl

/-- The desk after a command that sets something, or nothing. -/
structure Desk.Notes (d : Desk) (cmd : Command) (d' : Desk) : Prop where
  preset : d'.preset = d.preset
  program : d'.program = cmd.program?.or d.program
  args : d'.args = cmd.arguments?.or d.args

namespace Desk

variable {E : Engine σ}

theorem notes_of_ne (d : Desk) {cmd : Command}
    (hprogram : cmd.operation ≠ Operation.setProgram.name)
    (harguments : cmd.operation ≠ Operation.setArguments.name) (book : Breakpoint.Book) :
    d.Notes cmd { d with book } where
  preset := rfl
  program := by
    rw [show cmd.program? = none from if_neg hprogram]
    rfl
  args := by
    rw [show cmd.arguments? = none from if_neg harguments]
    rfl

theorem notes_setProgram (d : Desk) {cmd : Command}
    (h : cmd.operation = Operation.setProgram.name) : d.Notes cmd (d.setProgram cmd.args).2 := by
  have hprogram : cmd.program? = cmd.args.head? := if_pos h
  have harguments : cmd.arguments? = none := if_neg (h ▸ by decide)
  refine ⟨?_, hprogram ▸ ?_, harguments ▸ ?_⟩ <;> cases cmd.args <;> rfl

theorem notes_setArguments (d : Desk) {cmd : Command}
    (h : cmd.operation = Operation.setArguments.name) :
    d.Notes cmd { d with args := some cmd.args } := by
  have hprogram : cmd.program? = none := if_neg (h ▸ by decide)
  have harguments : cmd.arguments? = some cmd.args := if_pos h
  refine ⟨rfl, ?_, ?_⟩
  · rw [hprogram]
    rfl
  · rw [harguments]
    rfl

theorem startless_drive (d : Desk) {calls : List Call} (h : ∀ c ∈ calls, c.target? = none)
    (reply : Reply) :
    Startless E (fun x => ∃ book, x.2 = { d with book }) (d.drive E calls reply) := by
  refine (Startless.tellAll h).bind fun told _ => ?_
  cases told with
  | ok _ => exact .pure ⟨d.book, rfl⟩
  | error e => exact .pure ⟨d.book, rfl⟩

theorem startless_deleteAll (args : List String) (book : Breakpoint.Book) :
    Startless E (fun _ => True) (deleteAll E args book) := by
  induction args generalizing book with
  | nil => exact .pure trivial
  | cons arg args ih =>
    rw [deleteAll]
    cases Text.Decimal.parseU32 arg with
    | error fault => exact .pure trivial
    | ok id =>
      refine (Startless.remove book id).bind fun removed _ => ?_
      obtain ⟨_ | _, book'⟩ := removed
      · exact .pure trivial
      · exact ih book'

/-- What neither sets a program or arguments nor runs one leaves all but the breakpoints. -/
theorem startless_perform (d : Desk) {op : Operation} (args : List String)
    (hprogram : op ≠ .setProgram) (harguments : op ≠ .setArguments) (hrun : op ≠ .run) :
    Startless E (fun x => ∃ book, x.2 = { d with book }) (d.perform E op args) := by
  cases op with
  | setProgram => exact absurd rfl hprogram
  | setArguments => exact absurd rfl harguments
  | run => exact absurd rfl hrun
  | attach =>
    cases args with
    | nil => exact .pure ⟨d.book, rfl⟩
    | cons arg args =>
      show Startless E _ (d.attach E (arg :: args))
      rw [attach]
      cases Text.Decimal.parseU32 arg with
      | error fault => exact .pure ⟨d.book, rfl⟩
      | ok pid => exact startless_drive d (by simp [Call.target?]) _
  | insertBreakpoint =>
    show Startless E _ (d.insertBreakpoint E args)
    rw [insertBreakpoint]
    cases args.find? fun arg => !isOption arg with
    | none => exact .pure ⟨d.book, rfl⟩
    | some arg =>
      dsimp only
      cases location? arg with
      | none => exact .pure ⟨d.book, rfl⟩
      | some location =>
        refine (Startless.insert d.book location.1 location.2).bind fun inserted _ => ?_
        obtain ⟨_ | _, book⟩ := inserted <;> exact .pure ⟨book, rfl⟩
  | deleteBreakpoints =>
    show Startless E _ (d.deleteBreakpoints E args)
    rw [deleteBreakpoints]
    cases args with
    | nil => exact .pure ⟨d.book, rfl⟩
    | cons arg args =>
      exact (startless_deleteAll (arg :: args) d.book).bind fun deleted _ =>
        .pure ⟨deleted.2, rfl⟩
  | listBreakpoints => exact .pure ⟨d.book, rfl⟩
  | listThreads =>
    refine (Startless.ask rfl).bind fun answer _ => ?_
    cases answer <;> exact .pure ⟨d.book, rfl⟩
  | resume | pause | next | step | finish | exit =>
    exact startless_drive d (by simp [Call.target?]) _

/-- A command that does not run a program starts none, and the desk notes what it sets. -/
theorem startless_handle (d : Desk) {cmd : Command} (h : cmd.operation ≠ "exec-run") :
    Startless E (fun x => d.Notes cmd x.2) (d.handle E cmd) := by
  unfold handle
  cases hop : Operation.ofName? cmd.operation with
  | none =>
    have hne : ∀ op, cmd.operation ≠ Operation.name op := by
      intro op hname
      rw [hname, Operation.ofName?_name] at hop
      exact nomatch hop
    exact .pure (d.notes_of_ne (hne _) (hne _) d.book)
  | some op =>
    have hname := Operation.name_of_ofName? hop
    by_cases hset : op = .setProgram ∨ op = .setArguments
    · rcases hset with rfl | rfl
      · exact .pure (d.notes_setProgram hname.symm)
      · exact .pure (d.notes_setArguments hname.symm)
    · obtain ⟨hprogram, harguments⟩ := not_or.1 hset
      have hne : ∀ op', op ≠ op' → cmd.operation ≠ op'.name := fun op' hop' hsame => hop' <|
        Option.some.inj ((hop.symm.trans (congrArg _ hsame)).trans (Operation.ofName?_name op'))
      refine (startless_perform d cmd.args hprogram harguments ?_).mono ?_
      · rintro rfl
        exact h hname.symm
      · rintro ⟨outcome, d'⟩ ⟨book, rfl⟩
        exact d.notes_of_ne (hne _ hprogram) (hne _ harguments) book

theorem adds_drive (d : Desk) (calls : List Call) (reply : Reply) (t : Talk σ) :
    t.Adds E (E.reached calls t.engine) (d.drive E calls reply t).2 ∧
      (d.drive E calls reply t).1.2 = d := by
  have hadds := Talk.Adds.tellAll E calls t
  rw [drive_eq]
  generalize E.tellAll calls t = told at hadds
  obtain ⟨_ | _, t'⟩ := told <;> exact ⟨hadds, rfl⟩

theorem run_of_some (d : Desk) {target : LaunchTarget} (h : d.launchTarget? = some target)
    (t : Talk σ) : t.Adds E (E.starting target [.configurationDone] t.engine) (d.run E t).2 ∧
      (d.run E t).1.2 = d := by
  rw [← Engine.reached_launch, run, h]
  exact adds_drive d _ _ t

theorem run_of_none (d : Desk) (h : d.launchTarget? = none) (t : Talk σ) :
    d.run E t = ((.error .noProgram, d), t) := by
  rw [run, h]
  rfl

end Desk

/-! ## Turns -/

section Turns

variable {E : Engine σ} {r : Run σ Desk}

theorem does_reply (text : String) (r : Run σ Desk) :
    Does (reply text) r [] [text] .goOn (r.desk, r.engine) :=
  .wrote (Scene.gives_write text r.scene) .goOn

theorem does_obey {cmd : Command} {outcome : Except Complaint Reply} {desk : Desk} {talk : Talk σ}
    (hcarried : cmd.carriedOut E (r.desk, r.engine) = ((outcome, desk), talk)) :
    Does (obey E cmd) r (talk.exchanges.map Exchange.call) [answerText cmd.tokenText outcome]
      (flowAfter outcome) (desk, talk.engine) := by
  refine .conversed hcarried ?_
  cases outcome with
  | error c => exact does_reply _ _
  | ok answer =>
    cases answer with
    | done fields => exact does_reply _ _
    | running => exact does_reply _ _
    | exit => exact .wrote (Scene.gives_write _ _) .leave

theorem does_answer_of_none {h : Heard} (hcmd : h.command? = none) (r : Run σ Desk) :
    ∃ text, Does (answer E h) r [] [text] .goOn (r.desk, r.engine) := by
  cases h with
  | error u => exact ⟨_, does_reply _ r⟩
  | ok line =>
    have hparse : Command.parse line = none := hcmd
    rw [answer]
    split
    · exact ⟨_, does_reply prompt r⟩
    · rw [hparse]
      exact ⟨_, .logged (does_reply _ _)⟩

theorem does_answer_of_some {h : Heard} {cmd : Command} (hcmd : h.command? = some cmd)
    {outcome : Except Complaint Reply} {desk : Desk} {talk : Talk σ}
    (hcarried : cmd.carriedOut E (r.desk, r.engine) = ((outcome, desk), talk)) :
    Does (answer E h) r (talk.exchanges.map Exchange.call) [answerText h.mark outcome]
      (flowAfter outcome) (desk, talk.engine) := by
  rw [← Heard.tokenText_of_command? hcmd]
  cases h with
  | error u => exact nomatch hcmd
  | ok line =>
    have hblank : ¬ Text.allBlank line.toList = true := fun hblank =>
      nomatch hcmd.symm.trans (Heard.command?_of_isBlank (h := .ok line) hblank)
    have hparse : Command.parse line = some cmd := hcmd
    rw [answer, if_neg hblank, hparse]
    exact .logged (does_obey hcarried)

end Turns

variable {E : Engine σ} {preset : Option LaunchTarget} {past : List Heard}

theorem Informed.notes {d d' : Desk} (hd : Informed preset past d) {h : Heard} {cmd : Command}
    (hcmd : h.command? = some cmd) (hnotes : d.Notes cmd d') :
    Informed preset (past ++ [h]) d' where
  preset := hnotes.preset.trans hd.preset
  program := by
    rw [hnotes.program, hd.program, lastProgram?, lastProgram?, getLast?_filterMap_concat, hcmd]
    rfl
  args := by
    rw [hnotes.args, hd.args, lastArguments?, lastArguments?, getLast?_filterMap_concat, hcmd]
    rfl

theorem Informed.skip {d : Desk} (hd : Informed preset past d) {h : Heard}
    (hcmd : h.command? = none) : Informed preset (past ++ [h]) d where
  preset := hd.preset
  program := by
    rw [hd.program, lastProgram?, lastProgram?, getLast?_filterMap_concat, hcmd]
    rfl
  args := by
    rw [hd.args, lastArguments?, lastArguments?, getLast?_filterMap_concat, hcmd]
    rfl

/-- What running a program does at a desk that knows of the lines so far. -/
theorem heeds_run {d : Desk} (hd : Informed preset past d) {h : Heard}
    (hrun : h.command?.map Command.operation = some "exec-run") (engine : σ) :
    ∃ called, Talk.Adds E { engine } called (d.run E { engine }).2 ∧
      (d.run E { engine }).1.2 = d ∧
      (starter preset).Heeds E past h engine called
        [answerText h.mark (d.run E { engine }).1.1] := by
  have hwish : (starter preset).wish past h = some (match d.launchTarget? with
      | some t => .ok t
      | none => .error Complaint.noProgram.message) := by
    rw [hd.launchTarget?]
    exact if_pos hrun
  cases htarget : d.launchTarget? with
  | none =>
    rw [htarget] at hwish
    rw [d.run_of_none htarget]
    exact ⟨[], .refl E _, rfl, Starter.heeds_of_error hwish rfl⟩
  | some target =>
    rw [htarget] at hwish
    obtain ⟨hadds, hdesk⟩ := d.run_of_some (E := E) htarget { engine }
    exact ⟨_, hadds, hdesk, Starter.heeds_of_ok hwish⟩

theorem heeds_handle {d : Desk} (hd : Informed preset past d) {h : Heard} {cmd : Command}
    (hcmd : h.command? = some cmd) (engine : σ) :
    ∃ called, Talk.Adds E { engine } called (d.handle E cmd { engine }).2 ∧
      d.Notes cmd (d.handle E cmd { engine }).1.2 ∧
      (starter preset).Heeds E past h engine called
        [answerText h.mark (d.handle E cmd { engine }).1.1] := by
  have hoperation : h.command?.map Command.operation = some cmd.operation := by
    rw [hcmd]
    rfl
  by_cases hrun : cmd.operation = "exec-run"
  · have hhandle : d.handle E cmd = d.run E := by
      rw [Desk.handle, hrun, show Operation.ofName? "exec-run" = some .run from
        Operation.ofName?_name .run]
      rfl
    obtain ⟨called, hadds, hdesk, hheeds⟩ :=
      heeds_run (E := E) hd (hoperation.trans (congrArg some hrun)) engine
    rw [hhandle]
    refine ⟨called, hadds, ?_, hheeds⟩
    rw [hdesk]
    exact d.notes_of_ne (hrun ▸ by decide) (hrun ▸ by decide) d.book
  · obtain ⟨called, hadds, hcalled, hnotes⟩ := d.startless_handle (E := E) hrun { engine }
    refine ⟨called, hadds, hnotes, Starter.heeds_of_none (if_neg fun hsame => hrun ?_) hcalled⟩
    exact Option.some.inj (hoperation.symm.trans hsame)

/-- The answer to a line does what the lines so far ask for. -/
theorem answer_heeds (h : Heard) {r : Run σ Desk} (hr : Informed preset past r.desk) :
    ∃ called said flow desk, Does (answer E h) r called said flow (desk, E.after called r.engine) ∧
      Informed preset (past ++ [h]) desk ∧ (starter preset).Heeds E past h r.engine called said ∧
      (flow = .leave → (starter preset).leaves h) := by
  cases hcmd : h.command? with
  | none =>
    obtain ⟨text, hdoes⟩ := does_answer_of_none (E := E) hcmd r
    have hwish : (starter preset).wish past h = none := if_neg (by rw [hcmd]; exact nofun)
    exact ⟨[], [text], .goOn, r.desk, hdoes, hr.skip hcmd,
      Starter.heeds_of_none hwish fun _ hc => absurd hc List.not_mem_nil,
      fun hflow => Flow.noConfusion hflow⟩
  | some cmd =>
    obtain ⟨called, hadds, hnotes, hheeds⟩ := heeds_handle (E := E) hr hcmd r.engine
    have hexit := @Desk.handle_eq_exit_iff _ E r.desk cmd { engine := r.engine }
    rcases hcarried : cmd.carriedOut E (r.desk, r.engine) with ⟨⟨outcome, desk⟩, talk⟩
    have hhandle : r.desk.handle E cmd { engine := r.engine } = ((outcome, desk), talk) := hcarried
    rw [hhandle] at hadds hnotes hheeds hexit
    have hdoes := does_answer_of_some hcmd hcarried
    rw [hadds.calls_eq, hadds.engine] at hdoes
    exact ⟨called, _, _, desk, hdoes, hr.notes hcmd hnotes, hheeds,
      fun hleave => ⟨cmd, hcmd, (hexit.1 (flowAfter_eq_leave_iff.1 hleave)).1⟩⟩

/-- The loop, with the prompt in front. -/
theorem loop_governed (E : Engine σ) (input : List Arrival) {r : Run σ Desk}
    (hr : Informed preset [] r.desk) :
    (starter preset).Governs E Line.framing input r.engine r.scene.trace
      (loop E input r).2.scene.trace := by
  obtain ⟨opening, hprompt, hlost⟩ := Scene.gives_write prompt r.scene
  cases hwrite : (write prompt r).1 with
  | error e =>
    have hprompted : write prompt r = (.error e, wrote prompt r) := Prod.ext hwrite rfl
    have hwhole : loop E input r = (.error e, wrote prompt r) := by
      rw [loop, bind_of_eq hprompted]
      rfl
    have hunheard : ¬ Unlost opening := hlost.resolve_left fun hok => by
      cases hwrite.symm.trans hok
    rw [hwhole]
    exact (Starter.Turns.none hprompt.calls (.inr hunheard)).governs hprompt.grows
  | ok _ =>
    have hprompted : write prompt r = (.ok (), wrote prompt r) := Prod.ext hwrite rfl
    have hwhole : loop E input r =
        (frontEnd E).serve (Line.framing.readings input) (wrote prompt r) := by
      rw [loop, bind_of_eq hprompted]
    have hgreets : (frontEnd E).Greets [] := Scene.gives_nothing
    obtain ⟨turns, closing, hgrows, hturns⟩ :=
      FrontEnd.serve_starts (Informed preset) hgreets (fun past h r hr => answer_heeds h hr)
        (Line.framing.outcomes_readings input) (r := wrote prompt r) hr
    rw [hwhole]
    exact (hturns.governs hgrows).opened hprompt.grows hprompt.calls

/-- No arguments are arguments too, and a line that fails sets nothing. -/
example : targetAfter? (some ⟨"a.out", ["x"]⟩)
    [.ok "-exec-arguments", .ok "-file-exec-and-symbols", .ok "file b.out"] =
      some ⟨"a.out", []⟩ := by cbv

end Mi
end DebugSession
