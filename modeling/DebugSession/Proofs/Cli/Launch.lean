/-
Which program a user of the command line has started: the one of the last `file`, or else that of
the configuration.
-/
import DebugSession.Proofs.Cli.Conversation
import DebugSession.Proofs.FrontEnd.Launch

namespace DebugSession
namespace Cli

variable {σ : Type}

/-! ## What lines ask for -/

/-- The program that a command chooses. -/
def Command.target? : Command → Option LaunchTarget
  | .file program args => some { program, args }
  | _ => none

def Heard.target? (h : Heard) : Option LaunchTarget :=
  match h.sense with
  | .command cmd => cmd.target?
  | _ => none

/-- The program that was chosen last. -/
def lastTarget? (past : List Heard) : Option LaunchTarget := (past.filterMap Heard.target?).getLast?

/-- Lines start programs with `run`. -/
def starter (preset : Option LaunchTarget) : Starter Heard where
  wish past h :=
    if h.sense = .command .run then
      some (match (lastTarget? past).or preset with
        | some t => .ok t
        | none => .error Complaint.noProgram.message)
    else none
  later := [.configurationDone]
  refusal _ reason said := said = [prompt, complaint reason]
  leaves h := h.sense = .command .quit

/-! ## What the desk keeps -/

/-- The desk knows which program the lines chose. -/
structure Informed (preset : Option LaunchTarget) (past : List Heard) (d : Desk) : Prop where
  preset : d.preset = preset
  chosen : d.chosen = lastTarget? past

/-- What a command comes to, apart from breakpoints and answers. -/
structure Desk.Notes (d : Desk) (cmd : Command) (x : Outcome) : Prop where
  preset : x.2.preset = d.preset
  chosen : x.2.chosen = cmd.target?.or d.chosen
  quits : x.1 = .ok .quit → cmd = .quit

namespace Desk

variable {E : Engine σ}

theorem startless_drive (d : Desk) {cmd : Command} (hcmd : cmd.target? = none) {calls : List Call}
    (h : ∀ c ∈ calls, c.target? = none) {reply : Reply} (hquit : reply = .quit → cmd = .quit) :
    Startless E (d.Notes cmd) (d.drive E calls reply) := by
  have hchosen : d.chosen = cmd.target?.or d.chosen := by rw [hcmd, Option.none_or]
  refine (Startless.tellAll h).bind fun told _ => ?_
  cases told with
  | ok _ => exact .pure ⟨rfl, hchosen, fun hok => hquit (Except.ok.inj hok)⟩
  | error e => exact .pure ⟨rfl, hchosen, fun hok => nomatch hok⟩

/-- A command that does not run a program starts none. -/
theorem startless_handle (d : Desk) {cmd : Command} (h : cmd ≠ .run) :
    Startless E (d.Notes cmd) (d.handle E cmd) := by
  cases cmd with
  | run => exact absurd rfl h
  | file program args => exact .pure ⟨rfl, rfl, fun hok => nomatch hok⟩
  | breakAdd file line =>
    refine (Startless.insert d.book file line).bind fun inserted _ => ?_
    obtain ⟨_ | _, book⟩ := inserted <;> exact .pure ⟨rfl, rfl, fun hok => nomatch hok⟩
  | breakRemove id =>
    refine (Startless.remove d.book id).bind fun removed _ => ?_
    obtain ⟨_ | _, book⟩ := removed <;> exact .pure ⟨rfl, rfl, fun hok => nomatch hok⟩
  | breakInfo =>
    refine .pure ⟨rfl, rfl, fun hok => ?_⟩
    unfold breakpointList at hok
    split at hok <;> exact nomatch hok
  | threadInfo =>
    refine (Startless.ask rfl).bind fun answer _ => ?_
    cases answer <;> exact .pure ⟨rfl, rfl, fun hok => nomatch hok⟩
  | help topic =>
    refine .pure ⟨rfl, rfl, fun hok => ?_⟩
    unfold help at hok
    split at hok <;> exact nomatch hok
  | attach pid => exact startless_drive d rfl (by simp [Call.target?]) nofun
  | resume | next | step | finish | interrupt =>
    exact startless_drive d rfl (by simp [Call.target?]) nofun
  | quit => exact startless_drive d rfl (by simp [Call.target?]) fun _ => rfl

theorem drive_eq (E : Engine σ) (d : Desk) (calls : List Call) (reply : Reply) (t : Talk σ) :
    d.drive E calls reply t =
      match E.tellAll calls t with
      | (.ok _, t') => ((.ok reply, d), t')
      | (.error e, t') => ((.error (.engine e), d), t') := by
  rcases htell : E.tellAll calls t with ⟨_ | _, t'⟩ <;> rw [drive, bind_of_eq htell] <;> rfl

theorem run_of_some (d : Desk) {target : LaunchTarget} (h : d.launchTarget? = some target)
    (t : Talk σ) : t.Adds E (E.starting target [.configurationDone] t.engine) (d.run E t).2 ∧
      d.Notes .run (d.run E t).1 := by
  have hadds := Talk.Adds.tellAll E [.launch target.program target.args, .configurationDone] t
  rw [Engine.reached_launch] at hadds
  rw [run, h]
  simp only [drive_eq]
  generalize E.tellAll [.launch target.program target.args, .configurationDone] t = told at hadds
  obtain ⟨_ | _, t'⟩ := told <;> exact ⟨hadds, rfl, rfl, fun hok => nomatch hok⟩

theorem run_of_none (d : Desk) (h : d.launchTarget? = none) (t : Talk σ) :
    d.run E t = ((.error .noProgram, d), t) := by
  rw [run, h]
  rfl

end Desk

/-! ## Turns -/

section Turns

variable {E : Engine σ} {r : Run σ Desk}

theorem does_reply (text : String) (r : Run σ Desk) :
    Does (reply text) r [] [text] .goOn (r.desk, r.engine) :=
  .wrote (Scene.gives_write text r.scene) .goOn

theorem does_obey {cmd : Command} {outcome : Except Complaint Reply} {desk : Desk} {talk : Talk σ}
    (hcarried : cmd.carriedOut E (r.desk, r.engine) = ((outcome, desk), talk)) :
    Does (obey E cmd) r (talk.exchanges.map Exchange.call) (answerText outcome).toList
      (flowAfter outcome) (desk, talk.engine) := by
  refine .conversed hcarried ?_
  cases outcome with
  | error c => exact does_reply _ _
  | ok answer =>
    cases answer with
    | text s => exact does_reply _ _
    | silent => exact .pure .goOn _
    | quit => exact .pure .leave _

/-- The answer to a line does what the line asks for, whether or not it reaches the user. -/
theorem does_answer (h : Heard) {e : Effect σ} (he : h.sense.effect E (r.desk, r.engine) = e) :
    Does (answer E h) r e.calls e.said.toList e.flow e.after := by
  subst he
  cases h with
  | error u => exact does_reply _ r
  | ok line =>
    rw [answer, Heard.sense]
    split
    · exact .pure .goOn r
    · refine .logged ?_
      cases Command.parse line with
      | error fault => exact does_reply _ _
      | ok cmd => exact does_obey rfl

end Turns

variable {E : Engine σ} {preset : Option LaunchTarget} {past : List Heard}

theorem Informed.launchTarget? {d : Desk} (hd : Informed preset past d) :
    d.launchTarget? = (lastTarget? past).or preset := by
  rw [Desk.launchTarget?, hd.chosen, hd.preset]
  cases lastTarget? past <;> rfl

/-- What a line comes to at a desk that knows of the lines so far. -/
structure Fits (E : Engine σ) (preset : Option LaunchTarget) (past : List Heard) (h : Heard)
    (engine : σ) (e : Effect σ) : Prop where
  led : e.after.2 = E.after e.calls engine
  informed : Informed preset (past ++ [h]) e.after.1
  heeds : (starter preset).Heeds E past h engine e.calls (prompt :: e.said.toList)
  quits : e.flow = .leave → h.sense = .command .quit

theorem fits_of_nothing {d : Desk} (hd : Informed preset past d) {h : Heard}
    (hcommand : ∀ cmd, h.sense ≠ .command cmd) (engine : σ) (said : Option String) :
    Fits E preset past h engine ⟨said, .goOn, [], d, engine⟩ where
  led := rfl
  informed := by
    have htarget : h.target? = none := by
      rw [Heard.target?]
      split
      · exact absurd ‹_› (hcommand _)
      · rfl
    refine ⟨hd.preset, ?_⟩
    rw [hd.chosen, lastTarget?, lastTarget?, getLast?_filterMap_concat, htarget]
    rfl
  heeds := Starter.heeds_of_none (if_neg (hcommand .run)) fun _ hc => absurd hc List.not_mem_nil
  quits hflow := Flow.noConfusion hflow

theorem eq_quit_of_flowAfter {outcome : Except Complaint Reply} (h : flowAfter outcome = .leave) :
    outcome = .ok .quit := by
  unfold flowAfter at h
  split at h
  · rfl
  · exact Flow.noConfusion h

theorem fits_of_notes {d : Desk} (hd : Informed preset past d) {h : Heard} {cmd : Command}
    (hsense : h.sense = .command cmd) {engine : σ} {called : List Call}
    (hadds : Talk.Adds E { engine } called (d.handle E cmd { engine }).2)
    (hnotes : d.Notes cmd (d.handle E cmd { engine }).1)
    (hheeds : ∀ said, ((d.handle E cmd { engine }).1.1 = .error .noProgram →
        said = [prompt, complaint Complaint.noProgram.message]) →
      (starter preset).Heeds E past h engine called said) :
    Fits E preset past h engine (h.sense.effect E (d, engine)) := by
  rcases hcarried : d.handle E cmd { engine } with ⟨⟨outcome, desk⟩, talk⟩
  rw [hcarried] at hadds hnotes hheeds
  have heffect : h.sense.effect E (d, engine) = ⟨answerText outcome, flowAfter outcome,
      talk.exchanges.map Exchange.call, desk, talk.engine⟩ := by
    have hrun : cmd.carriedOut E (d, engine) = ((outcome, desk), talk) := hcarried
    rw [hsense, Sense.effect, hrun]
  have htarget : h.target? = cmd.target? := by rw [Heard.target?, hsense]
  rw [heffect, hadds.calls_eq, hadds.engine]
  refine ⟨rfl, ⟨hnotes.preset.trans hd.preset, ?_⟩, hheeds _ ?_, fun hflow => ?_⟩
  · rw [hnotes.chosen, hd.chosen, lastTarget?, lastTarget?, getLast?_filterMap_concat, htarget]
  · rintro rfl
    rfl
  · rw [hsense, hnotes.quits (eq_quit_of_flowAfter hflow)]

theorem fits_of_command {d : Desk} (hd : Informed preset past d) {h : Heard} {cmd : Command}
    (hsense : h.sense = .command cmd) (engine : σ) :
    Fits E preset past h engine (h.sense.effect E (d, engine)) := by
  by_cases hrun : cmd = .run
  · subst hrun
    have hwish : (starter preset).wish past h = some (match d.launchTarget? with
        | some t => .ok t
        | none => .error Complaint.noProgram.message) := by
      rw [hd.launchTarget?]
      exact if_pos hsense
    cases htarget : d.launchTarget? with
    | none =>
      rw [htarget] at hwish
      have hfails : d.handle E .run { engine } = ((.error .noProgram, d), { engine }) :=
        d.run_of_none htarget { engine }
      have hadds : Talk.Adds E { engine } [] (d.handle E .run { engine }).2 := by
        rw [hfails]
        exact .refl E _
      have hnotes : d.Notes .run (d.handle E .run { engine }).1 := by
        rw [hfails]
        exact ⟨rfl, rfl, nofun⟩
      exact fits_of_notes hd hsense hadds hnotes fun said hsaid =>
        Starter.heeds_of_error hwish (hsaid (congrArg (fun x => x.1.1) hfails))
    | some target =>
      rw [htarget] at hwish
      obtain ⟨hadds, hnotes⟩ := d.run_of_some (E := E) htarget { engine }
      exact fits_of_notes hd hsense hadds hnotes fun _ _ => Starter.heeds_of_ok hwish
  · obtain ⟨called, hadds, hcalled, hnotes⟩ := d.startless_handle (E := E) hrun { engine }
    refine fits_of_notes hd hsense hadds hnotes fun _ _ =>
      Starter.heeds_of_none (if_neg fun hsame => hrun ?_) hcalled
    exact Sense.command.inj (hsense.symm.trans hsame)

/-- The answer to a line does what the lines so far ask for. -/
theorem answer_heeds (h : Heard) {r : Run σ Desk} (hr : Informed preset past r.desk) :
    ∃ called said flow desk, Does (answer E h) r called said flow (desk, E.after called r.engine) ∧
      Informed preset (past ++ [h]) desk ∧
      (starter preset).Heeds E past h r.engine called ([prompt] ++ said) ∧
      (flow = .leave → (starter preset).leaves h) := by
  obtain ⟨e, he, hfits⟩ : ∃ e, h.sense.effect E (r.desk, r.engine) = e ∧
      Fits E preset past h r.engine e := by
    cases hsense : h.sense with
    | nothing => exact ⟨_, rfl, fits_of_nothing hr (by rw [hsense]; exact nofun) r.engine none⟩
    | fault message =>
      exact ⟨_, rfl, fits_of_nothing hr (by rw [hsense]; exact nofun) r.engine _⟩
    | command cmd => exact ⟨_, rfl, hsense ▸ fits_of_command hr hsense r.engine⟩
  have hafter : e.after = (e.after.1, E.after e.calls r.engine) := Prod.ext rfl hfits.led
  refine ⟨e.calls, _, e.flow, e.after.1, ?_, hfits.informed, hfits.heeds, hfits.quits⟩
  rw [← hafter]
  exact does_answer h he

theorem loop_governed (E : Engine σ) (input : List Arrival) {r : Run σ Desk}
    (hr : Informed preset [] r.desk) :
    (starter preset).Governs E Line.framing input r.engine r.scene.trace
      (loop E input r).2.scene.trace := by
  obtain ⟨turns, closing, hgrows, hturns⟩ :=
    FrontEnd.serve_starts (F := frontEnd E) (Informed preset) (Scene.gives_write prompt)
      (fun past h r hr => answer_heeds h hr) (Line.framing.outcomes_readings input) hr
  exact hturns.governs hgrows

end Cli
end DebugSession
