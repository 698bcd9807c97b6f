/-
The command line over a whole session.  Every line follows a prompt and gets at most one text as its
answer; the engine is called for commands only, and the loop is left with the first `quit` that the
engine grants.
-/
import DebugSession.Cli.FrontEnd
import DebugSession.Proofs.FrontEnd.Conversation

namespace DebugSession
namespace Cli

open DebugSession.Action (arrivals calls replies)
open Scene (Stretch)

variable {σ : Type}

/-! ## Lines -/

/-- A line as it is read: its text, or its bytes if they are not UTF-8. -/
abbrev Heard := Except Line.Undecodable String

/-- What a line asks for. -/
inductive Sense where
  | nothing
  /-- The line is no command. -/
  | fault (message : String)
  | command (cmd : Command)
deriving Repr, DecidableEq

def Heard.sense : Heard → Sense
  | .error u => .fault u.message
  | .ok line =>
    if Text.allBlank line.toList then .nothing
    else
      match Command.parse line with
      | .error fault => .fault fault.message
      | .ok cmd => .command cmd

def complaint (message : String) : String := "Error: " ++ message ++ "\n"

/-- The text that a command comes to, if it comes to any. -/
def answerText : Except Complaint Reply → Option String
  | .ok (.text s) => some (s ++ "\n")
  | .ok _ => none
  | .error c => some (complaint c.message)

/-- How the loop goes on after a command. -/
def flowAfter : Except Complaint Reply → Flow
  | .ok .quit => .leave
  | _ => .goOn

/-- What a command comes to, the desk after it, and what passed between the desk and the engine. -/
def Command.carriedOut (E : Engine σ) (cmd : Command) (before : Desk × σ) :
    Desk.Outcome × Talk σ :=
  (before.1.handle E cmd).run { engine := before.2 }

/-- What a line leads to. -/
structure Effect (σ : Type) where
  said : Option String
  flow : Flow
  calls : List Call
  after : Desk × σ

def Sense.effect (E : Engine σ) (before : Desk × σ) : Sense → Effect σ
  | .nothing => ⟨none, .goOn, [], before⟩
  | .fault message => ⟨some (complaint message), .goOn, [], before⟩
  | .command cmd =>
    let ((outcome, desk), talk) := cmd.carriedOut E before
    ⟨answerText outcome, flowAfter outcome, talk.exchanges.map Exchange.call, desk, talk.engine⟩

/-! ## Turns -/

/-- What the turn of a line comes to, given the desk and the engine before and after it. -/
structure Answers (E : Engine σ) (h : Heard) (before : Desk × σ) (t : Turn (Option String))
    (f : Flow) (after : Desk × σ) : Prop where
  shown : arrivals t.acts = t.taken
  said : replies t.acts = prompt :: t.answer.toList
  effect : h.sense.effect E before = ⟨t.answer, f, calls t.acts, after⟩

theorem reply_eq (text : String) {r : Run σ Desk} (hw : ∀ n, r.scene.writeError n = none) :
    reply text r = (.ok .goOn, r.wrote text) := by
  rw [reply, bind_of_eq (Run.onScene_write text hw)]
  rfl

theorem obey_eq (E : Engine σ) {cmd : Command} {r : Run σ Desk} {outcome : Except Complaint Reply}
    {desk : Desk} {talk : Talk σ}
    (hcarried : cmd.carriedOut E (r.desk, r.engine) = ((outcome, desk), talk))
    (hw : ∀ n, (r.conversed desk talk).scene.writeError n = none) :
    obey E cmd r = (.ok (flowAfter outcome),
      match answerText outcome with
      | some text => (r.conversed desk talk).wrote text
      | none => r.conversed desk talk) := by
  have hconverse : Run.converse (fun d => d.handle E cmd) r = (outcome, r.conversed desk talk) :=
    Run.converse_of_eq hcarried
  rw [obey, bind_of_eq hconverse]
  cases outcome with
  | error c => exact reply_eq (complaint c.message) hw
  | ok answer =>
    cases answer with
    | text s => exact reply_eq (s ++ "\n") hw
    | silent => rfl
    | quit => rfl

/-- The answer to a line does what the line asks for. -/
theorem answer_eq (E : Engine σ) (h : Heard) {r : Run σ Desk}
    (hw : ∀ n, r.scene.writeError n = none) {e : Effect σ}
    (he : h.sense.effect E (r.desk, r.engine) = e) :
    ∃ r' acts, answer E h r = (.ok e.flow, r') ∧ (r'.desk, r'.engine) = e.after ∧
      Stretch (fun _ _ _ => True) [] e.calls e.said.toList r.scene acts r'.scene := by
  subst he
  cases h with
  | error u =>
    exact ⟨_, _, reply_eq (complaint u.message) hw, rfl, Run.stretch_wrote _ hw⟩
  | ok line =>
    by_cases hblank : Text.allBlank line.toList = true
    · rw [answer, Heard.sense, if_pos hblank, if_pos hblank]
      exact ⟨r, [], rfl, rfl, Scene.manner_any.stretch_nil r.scene⟩
    · obtain ⟨logged, hlogged⟩ := Scene.manner_any.stretch_log
        { level := .debug, target := Scene.frontEndTarget, text := "cli <- " ++ line } r.scene
      let noted : Run σ Desk :=
        { r with scene := (Scene.logFrontEnd .debug ("cli <- " ++ line) r.scene).2 }
      have hnoted : Run.onScene (Scene.logFrontEnd .debug ("cli <- " ++ line)) r = ((), noted) :=
        rfl
      have hwn : ∀ n, noted.scene.writeError n = none := hlogged.grows.writeError ▸ hw
      rw [answer, Heard.sense, if_neg hblank, if_neg hblank, bind_of_eq hnoted]
      cases Command.parse line with
      | error fault =>
        exact ⟨_, _, reply_eq (complaint fault.message) hwn, rfl,
          Scene.manner_any.stretch_append hlogged (Run.stretch_wrote _ hwn)⟩
      | ok cmd =>
        rcases hcarried : cmd.carriedOut E (r.desk, r.engine) with ⟨⟨outcome, desk⟩, talk⟩
        obtain ⟨exchanged, hexchanged⟩ :=
          Scene.manner_any.stretch_exchanges talk.exchanges noted.scene
        have hdone := Scene.manner_any.stretch_append hlogged hexchanged
        have hwd : ∀ n, (noted.conversed desk talk).scene.writeError n = none :=
          hdone.grows.writeError ▸ hw
        have hobey := obey_eq E (r := noted) hcarried hwd
        simp only [Sense.effect, hcarried]
        cases htext : answerText outcome with
        | none =>
          rw [htext] at hobey
          exact ⟨_, _, hobey, rfl, hdone⟩
        | some text =>
          rw [htext] at hobey
          have hwritten := Scene.manner_any.stretch_append hdone (Run.stretch_wrote text hwd)
          simp only [List.append_nil, List.nil_append] at hwritten
          exact ⟨_, _, hobey, rfl, hwritten⟩

/-- The turn of a line, from the prompt on. -/
theorem answer_turn (E : Engine σ) (h : Heard) (taken : List Arrival) {r : Run σ Desk}
    (hw : ∀ n, r.scene.writeError n = none) :
    ∃ f r' acts said, answer E h ((r.wrote prompt).shown taken) = (.ok f, r') ∧
      (∀ n, r'.scene.writeError n = none) ∧ r.scene.Grows acts r'.scene ∧
      Answers E h (r.desk, r.engine) ⟨taken, acts, said⟩ f (r'.desk, r'.engine) := by
  have hprompt := Run.stretch_wrote prompt hw
  obtain ⟨_, htaken⟩ := Scene.manner_any.stretch_takeAll taken (r.wrote prompt).scene
  have hheard := Scene.manner_any.stretch_append hprompt htaken
  have hwh : ∀ n, ((r.wrote prompt).shown taken).scene.writeError n = none :=
    hheard.grows.writeError ▸ hw
  obtain ⟨e, he⟩ : ∃ e, h.sense.effect E (r.desk, r.engine) = e := ⟨_, rfl⟩
  obtain ⟨r', _, hanswer, hafter, hanswered⟩ := answer_eq E h hwh he
  have hall := Scene.manner_any.stretch_append hheard hanswered
  refine ⟨e.flow, r', _, e.said, hanswer, hall.grows.writeError ▸ hw, hall.grows, ?_⟩
  refine ⟨hall.arrivals.trans (List.append_nil _), hall.replies, ?_⟩
  rw [he, hafter, hall.calls]
  rfl

end Cli
end DebugSession
