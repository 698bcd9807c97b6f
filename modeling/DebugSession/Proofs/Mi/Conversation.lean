/-
The machine interface over a whole session.  Every line gets one answer, which is written last and
marked with the digits at the start of the line, whether the line is obeyed, refused or unreadable.
The engine is called for commands only, and the loop is left at the first exit that it grants.
-/
import DebugSession.Mi.FrontEnd
import DebugSession.Proofs.FrontEnd.Conversation
import DebugSession.Proofs.Mi.Desk
import DebugSession.Proofs.Mi.Token

namespace DebugSession
namespace Mi

open DebugSession.Action (arrivals calls replies)
open Scene (Grows Manner Stretch)

variable {σ : Type}

/-! ## Lines -/

/-- A line as it is read: its text, or its bytes if they are not UTF-8. -/
abbrev Heard := Except Line.Undecodable String

namespace Heard

/-- The digits at the start of the line, after white space; of the lenient text if the line is not
UTF-8. -/
def mark : Heard → String
  | .error u => Command.leadingDigits (Text.Utf8.lossy u.bytes)
  | .ok line => Command.leadingDigits line

def isBlank : Heard → Bool
  | .error _ => false
  | .ok line => Text.allBlank line.toList

def command? : Heard → Option Command
  | .error _ => none
  | .ok line => Command.parse line

/-- What is said of a line that is no command. -/
def fault : Heard → String
  | .error u => u.message
  | .ok _ => malformedLine

theorem command?_of_isBlank {h : Heard} (hblank : h.isBlank = true) : h.command? = none := by
  cases h with
  | error u => exact Bool.noConfusion hblank
  | ok line =>
    have hskip : Text.skipBlank line.toList = [] :=
      List.dropWhile_eq_nil_iff.2 (List.all_eq_true.1 hblank)
    show Command.parse line = none
    rw [Command.parse, Text.trimBlank, hskip]
    rfl

theorem tokenText_of_command? {h : Heard} {cmd : Command} (hcmd : h.command? = some cmd) :
    cmd.tokenText = h.mark := by
  cases h with
  | error u => exact absurd hcmd (by simp [command?])
  | ok line => exact Command.tokenText_of_parse hcmd

end Heard

/-- The client asks to leave, and the engine lets go of the program. -/
def Leaves (E : Engine σ) (h : Heard) (engine : σ) : Prop :=
  ∃ cmd, h.command? = some cmd ∧ cmd.operation = "gdb-exit" ∧
    (E.respond (.disconnect true) engine).1.outcome = .ok ()

/-- The answers to a line that is not blank. -/
inductive Answered (mark : String) : Flow → String → Prop where
  | done (fields : Fields) : Answered mark .goOn (mark ++ record "^done" fields ++ "\n(gdb)\n")
  | running : Answered mark .goOn (mark ++ "^running\n(gdb)\n")
  | error (message : String) :
    Answered mark .goOn (mark ++ "^error,msg=" ++ Quoted.quote message ++ "\n(gdb)\n")
  | exit : Answered mark .leave (mark ++ "^exit\n")

/-- The text that a command comes to. -/
def answerText (mark : String) : Except Complaint Reply → String
  | .ok reply => reply.toText mark
  | .error c => errorText mark c.message

theorem answered_errorText (mark message : String) :
    Answered mark .goOn (errorText mark message) := by
  have htext : errorText mark message =
      mark ++ "^error,msg=" ++ Quoted.quote message ++ "\n(gdb)\n" := by
    show mark ++ ("^error" ++ "," ++ ("msg" ++ "=" ++ Quoted.quote message)) ++ "\n" ++ prompt = _
    simp only [String.append_assoc]
    rfl
  rw [htext]
  exact .error message

/-- How the loop goes on after a command. -/
def flowAfter : Except Complaint Reply → Flow
  | .ok .exit => .leave
  | _ => .goOn

theorem answered_answerText (mark : String) (outcome : Except Complaint Reply) :
    Answered mark (flowAfter outcome) (answerText mark outcome) := by
  cases outcome with
  | error c => exact answered_errorText mark c.message
  | ok reply =>
    cases reply with
    | done fields =>
      have htext : Reply.toText mark (.done fields) =
          mark ++ record "^done" fields ++ "\n(gdb)\n" := by
        rw [Reply.toText, String.append_assoc]
        rfl
      show Answered mark .goOn (Reply.toText mark (.done fields))
      rw [htext]
      exact .done fields
    | running =>
      have htext : Reply.toText mark .running = mark ++ "^running\n(gdb)\n" := by
        rw [Reply.toText, String.append_assoc]
        rfl
      show Answered mark .goOn (Reply.toText mark .running)
      rw [htext]
      exact .running
    | exit => exact .exit

theorem flowAfter_eq_leave_iff {outcome : Except Complaint Reply} :
    flowAfter outcome = .leave ↔ outcome = .ok .exit := by
  cases outcome with
  | error c => exact ⟨fun h => Flow.noConfusion h, fun h => nomatch h⟩
  | ok reply =>
    cases reply with
    | done fields => exact ⟨fun h => Flow.noConfusion h, fun h => nomatch h⟩
    | running => exact ⟨fun h => Flow.noConfusion h, fun h => nomatch h⟩
    | exit => exact ⟨fun _ => rfl, fun _ => rfl⟩

/-! ## Turns -/

/-- What a command comes to, the desk after it, and what passed between the desk and the engine. -/
def Command.carriedOut (E : Engine σ) (cmd : Command) (before : Desk × σ) :
    Desk.Outcome × Talk σ :=
  (before.1.handle E cmd).run { engine := before.2 }

/-- What the turn of a line comes to, given the desk and the engine before and after it. -/
structure Answers (E : Engine σ) (h : Heard) (before : Desk × σ) (t : Turn String) (f : Flow)
    (after : Desk × σ) : Prop where
  shown : arrivals t.acts = t.taken
  last : ∃ during, t.acts = during ++ [.wrote .reply t.answer] ∧ replies during = []
  prompted : h.isBlank = true → t.answer = "(gdb)\n"
  marked : h.isBlank = false → Answered h.mark f t.answer
  uncalled : h.command? = none → calls t.acts = [] ∧ after = before
  refused : h.command? = none → h.isBlank = false → t.answer = errorText h.mark h.fault
  obeyed : ∀ cmd, h.command? = some cmd →
    let ((outcome, desk), talk) := cmd.carriedOut E before
    t.answer = answerText h.mark outcome ∧ calls t.acts = talk.exchanges.map Exchange.call ∧
      after = (desk, talk.engine)
  leaves : f = .leave ↔ Leaves E h before.2

section Turns

variable {E : Engine σ} {h : Heard} {before : Desk × σ} {taken : List Arrival} {s s' : Scene}
  {during : List Action}

theorem not_leaves_of_command? (hcmd : h.command? = none) : ¬ Leaves E h before.2 := by
  rintro ⟨cmd, hsome, -⟩
  exact absurd (hcmd.symm.trans hsome) (by simp)

theorem answers_of_isBlank (hblank : h.isBlank = true)
    (hs : Stretch (fun _ _ _ => True) taken [] [] s during s') :
    Answers E h before ⟨taken, during ++ [.wrote .reply prompt], prompt⟩ .goOn before where
  shown := hs.arrivals_wrote .reply prompt
  last := ⟨during, rfl, hs.replies⟩
  prompted _ := rfl
  marked hnot := absurd (hblank.symm.trans hnot) (by simp)
  uncalled _ := ⟨hs.calls_wrote .reply prompt, rfl⟩
  refused _ hnot := absurd (hblank.symm.trans hnot) (by simp)
  obeyed cmd hcmd := absurd ((Heard.command?_of_isBlank hblank).symm.trans hcmd) (by simp)
  leaves := ⟨fun hf => Flow.noConfusion hf,
    fun hl => absurd hl (not_leaves_of_command? (Heard.command?_of_isBlank hblank))⟩

theorem answers_of_refused (hblank : h.isBlank = false) (hcmd : h.command? = none)
    (hs : Stretch (fun _ _ _ => True) taken [] [] s during s') :
    Answers E h before
      ⟨taken, during ++ [.wrote .reply (errorText h.mark h.fault)], errorText h.mark h.fault⟩
      .goOn before where
  shown := hs.arrivals_wrote .reply _
  last := ⟨during, rfl, hs.replies⟩
  prompted hyes := absurd (hblank.symm.trans hyes) (by simp)
  marked _ := answered_errorText h.mark h.fault
  uncalled _ := ⟨hs.calls_wrote .reply _, rfl⟩
  refused _ _ := rfl
  obeyed cmd hsome := absurd (hcmd.symm.trans hsome) (by simp)
  leaves := ⟨fun hf => Flow.noConfusion hf, fun hl => absurd hl (not_leaves_of_command? hcmd)⟩

theorem answers_of_obeyed {cmd : Command} (hcmd : h.command? = some cmd)
    {outcome : Except Complaint Reply} {desk : Desk} {talk : Talk σ}
    (hcarried : cmd.carriedOut E before = ((outcome, desk), talk))
    (hs : Stretch (fun _ _ _ => True) taken (talk.exchanges.map Exchange.call) [] s during s') :
    Answers E h before
      ⟨taken, during ++ [.wrote .reply (answerText h.mark outcome)], answerText h.mark outcome⟩
      (flowAfter outcome) (desk, talk.engine) where
  shown := hs.arrivals_wrote .reply _
  last := ⟨during, rfl, hs.replies⟩
  prompted hyes := absurd (hcmd.symm.trans (Heard.command?_of_isBlank hyes)) (by simp)
  marked _ := answered_answerText h.mark outcome
  uncalled hnone := absurd (hcmd.symm.trans hnone) (by simp)
  refused hnone _ := absurd (hcmd.symm.trans hnone) (by simp)
  obeyed cmd' hcmd' := by
    obtain rfl := Option.some.inj (hcmd.symm.trans hcmd')
    rw [hcarried]
    exact ⟨rfl, hs.calls_wrote .reply _, rfl⟩
  leaves := by
    have hout : outcome = (before.1.handle E cmd { engine := before.2 }).1.1 :=
      (congrArg (fun x => x.1.1) hcarried).symm
    rw [flowAfter_eq_leave_iff, hout, Desk.handle_eq_exit_iff]
    constructor
    · rintro ⟨hname, hgranted⟩
      exact ⟨cmd, hcmd, hname, hgranted⟩
    · rintro ⟨cmd', hcmd', hname, hgranted⟩
      obtain rfl := Option.some.inj (hcmd.symm.trans hcmd')
      exact ⟨hname, hgranted⟩

end Turns

/-! ## The loop -/

def wrote (text : String) (r : Run σ Desk) : Run σ Desk :=
  { r with scene := (Scene.write .reply text r.scene).2 }

theorem write_eq (text : String) {r : Run σ Desk} (hw : ∀ n, r.scene.writeError n = none) :
    write text r = (.ok (), wrote text r) := by
  have hwrite := Scene.write_of_none (hw r.scene.writes) .reply text
  show ((Scene.write .reply text r.scene).1, wrote text r) = _
  rw [hwrite]

theorem reply_run (text : String) (r : Run σ Desk) :
    reply text r = ((write text r).1.map fun _ => .goOn, wrote text r) := rfl

theorem reply_eq (text : String) {r : Run σ Desk} (hw : ∀ n, r.scene.writeError n = none) :
    reply text r = (.ok .goOn, wrote text r) := by
  rw [reply_run, write_eq text hw]
  rfl

theorem grows_wrote (text : String) {r : Run σ Desk} (hw : ∀ n, r.scene.writeError n = none) :
    r.scene.Grows [.wrote .reply text] (wrote text r).scene := by
  rw [wrote, Scene.write_of_none (hw r.scene.writes)]
  exact ⟨rfl, rfl, rfl, rfl⟩

def conversed (desk : Desk) (talk : Talk σ) (r : Run σ Desk) : Run σ Desk :=
  { desk, scene := (talk.exchanges.forM Scene.exchange r.scene).2, engine := talk.engine }

theorem obey_run (E : Engine σ) {cmd : Command} {r : Run σ Desk} {outcome : Except Complaint Reply}
    {desk : Desk} {talk : Talk σ}
    (hcarried : cmd.carriedOut E (r.desk, r.engine) = ((outcome, desk), talk)) :
    obey E cmd r =
      ((write (answerText cmd.tokenText outcome) (conversed desk talk r)).1.map fun _ =>
          flowAfter outcome,
        wrote (answerText cmd.tokenText outcome) (conversed desk talk r)) := by
  have hconverse : Run.converse (fun d => d.handle E cmd) r = (outcome, conversed desk talk r) := by
    have hhandle : (r.desk.handle E cmd).run { engine := r.engine } = ((outcome, desk), talk) :=
      hcarried
    simp only [Run.converse, hhandle]
    rfl
  rw [obey]
  simp only [bind_of_eq hconverse]
  cases outcome with
  | error c => rfl
  | ok answer => cases answer <;> rfl

theorem obey_eq (E : Engine σ) {cmd : Command} {r : Run σ Desk} {outcome : Except Complaint Reply}
    {desk : Desk} {talk : Talk σ}
    (hcarried : cmd.carriedOut E (r.desk, r.engine) = ((outcome, desk), talk))
    (hw : ∀ n, (conversed desk talk r).scene.writeError n = none) :
    obey E cmd r =
      (.ok (flowAfter outcome),
        wrote (answerText cmd.tokenText outcome) (conversed desk talk r)) := by
  rw [obey_run E hcarried, write_eq _ hw]
  rfl

def noted (line : String) (r : Run σ Desk) : Run σ Desk :=
  { r with scene := (Scene.logFrontEnd .debug ("mi <- " ++ line) r.scene).2 }

theorem answer_of_isBlank (E : Engine σ) {line : String} (h : Text.allBlank line.toList = true)
    (r : Run σ Desk) : answer E (.ok line) r = reply prompt r := by
  rw [answer, if_pos h]

theorem answer_of_not_isBlank (E : Engine σ) {line : String}
    (h : ¬ Text.allBlank line.toList = true) (r : Run σ Desk) :
    answer E (.ok line) r =
      match Command.parse line with
      | none => reply (errorText (Command.leadingDigits line) malformedLine) (noted line r)
      | some cmd => obey E cmd (noted line r) := by
  have hnoted : Run.onScene (Scene.logFrontEnd .debug ("mi <- " ++ line)) r = ((), noted line r) :=
    rfl
  rw [answer, if_neg h, bind_of_eq hnoted]
  cases Command.parse line <;> rfl

section Turns

variable {E : Engine σ} {taken : List Arrival} {r : Run σ Desk}

/-- A line that is no command is answered without the engine. -/
theorem answer_turn_refused {h : Heard} {text : String} {s : Scene} {during : List Action}
    (hw : ∀ n, r.scene.writeError n = none)
    (hs : Stretch (fun _ _ _ => True) taken [] [] r.scene during s)
    (hanswer : answer E h (r.shown taken) = reply text { r with scene := s })
    (hturn : Answers E h (r.desk, r.engine) ⟨taken, during ++ [.wrote .reply text], text⟩ .goOn
      (r.desk, r.engine)) :
    ∃ f r' acts text, answer E h (r.shown taken) = (.ok f, r') ∧
      (∀ n, r'.scene.writeError n = none) ∧ r.scene.Grows acts r'.scene ∧
      Answers E h (r.desk, r.engine) ⟨taken, acts, text⟩ f (r'.desk, r'.engine) := by
  have hws : ∀ n, s.writeError n = none := hs.grows.writeError ▸ hw
  have hgrows := hs.grows.trans (grows_wrote text (r := { r with scene := s }) hws)
  refine ⟨_, _, _, text, hanswer.trans (reply_eq text hws), ?_, hgrows, hturn⟩
  exact hgrows.writeError ▸ hw

end Turns

/-- The turn of a line: it always has an answer, and the answer is the right one. -/
theorem answer_turn (E : Engine σ) (h : Heard) (taken : List Arrival) {r : Run σ Desk}
    (hw : ∀ n, r.scene.writeError n = none) :
    ∃ f r' acts text, answer E h (r.shown taken) = (.ok f, r') ∧
      (∀ n, r'.scene.writeError n = none) ∧ r.scene.Grows acts r'.scene ∧
      Answers E h (r.desk, r.engine) ⟨taken, acts, text⟩ f (r'.desk, r'.engine) := by
  obtain ⟨during, htaken⟩ := Scene.manner_any.stretch_takeAll taken r.scene
  cases h with
  | error u =>
    exact answer_turn_refused hw htaken rfl (answers_of_refused rfl rfl htaken)
  | ok line =>
    by_cases hblank : Text.allBlank line.toList = true
    · exact answer_turn_refused hw htaken (answer_of_isBlank E hblank _)
        (answers_of_isBlank hblank htaken)
    · have hnot : Heard.isBlank (.ok line) = false := Bool.not_eq_true _ ▸ hblank
      have hanswer := answer_of_not_isBlank E hblank (r.shown taken)
      obtain ⟨logged, hlogged⟩ := Scene.manner_any.stretch_log
        { level := .debug, target := Scene.frontEndTarget, text := "mi <- " ++ line }
        (r.shown taken).scene
      have hheard := Scene.manner_any.stretch_append htaken hlogged
      rw [List.append_nil] at hheard
      cases hparse : Command.parse line with
      | none =>
        rw [hparse] at hanswer
        exact answer_turn_refused hw hheard hanswer (answers_of_refused hnot hparse hheard)
      | some cmd =>
        rw [hparse] at hanswer
        rcases hcarried : cmd.carriedOut E (r.desk, r.engine) with ⟨⟨outcome, desk⟩, talk⟩
        obtain ⟨exchanged, hexchanged⟩ :=
          Scene.manner_any.stretch_exchanges talk.exchanges (noted line (r.shown taken)).scene
        have hdone := Scene.manner_any.stretch_append hheard hexchanged
        rw [List.append_nil] at hdone
        have hmark : cmd.tokenText = Heard.mark (.ok line) := Heard.tokenText_of_command? hparse
        have hwd : ∀ n,
            (conversed desk talk (noted line (r.shown taken))).scene.writeError n = none :=
          hdone.grows.writeError ▸ hw
        have hobey := obey_eq E (r := noted line (r.shown taken)) hcarried hwd
        rw [hmark] at hobey
        have hgrows :=
          hdone.grows.trans (grows_wrote (answerText (Heard.mark (.ok line)) outcome) hwd)
        refine ⟨_, _, _, answerText (Heard.mark (.ok line)) outcome, hanswer.trans hobey,
          hgrows.writeError ▸ hw, hgrows, ?_⟩
        exact answers_of_obeyed (h := .ok line) hparse hcarried hdone

theorem replies_turns {turns : List (Turn String)}
    (h : ∀ t ∈ turns, ∃ during, t.acts = during ++ [.wrote .reply t.answer] ∧ replies during = []) :
    replies (turns.flatMap Turn.acts) = turns.map Turn.answer := by
  induction turns with
  | nil => rfl
  | cons t turns ih =>
    obtain ⟨⟨during, hacts, hduring⟩, hturns⟩ := List.forall_mem_cons.1 h
    rw [List.flatMap_cons, Action.replies_append, ih hturns, hacts, Action.replies_append, hduring]
    rfl

/-- The session of a client whose writes all succeed.  It gets a prompt and then one answer for each
line, in the order of the lines; what else happens is told by the turns.  The loop ends well exactly
when the client leaves or the input ends; once the client has left, nothing more is taken. -/
theorem loop_conversation (E : Engine σ) (input : List Arrival) {r : Run σ Desk}
    (hw : ∀ n, r.scene.writeError n = none) :
    ∃ (final : Run σ Desk) (turns : List (Turn String)) (f : Flow) (closing : List Action),
      loop E input r = (if f = .leave then .ok () else (Line.framing.heard input).2, final) ∧
      Conversation (Answers E) (Line.framing.heard input).1 (r.desk, r.engine) turns f
        (final.desk, final.engine) ∧
      final.scene.trace =
        r.scene.trace ++ [.wrote .reply "(gdb)\n"] ++ turns.flatMap Turn.acts ++ closing ∧
      replies (turns.flatMap Turn.acts) = turns.map Turn.answer ∧
      replies closing = [] ∧ calls closing = [] ∧
      (f = .leave → closing = [] ∧
        turns.map Turn.taken <+: (Line.framing.readings input).map Reading.taken) ∧
      (f = .goOn → turns.map Turn.taken ++ [arrivals closing] =
        (Line.framing.readings input).map Reading.taken) := by
  have hloop : loop E input r =
      (frontEnd E).serve (Line.framing.readings input) (wrote prompt r) := by
    rw [loop, bind_of_eq (write_eq prompt hw)]
  have hprompt := grows_wrote prompt hw
  obtain ⟨turns, f, mid, hconversation, -, hgrows, hend⟩ :=
    FrontEnd.serve_conversation (F := frontEnd E) rfl (fun r => ∀ n, r.scene.writeError n = none)
      (fun r => (r.desk, r.engine)) (Answers E)
      (fun h taken r hr => answer_turn E h taken hr) (Line.framing.outcomes_readings input)
      (r := wrote prompt r) (hprompt.writeError ▸ hw)
  have hreplies := replies_turns (hconversation.forall_turn fun _ _ _ _ _ h => h.last)
  have htrace := hgrows.trace
  rw [hprompt.trace] at htrace
  rcases hend with ⟨rfl, hserve, htaken⟩ | ⟨rfl, last, hserve, htaken⟩
  · rw [hloop, hserve]
    refine ⟨mid, turns, .leave, [], rfl, hconversation, ?_, hreplies, rfl, rfl,
      fun _ => ⟨rfl, htaken⟩, fun h => Flow.noConfusion h⟩
    rw [List.append_nil]
    exact htrace
  · obtain ⟨closing, hclosing⟩ := Scene.manner_any.stretch_takeAll last mid.scene
    rw [hloop, hserve]
    refine ⟨mid.shown last, turns, .goOn, closing, rfl, hconversation, ?_, hreplies,
      hclosing.replies, hclosing.calls, fun h => Flow.noConfusion h, fun _ => ?_⟩
    · show (last.forM Scene.take mid.scene).2.trace = _
      rw [hclosing.grows.trace, htrace]
      rfl
    · rw [hclosing.arrivals]
      exact htaken

/-- An engine that lets go of any program and can do nothing else. -/
def lettingGo : Engine Unit where
  respond c s :=
    match c with
    | .disconnect _ => (⟨[], .ok ()⟩, s)
    | _ => (⟨[], .error .noProcess⟩, s)

def exitInput : List Arrival :=
  [.bytes (Text.Utf8.encode "07x\n12-gd"), .bytes (Text.Utf8.encode "b-exit\n-late\n")]

def freshRun : Run Unit Desk where
  desk := {}
  scene := { mode := .mi, writeError := fun _ => none, switch := { main := .main } }
  engine := ()

/-- A client that sends an unknown command, leaves, and goes on all the same. -/
theorem loop_conversation_exit :
    ∃ turns, Conversation (Answers lettingGo) [.ok "07x", .ok "12-gdb-exit", .ok "-late"]
        (freshRun.desk, ()) turns .leave ((loop lettingGo exitInput freshRun).2.desk, ()) ∧
      turns.map Turn.answer =
        ["07^error,msg=\"<syntax error>\"\n(gdb)\n", "12^exit\n"] ∧
      (loop lettingGo exitInput freshRun).1 = .ok () := by
  have hheard : (Line.framing.heard exitInput).1 =
      [.ok "07x", .ok "12-gdb-exit", .ok "-late"] := by decide +kernel
  have hreplies : replies (loop lettingGo exitInput freshRun).2.scene.trace =
      ["(gdb)\n", "07^error,msg=\"<syntax error>\"\n(gdb)\n", "12^exit\n"] := by decide +kernel
  obtain ⟨final, turns, f, closing, hloop, hconversation, htrace, hanswers, hclosing, -⟩ :=
    loop_conversation lettingGo exitInput (r := freshRun) fun _ => rfl
  rw [hloop] at hreplies ⊢
  rw [htrace, Action.replies_append, Action.replies_append, hanswers, hclosing,
    List.append_nil] at hreplies
  have hturns : turns.map Turn.answer =
      ["07^error,msg=\"<syntax error>\"\n(gdb)\n", "12^exit\n"] := (List.cons.inj hreplies).2
  rw [hheard] at hconversation
  cases f with
  | leave => exact ⟨turns, hconversation, hturns, rfl⟩
  | goOn =>
    have hall := hconversation.length_eq
    rw [← List.length_map (f := Turn.answer), hturns] at hall
    exact absurd hall (by decide)

end Mi
end DebugSession
