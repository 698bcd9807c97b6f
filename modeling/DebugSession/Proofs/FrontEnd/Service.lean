/-
What the front ends are made of: they take entries of the input, log, talk to the engine and write
answers, and an answer that cannot be written ends them.  What holds of such work for each of these
steps holds of all three command loops.
-/
import DebugSession.CommandLoop

namespace DebugSession

variable {σ D M : Type}

/-- Work of a front end. -/
inductive Service : {α : Type} → StateM (Run σ D) (Except String α) → Prop where
  | result {α : Type} (a : Except String α) : Service (pure a)
  | write (text : String) : Service (Run.onScene (Scene.write .reply text))
  /-- The text uses up a number. -/
  | writeNumbered (text : Nat → String) :
    Service (Run.onScene (do Scene.write .reply (text (← Scene.nextSeq))))
  | log {α : Type} {work : StateM (Run σ D) (Except String α)} (level : Log.Level)
    (text : String) : Service work →
    Service (Run.onScene (Scene.logFrontEnd level text) >>= fun _ => work)
  | take {α : Type} {work : StateM (Run σ D) (Except String α)} (as : List Arrival) :
    Service work → Service (Run.onScene (as.forM Scene.take) >>= fun _ => work)
  | converse {α β : Type} {next : α → StateM (Run σ D) (Except String β)}
    (talk : D → StateM (Talk σ) (α × D)) : (∀ a, Service (next a)) →
    Service (Run.converse talk >>= next)
  /-- An error is passed on, and nothing else is done about it. -/
  | bind {α β : Type} {work : StateM (Run σ D) (Except String α)}
    {next : Except String α → StateM (Run σ D) (Except String β)} : Service work →
    (∀ a, Service (next (.ok a))) → (∀ e, next (.error e) = pure (.error e)) →
    Service (work >>= next)

namespace Service

theorem map {α β : Type} {work : StateM (Run σ D) (Except String α)} (h : Service work)
    (f : α → β) : Service (do return (← work).map f) :=
  h.bind (fun a => .result (.ok (f a))) fun _ => rfl

theorem serve {F : FrontEnd σ D M}
    (hinvite : Service (Run.onScene F.invite : StateM (Run σ D) (Except String Unit)))
    (hanswer : ∀ m, Service (F.answer m)) (readings : List (Reading M)) :
    Service (F.serve readings) := by
  induction readings with
  | nil => exact .result (.ok ())
  | cons reading readings ih =>
    refine hinvite.bind (fun _ => .take reading.taken ?_) fun _ => rfl
    cases reading.outcome with
    | error e => exact .result (.error e)
    | ok message =>
      cases message with
      | none => exact .result (.ok ())
      | some m =>
        refine (hanswer m).bind (fun flow => ?_) fun _ => rfl
        cases flow with
        | leave => exact .result (.ok ())
        | goOn => exact ih

end Service

/-! ## The machine interface -/

namespace Mi

theorem service_reply (text : String) : Service (reply text : Work σ (Except String Flow)) :=
  (Service.write text).map fun _ => Flow.goOn

theorem service_obey (E : Engine σ) (cmd : Command) : Service (obey E cmd) := by
  refine .converse _ fun outcome => ?_
  cases outcome with
  | error c => exact service_reply _
  | ok r =>
    cases r with
    | done fields => exact service_reply _
    | running => exact service_reply _
    | exit => exact (Service.write _).map fun _ => Flow.leave

theorem service_answer (E : Engine σ) (h : Except Line.Undecodable String) :
    Service (answer E h) := by
  cases h with
  | error u => exact service_reply _
  | ok line =>
    rw [answer]
    split
    · exact service_reply prompt
    · refine .log .debug ("mi <- " ++ line) ?_
      cases Command.parse line with
      | none => exact service_reply _
      | some cmd => exact service_obey E cmd

theorem service_loop (E : Engine σ) (input : List Arrival) : Service (loop E input) :=
  (Service.write prompt).bind
    (fun _ => .serve (F := frontEnd E) (.result (.ok ())) (service_answer E)
      (Line.framing.readings input))
    fun _ => rfl

end Mi

/-! ## The command line -/

namespace Cli

theorem service_reply (text : String) : Service (reply text : Work σ (Except String Flow)) :=
  (Service.write text).map fun _ => Flow.goOn

theorem service_obey (E : Engine σ) (cmd : Command) : Service (obey E cmd) := by
  refine .converse _ fun outcome => ?_
  cases outcome with
  | error c => exact service_reply _
  | ok r =>
    cases r with
    | text s => exact service_reply _
    | silent => exact .result (.ok Flow.goOn)
    | quit => exact .result (.ok Flow.leave)

theorem service_answer (E : Engine σ) (h : Except Line.Undecodable String) :
    Service (answer E h) := by
  cases h with
  | error u => exact service_reply _
  | ok line =>
    rw [answer]
    split
    · exact .result (.ok Flow.goOn)
    · refine .log .debug ("cli <- " ++ line) ?_
      cases Command.parse line with
      | error fault => exact service_reply _
      | ok cmd => exact service_obey E cmd

theorem service_loop (E : Engine σ) (input : List Arrival) : Service (loop E input) :=
  .serve (F := frontEnd E) (.write prompt) (service_answer E) (Line.framing.readings input)

end Cli

/-! ## The Debug Adapter Protocol -/

namespace Dap

theorem service_respond (request : Int) (command : String) (result : Except String (Option Json))
    (flow : Flow) : Service (respond request command result flow : Work σ (Except String Flow)) :=
  (Service.writeNumbered fun seq => frame (responseJson seq request command result)).map
    fun _ => flow

theorem service_announceReady : Service (announceReady : Work σ (Except String Flow)) :=
  (Service.writeNumbered fun seq => frame (eventJson seq "initialized" none)).map
    fun _ => Flow.goOn

theorem service_warned {α : Type} (warning : Option String)
    {work : Work σ (Except String α)} (h : Service work) :
    Service (do
      if let some text := warning then warn text
      work) := by
  cases warning with
  | none => exact h
  | some text => exact .log .warn text h

theorem service_obey (E : Engine σ) (r : Request) : Service (obey E r) := by
  refine .converse _ fun outcome => ?_
  cases outcome with
  | error c => exact service_respond _ _ _ _
  | ok reply =>
    refine service_warned reply.warning ?_
    cases reply.after with
    | nothing => exact service_respond _ _ _ _
    | leave => exact service_respond _ _ _ _
    | announceReady =>
      exact (service_respond _ _ _ _).bind (fun _ => service_announceReady) fun _ => rfl

theorem service_answer (E : Engine σ) (m : Incoming) : Service (answer E m) := by
  cases m with
  | error fault => exact .log .warn _ (service_respond _ _ _ _)
  | ok v =>
    rw [answer]
    cases Request.decode v with
    | error m => exact .log .warn _ (service_respond _ _ _ _)
    | ok r => exact .log .debug _ (service_obey E r)

theorem service_loop (E : Engine σ) (input : List Arrival) : Service (loop E input) :=
  .serve (F := frontEnd E) (.result (.ok ())) (service_answer E) (framing.readings input)

end Dap

/-- Serving a client is the work of a front end in all modes. -/
theorem CommandLoop.serve_eq_withDesk (E : Engine σ) (preset : Option LaunchTarget)
    (input : List Arrival) (mode : Mode) :
    ∃ (D : Type) (desk : D) (work : StateM (Run σ D) (Except String Unit)),
      serve E preset input mode = Run.withDesk desk work ∧ Service work := by
  cases mode with
  | mi => exact ⟨_, _, _, rfl, Mi.service_loop E input⟩
  | dap => exact ⟨_, _, _, rfl, Dap.service_loop E input⟩
  | cli => exact ⟨_, _, _, rfl, Cli.service_loop E input⟩

end DebugSession
