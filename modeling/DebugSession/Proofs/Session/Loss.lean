/-
A session whose client cannot be answered any more.  Only the command loop answers the client, and
the first answer that is lost ends it; what comes after that is the teardown of the session, with
the server stopped and the engine released.
-/
import DebugSession.Proofs.FrontEnd.Loss
import DebugSession.Proofs.Session.Passage

namespace DebugSession
namespace Session

open DebugSession.Action (arrivals contacts)

variable {σ α β : Type} {E : Engine σ} {w : Surroundings} {c : Config} {input : List Arrival}
  {l l' l'' : Life σ}

/-! ## Apart from the command loop -/

/-- Nothing is read between two scenes, and no answer is lost. -/
def Overlooked (s s' : Scene) : Prop :=
  ∃ acts, s'.trace = s.trace ++ acts ∧ Unlost acts ∧ arrivals acts = []

theorem Overlooked.refl (s : Scene) : Overlooked s s := ⟨[], (List.append_nil _).symm, .nil, rfl⟩

theorem Overlooked.trans {s s' s'' : Scene} (h : Overlooked s s') (h' : Overlooked s' s'') :
    Overlooked s s'' := by
  obtain ⟨acts, htrace, hunlost, harrivals⟩ := h
  obtain ⟨more, hmore, hlater, hnone⟩ := h'
  refine ⟨acts ++ more, ?_, hunlost.append hlater, ?_⟩
  · rw [hmore, htrace, List.append_assoc]
  · rw [Action.arrivals_append, harrivals, hnone]
    rfl

/-- What is no answer is overlooked if it takes no entry of the input. -/
theorem overlooked_of_unheard {change : Scene → Scene} (h : Scene.Unheard change) (s : Scene)
    {P : Scene → List Action → Scene → Prop} {called : List Call} {answered : List String}
    (hstretch : ∃ acts, Scene.Stretch P [] called answered s acts (change s)) :
    Overlooked s (change s) := by
  obtain ⟨acts, hgrows, hunlost⟩ := h.grows s
  obtain ⟨acts', hacts⟩ := hstretch
  obtain rfl := hgrows.eq hacts.grows
  exact ⟨acts, hgrows.trace, hunlost, hacts.arrivals⟩

theorem grows_log_unheard (r : Log.Record) (s : Scene) :
    ∃ acts, s.Grows acts (Scene.log r s).2 ∧ Unlost acts ∧ arrivals acts = [] ∧
      contacts acts = [] := by
  obtain ⟨acts, hgrows, hunlost⟩ := (Scene.Unheard.log r).grows s
  obtain ⟨acts', h⟩ := manner_untold.stretch_log r s
  obtain rfl := hgrows.eq h.grows
  exact ⟨acts, hgrows, hunlost, h.arrivals, h.contacts⟩

theorem overlooked_log (r : Log.Record) (s : Scene) : Overlooked s (Scene.log r s).2 := by
  obtain ⟨acts, hgrows, hunlost, harrivals, -⟩ := grows_log_unheard r s
  exact ⟨acts, hgrows.trace, hunlost, harrivals⟩

/-- What a session does apart from serving the client: nothing is read, and no answer is lost. -/
def Aside (l l' : Life σ) : Prop := Overlooked l.stage.scene l'.stage.scene

theorem Aside.refl (l : Life σ) : Aside l l := Overlooked.refl _

theorem Aside.trans (h : Aside l l') (h' : Aside l' l'') : Aside l l'' := Overlooked.trans h h'

theorem aside_log (level : Log.Level) (text : String) (l : Life σ) :
    Aside l (log level text l).2 :=
  overlooked_log _ l.stage.scene

theorem aside_enter (s : State) (l : Life σ) : Aside l (enter s l).2 :=
  overlooked_log _ l.stage.scene

theorem aside_tell (E : Engine σ) (n : Notice) (l : Life σ) :
    Aside l (onStage (CommandLoop.tell E n) l).2 :=
  ⟨[.told n], rfl, .singleton rfl, rfl⟩

theorem aside_attachStep (E : Engine σ) (pid : UInt32) (step : Step) (call : Call) (l : Life σ) :
    Aside l (attachStep E pid step call l).2 :=
  overlooked_of_unheard (.forM .exchange _) l.stage.scene
    (Scene.manner_any.stretch_exchanges _ l.stage.scene)

theorem aside_attachSteps (E : Engine σ) (pid : UInt32) (steps : List Step) (l : Life σ) :
    Aside l (attachSteps E pid steps l).2 := by
  induction steps generalizing l with
  | nil => exact aside_log _ _ l
  | cons step steps ih =>
    have hstep := aside_attachStep E pid step (step.call pid) l
    rcases hresult : attachStep E pid step (step.call pid) l with ⟨_ | _, l₁⟩
    · rw [hresult] at hstep
      rw [attachSteps, bind_of_eq hresult]
      exact hstep
    · rw [hresult] at hstep
      rw [attachSteps, bind_of_eq hresult]
      exact hstep.trans (ih l₁)

theorem aside_attachIfAsked (E : Engine σ) (c : Config) (l : Life σ) :
    Aside l (attachIfAsked E c l).2 := by
  rw [attachIfAsked]
  cases c.attachPid with
  | none => exact .refl l
  | some pid => exact (aside_enter .attaching l).trans (aside_attachSteps E pid Step.all _)

theorem aside_redirectIfAsked (E : Engine σ) (w : Surroundings) (c : Config) (l : Life σ) :
    Aside l (redirectIfAsked E w c l).2 := by
  rw [redirectIfAsked]
  split
  · rw [startRedirect]
    cases w.startServer c.port with
    | error e => exact .refl l
    | ok _ =>
      have htold := aside_tell E .redirectOutput l
      cases E.usesCapture with
      | true => exact htold.trans (overlooked_log _ _)
      | false => exact htold.trans (aside_enter .redirectActive _)
  · exact .refl l

theorem overlooked_enableLogging (openFile : String → Except String Unit) (logging : EngineLogging)
    (s : Scene) : Overlooked s (CommandLoop.enableLogging openFile logging s).2 := by
  have hget : (get : StateM Scene Scene) s = (s, s) := rfl
  rw [CommandLoop.enableLogging, bind_of_eq hget]
  split
  · exact .refl s
  · cases logging.path with
    | none => exact overlooked_log _ { s with switch := s.switch.routeEngine .console }
    | some path =>
      simp only
      cases openFile path with
      | error cause => exact .refl s
      | ok _ =>
        have hopened : Overlooked s { s with
            trace := s.trace ++ [.openedLog path]
            switch := s.switch.routeEngine .file } := ⟨[.openedLog path], rfl, .singleton rfl, rfl⟩
        exact hopened.trans (overlooked_log _ _)

theorem aside_enableLogging (w : Surroundings) (c : Config) (l : Life σ) :
    Aside l (enableLogging w c l).2 := by
  rw [enableLogging]
  cases c.engineLogging with
  | none => exact .refl l
  | some logging => exact overlooked_enableLogging w.openLog logging l.stage.scene

theorem overlooked_endCapture (s : Scene) : Overlooked s (Scene.endCapture s).2 := by
  rw [endCapture_eq]
  cases s.capture with
  | none => exact .refl s
  | some k =>
    exact overlooked_of_unheard (.forM .report k.close.1) { s with capture := none }
      (Scene.manner_any.stretch_reportAll k.close.1 { s with capture := none })

theorem aside_tornDown (E : Engine σ) (w : Surroundings) (c : Config) (l : Life σ) :
    Aside (stopped w l) (tornDown E w c l) := by
  let released : Life σ := (onStage (CommandLoop.tell E .release) (stopped w l)).2
  let ended : Life σ := (onStage (Run.onScene Scene.endCapture) released).2
  have hended : Aside released ended := overlooked_endCapture released.stage.scene
  have hreset : Aside ended (resetRoute c ended) := by
    rw [resetRoute]
    split
    · exact Overlooked.refl ended.stage.scene
    · exact .refl ended
  exact (((aside_tell E .release _).trans hended).trans hreset).trans (aside_enter .terminated _)

/-- The teardown releases the engine. -/
theorem tearDown_overlooked (E : Engine σ) (w : Surroundings) (c : Config)
    (result : Except Error Unit) (l : Life σ) :
    ∃ acts, (tearDown E w c result l).2.stage.scene.trace = l.stage.scene.trace ++ acts ∧
      Unlost acts ∧ arrivals acts = [] ∧ contacts acts = [.told .release] := by
  have hdone : Aside (stopped w l) (tearDown E w c result l).2 := by
    have htorn := aside_tornDown E w c l
    rw [tearDown_eq]
    cases result with
    | error e => exact htorn.trans (aside_log .error _ _)
    | ok _ => exact htorn
  obtain ⟨acts, htrace, hunlost, harrivals⟩ := hdone
  rw [(stopped_spec w l).2.1] at htrace
  obtain ⟨acts', htrace', hcontacts⟩ := (tearDown_spec E w c result l).1.acts
  obtain rfl := List.append_cancel_left (htrace.symm.trans htrace')
  exact ⟨acts, htrace, hunlost, harrivals, hcontacts⟩

/-! ## Serving the client -/

/-- What is done with a result: no answer is lost, or one is lost, which is the last thing that
concerns the client and the engine, and its error is the result. -/
def Halts (acts : List Action) (result : Except Error α) : Prop :=
  Unlost acts ∨ ∃ front text e back, acts = front ++ .lost .reply text e :: back ∧ Unlost front ∧
    Unlost back ∧ arrivals back = [] ∧ contacts back = [] ∧ result = .error (.frontEnd e)

/-- Work of a session that stops serving the client when an answer is lost. -/
def Halting (work : StateM (Life σ) (Except Error α)) : Prop :=
  ∀ l : Life σ, ∃ acts,
    (work l).2.stage.scene.trace = l.stage.scene.trace ++ acts ∧ Halts acts (work l).1

theorem Halting.pure (a : Except Error α) : Halting (pure a : StateM (Life σ) (Except Error α)) :=
  fun _ => ⟨[], (List.append_nil _).symm, .inl .nil⟩

theorem Halting.bind {work : StateM (Life σ) α} {next : α → StateM (Life σ) (Except Error β)}
    (h : ∀ l, Aside l (work l).2) (hnext : ∀ a, Halting (next a)) : Halting (work >>= next) := by
  intro l
  obtain ⟨acts, htrace, hunlost, -⟩ := h l
  obtain ⟨more, hmore, hend⟩ := hnext (work l).1 (work l).2
  have hwhole : (work >>= next) l = next (work l).1 (work l).2 := rfl
  rw [hwhole]
  refine ⟨acts ++ more, ?_, ?_⟩
  · rw [hmore, htrace, List.append_assoc]
  · rcases hend with hlater | ⟨front, text, e, back, rfl, hfront, hback⟩
    · exact .inl (hunlost.append hlater)
    · exact .inr ⟨acts ++ front, text, e, back, (List.append_assoc _ _ _).symm,
        hunlost.append hfront, hback⟩

/-- After the command loop its end is logged. -/
theorem halting_commandLoop (E : Engine σ) (preset : Option LaunchTarget) (input : List Arrival) :
    Halting (do return (← onStage (CommandLoop.run E preset input)).mapError Error.frontEnd) := by
  intro l
  let started : Life σ := (onStage (Run.onScene (Scene.logFrontEnd .info
    (l.stage.scene.mode.name ++ " command loop started"))) l).2
  obtain ⟨acts, hgrows, hend⟩ :=
    CommandLoop.steadfast_serve E preset input l.stage.scene.mode started.stage
  obtain ⟨first, hfirst, hunlost, -, -⟩ := grows_log_unheard
    { level := .info
      target := Scene.frontEndTarget
      text := l.stage.scene.mode.name ++ " command loop started" } l.stage.scene
  obtain ⟨last, hlast, hlater, harrivals, hcontacts⟩ := grows_log_unheard
    { level := .info
      target := Scene.frontEndTarget
      text := l.stage.scene.mode.name ++ " command loop finished" }
    (CommandLoop.serve E preset input l.stage.scene.mode started.stage).2.scene
  refine ⟨first ++ acts ++ last, ((hfirst.trans hgrows).trans hlast).trace, ?_⟩
  rcases hend with ⟨hacts, -⟩ | ⟨front, text, e, rfl, hfront, hresult, -⟩
  · exact .inl ((hunlost.append hacts).append hlater)
  · refine .inr ⟨first ++ front, text, e, last, ?_, hunlost.append hfront, hlater, harrivals,
      hcontacts, ?_⟩
    · rw [List.append_assoc, List.append_assoc, List.append_assoc]
      rfl
    · exact congrArg (Except.mapError Error.frontEnd) hresult

theorem halting_serve (E : Engine σ) (w : Surroundings) (c : Config) (input : List Arrival) :
    Halting (serve E w c input) := by
  refine .bind (aside_enableLogging w c) fun logged => ?_
  cases logged with
  | error e => exact .pure _
  | ok _ =>
    refine .bind (aside_tell E .bindSink) fun _ => .bind (aside_enter .engineBound) fun _ => ?_
    refine .bind (aside_redirectIfAsked E w c) fun redirected => ?_
    cases redirected with
    | error e => exact .pure _
    | ok _ =>
      refine .bind (aside_attachIfAsked E c) fun attached => ?_
      cases attached with
      | error e => exact .pure _
      | ok _ =>
        exact .bind (aside_enter .commandLoopRunning) fun _ => halting_commandLoop E c.launch input

/-! ## The session -/

/-- How a session ends in which an answer is lost, given what is done before and after that. -/
structure CutShort (w : Surroundings) (c : Config) (front : List Action) (e : String)
    (back : List Action) (result : Except Error Unit) (l : Life σ) : Prop where
  /-- It is the only answer that is lost. -/
  unlost : Unlost front ∧ Unlost back
  unread : arrivals back = []
  /-- The engine is released, and nothing else reaches it any more. -/
  released : .told .release ∉ contacts front ∧ contacts back = [.told .release]
  result : result = .error (.frontEnd e)
  /-- The server is stopped if it runs, whatever comes of that. -/
  stops : l.stops = if c.redirects then [w.stopServer] else []
  terminated : l.history.getLast? = some .terminated

theorem run_cutShort (E : Engine σ) (w : Surroundings) (c : Config) (input : List Arrival)
    {stage : Stage σ} (hmode : stage.scene.mode = c.mode) (haccepted : rejection? w c = none) :
    ∃ acts, (run E w c input { stage }).2.stage.scene.trace = stage.scene.trace ++ acts ∧
      (Unlost acts ∨ ∃ front text e back, acts = front ++ .lost .reply text e :: back ∧
        CutShort w c front e back (run E w c input { stage }).1 (run E w c input { stage }).2) := by
  let l₁ : Life σ := (enter .variantSelected { stage }).2
  let served := serve E w c input l₁
  obtain ⟨first, hfirst, hunlost, -⟩ := aside_enter .variantSelected { stage }
  obtain ⟨acts, hacts, hend⟩ := halting_serve E w c input l₁
  obtain ⟨after, hafter, hlater, harrivals, hreleased⟩ :=
    tearDown_overlooked E w c served.1 served.2
  have htrace : (tearDown E w c served.1 served.2).2.stage.scene.trace =
      stage.scene.trace ++ (first ++ acts ++ after) := by
    rw [hafter, hacts, hfirst]
    simp only [List.append_assoc]
  -- What reaches the engine and the states are those of a way that ends with the release.
  have hchosen : Span { stage } [.variantSelected] [] l₁ := span_enter .variantSelected { stage }
  obtain ⟨states, reached, hpassage, hpart, hstops, -⟩ := serve_passage E w c input
    (hchosen.mode.trans hmode) (rejection?_eq_none haccepted).1
  obtain ⟨htorn, hresult⟩ := tearDown_spec E w c served.1 served.2
  obtain ⟨hhistory, -, whole, hwhole, hcontacts⟩ :=
    (hchosen.toPart.trans hpart).trans htorn.toPart
  obtain rfl := List.append_cancel_left (htrace.symm.trans hwhole)
  rw [run_eq_tearDown E w c input haccepted]
  refine ⟨_, htrace, ?_⟩
  rcases hend with hacts | ⟨front, text, e, back, rfl, hfront, hback, hnone, huncalled, hfailed⟩
  · exact .inl ((hunlost.append hacts).append hlater)
  · have hsplit : first ++ (front ++ Action.lost .reply text e :: back) ++ after =
        (first ++ front) ++ Action.lost .reply text e :: (back ++ after) := by
      simp only [List.append_assoc, List.cons_append]
    have hrelease : contacts (back ++ after) = [.told .release] := by
      rw [Action.contacts_append, huncalled, hreleased]
      rfl
    have hreached : contacts (first ++ front) = reached := by
      rw [hsplit, Action.contacts_append] at hcontacts
      have hlost : contacts (Action.lost .reply text e :: (back ++ after)) =
        contacts (back ++ after) := rfl
      rw [hlost, hrelease] at hcontacts
      exact List.append_cancel_right hcontacts
    refine .inr ⟨first ++ front, text, e, back ++ after, hsplit, ?_⟩
    exact {
      unlost := ⟨hunlost.append hfront, hback.append hlater⟩
      unread := by
        rw [Action.arrivals_append, hnone, harrivals]
        rfl
      released := ⟨hreached ▸ hpassage.release_not_mem, hrelease⟩
      result := by rw [hresult, hfailed]
      stops := by
        rw [htorn.stops, hpassage.isRedirecting_eq (.error e) hfailed
          (hchosen.toPart.trans hpart).history, hstops, hchosen.stops]
        rfl
      terminated := by
        rw [hhistory, ← List.append_assoc]
        exact List.getLast?_concat }

/-- An output failure stops the front end.  In all three modes the command loop ends with the first
answer it loses and with the error of that write, while events and log records that are lost make no
difference to it.  The session then reads nothing more; it stops the server, releases the engine
and is over. -/
theorem stops_at_lost_reply (E : Engine σ) (input : List Arrival) :
    (∀ preset mode, Steadfast (CommandLoop.serve E preset input mode)) ∧
    ∀ (w : Surroundings) (c : Config) (stage : Stage σ), stage.scene.mode = c.mode →
      ∃ acts, (run E w c input { stage }).2.stage.scene.trace = stage.scene.trace ++ acts ∧
        (Unlost acts ∨ ∃ front text e back, acts = front ++ .lost .reply text e :: back ∧
          CutShort w c front e back (run E w c input { stage }).1
            (run E w c input { stage }).2) := by
  refine ⟨fun preset mode => CommandLoop.steadfast_serve E preset input mode,
    fun w c stage hmode => ?_⟩
  cases hrejection : rejection? w c with
  | some e =>
    rw [run_of_rejection hrejection]
    exact ⟨[], (List.append_nil _).symm, .inl .nil⟩
  | none => exact run_cutShort E w c input hmode hrejection

/-- A client that is gone once it has its first prompt. -/
def goneStage : Stage Unit where
  desk := ()
  scene :=
    { mode := .mi
      writeError := fun n => if n = 0 then none else some "Broken pipe (os error 32)"
      switch := { main := .main } }
  engine := ()

/-- An event, and two lines. -/
def lateInput : List Arrival := [.event .terminated, .bytes [120, 10], .bytes [121, 10]]

/-- The event is lost and the first line is read all the same; its answer is lost too, and the
second line is left alone. -/
theorem stops_at_lost_reply_gone :
    ∃ front text back life, run unattachable {} {} lateInput { stage := goneStage } =
        (.error (.frontEnd "Broken pipe (os error 32)"), life) ∧
      life.stage.scene.trace = front ++ .lost .reply text "Broken pipe (os error 32)" :: back ∧
      CutShort {} {} front "Broken pipe (os error 32)" back
        (.error (.frontEnd "Broken pipe (os error 32)")) life ∧
      life.stops = [.ok ()] ∧ arrivals life.stage.scene.trace = lateInput.take 2 := by
  obtain ⟨acts, htrace, hend⟩ :=
    (stops_at_lost_reply unattachable lateInput).2 {} {} goneStage rfl
  have hresult : (run unattachable {} {} lateInput { stage := goneStage }).1 =
      .error (.frontEnd "Broken pipe (os error 32)") := by decide +kernel
  have hlost : ((run unattachable {} {} lateInput { stage := goneStage }).2.stage.scene.trace
      |>.filterMap Action.lostReply?).length = 1 := by decide +kernel
  have hstops : (run unattachable {} {} lateInput { stage := goneStage }).2.stops = [.ok ()] := by
    decide +kernel
  have harrivals : arrivals
      (run unattachable {} {} lateInput { stage := goneStage }).2.stage.scene.trace =
        lateInput.take 2 := by decide +kernel
  generalize run unattachable {} {} lateInput { stage := goneStage } = outcome at *
  obtain ⟨result, life⟩ := outcome
  have hbefore : goneStage.scene.trace = [] := rfl
  rw [hbefore, List.nil_append] at htrace
  obtain rfl : result = _ := hresult
  rcases hend with hunlost | ⟨front, text, e, back, rfl, hcut⟩
  · have hnone : life.stage.scene.trace.filterMap Action.lostReply? = [] := by
      rw [htrace]
      exact List.filterMap_eq_nil_iff.2 hunlost
    rw [hnone] at hlost
    exact nomatch hlost
  · obtain rfl : "Broken pipe (os error 32)" = e := by
      injection hcut.result with h
      injection h
    exact ⟨front, text, back, life, rfl, htrace, hcut, hstops, harrivals⟩

end Session
end DebugSession
