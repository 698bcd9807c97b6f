/-
A session from its start to its end.  Its states only go forward; if it has a front end it ends with
the release of the engine, whatever fails on the way, and what fails first is what it reports.
-/
import DebugSession.Proofs.Session.Steps

namespace DebugSession
namespace Session

open DebugSession.Action (calls contacts)

variable {σ : Type} {E : Engine σ} {w : Surroundings} {c : Config} {input : List Arrival}
  {l : Life σ}

/-! ## The ways of a session -/

/-- What reaches the engine up to the attempt to attach. -/
def boundContacts (E : Engine σ) (c : Config) (s : σ) : List Contact :=
  (notices c).map .told ++
    (attached E c (noticed E (notices c) s)).2.exchanges.map fun x => .called x.call

/-- The ways of a session between the choice of its front end and its teardown: the states it
enters, what reaches the engine, and the result. -/
inductive Passage (E : Engine σ) (w : Surroundings) (c : Config) (input : List Arrival) (s : σ) :
    List State → List Contact → Except Error Unit → Prop where
  | unlogged {e : ConfigError} : logSetUp w c = .error e →
    Passage E w c input s [] [] (.error (.config e))
  | unredirected {e : Redirect.Error} : logSetUp w c = .ok () → redirectStart w c = .error e →
    Passage E w c input s [.engineBound] [.told .bindSink] (.error (.redirect e))
  /-- The last call of the attempt to attach fails. -/
  | unattached {pid : UInt32} {step : Step} {e : EngineError} {front : List Exchange}
    {x : Exchange} : logSetUp w c = .ok () → redirectStart w c = .ok () → c.attachPid = some pid →
    (attached E c (noticed E (notices c) s)).1 = .error e →
    (attached E c (noticed E (notices c) s)).2.exchanges = front ++ [x] → x.call = step.call pid →
    Passage E w c input s (boundStates c) (boundContacts E c s) (.error (.attach step pid e))
  | served {stage : Stage σ} {acts : List Action} : logSetUp w c = .ok () →
    redirectStart w c = .ok () → (attached E c (noticed E (notices c) s)).1 = .ok () →
    stage.engine = (attached E c (noticed E (notices c) s)).2.engine →
    stage.scene.Grows acts (CommandLoop.run E c.launch input stage).2.scene →
    Passage E w c input s (boundStates c ++ [.commandLoopRunning])
      (boundContacts E c s ++ (calls acts).map .called)
      ((CommandLoop.run E c.launch input stage).1.mapError .frontEnd)

/-- The session from the engine's binding to its teardown. -/
def serveLogged (E : Engine σ) (w : Surroundings) (c : Config) (input : List Arrival) :
    StateM (Life σ) (Except Error Unit) := do
  onStage (CommandLoop.tell E .bindSink)
  enter .engineBound
  serveBound E w c input

theorem serveLogged_passage (E : Engine σ) (w : Surroundings) (c : Config) (input : List Arrival)
    (hlog : logSetUp w c = .ok ()) (l : Life σ) :
    ∃ states reached,
      Passage E w c input l.stage.engine states reached (serveLogged E w c input l).1 ∧
      Span l states reached (serveLogged E w c input l).2 := by
  let l₁ : Life σ := (enter .engineBound (onStage (CommandLoop.tell E .bindSink) l).2).2
  have hbound : Span l [.engineBound] [.told .bindSink] l₁ :=
    (span_tell E .bindSink l).trans (span_enter .engineBound _)
  have hserve : serveLogged E w c input l = serveBound E w c input l₁ := rfl
  have hredirect := redirectIfAsked_spec E w c l₁
  rw [hserve, serveBound]
  cases hstart : redirectStart w c with
  | error e =>
    rw [hstart] at hredirect
    simp only [bind_of_eq hredirect]
    exact ⟨_, _, .unredirected hlog hstart, hbound⟩
  | ok _ =>
    rw [hstart] at hredirect
    obtain ⟨l₂, hredirected, hspan₂, hengine₂⟩ := hredirect
    have hnoticed : l₂.stage.engine = noticed E (notices c) l.stage.engine := by
      rw [hengine₂, notices]
      split <;> rfl
    obtain ⟨l₃, hspan₃, hengine₃, hattach⟩ := attachIfAsked_spec E c l₂
    rw [hnoticed] at hspan₃ hengine₃ hattach
    have hspans := (hbound.trans hspan₂).trans hspan₃
    have hcontacts : [.told .bindSink] ++ (if c.redirects then [.told .redirectOutput] else []) =
        (notices c).map Contact.told := by
      rw [notices]
      split <;> rfl
    rw [hcontacts] at hspans
    simp only [bind_of_eq hredirected]
    cases htold : (attached E c (noticed E (notices c) l.stage.engine)).1 with
    | error e =>
      rw [htold] at hattach
      obtain ⟨pid, step, front, x, hresult, hpid, hmade, hx⟩ := hattach
      simp only [bind_of_eq hresult]
      exact ⟨_, _, .unattached hlog hstart hpid htold hmade hx, hspans⟩
    | ok _ =>
      rw [htold] at hattach
      have henter : enter .commandLoopRunning l₃ = ((), (enter .commandLoopRunning l₃).2) := rfl
      obtain ⟨acts, hgrows, hacts⟩ :=
        CommandLoop.quiet_run E c.launch input (enter .commandLoopRunning l₃).2.stage
      have hloop := span_of_grows (l := (enter .commandLoopRunning l₃).2) hgrows
        (Action.contacts_of_untold hacts)
      have hall := (hspans.trans (span_enter .commandLoopRunning l₃)).trans hloop
      rw [List.append_nil, List.append_nil] at hall
      simp only [bind_of_eq hattach, bind_of_eq henter]
      exact ⟨_, _, .served hlog hstart htold hengine₃ hgrows, hall⟩

theorem endCapture_eq (s : Scene) :
    Scene.endCapture s =
      match s.capture with
      | none => ((), s)
      | some k => Scene.reportAll k.close.1 { s with capture := none } := by
  have hget : (get : StateM Scene Scene) s = (s, s) := rfl
  rw [Scene.endCapture, bind_of_eq hget]
  cases s.capture <;> rfl

/-- Closing the capture may report output that was held back. -/
theorem span_endCapture (l : Life σ) :
    Span l [] [] (onStage (Run.onScene Scene.endCapture) l).2 := by
  have hend := endCapture_eq l.stage.scene
  cases hcapture : l.stage.scene.capture with
  | none =>
    rw [hcapture] at hend
    rw [onStage_of_eq (onScene_of_eq hend)]
    exact .refl l
  | some k =>
    rw [hcapture] at hend
    rw [onStage_of_eq (onScene_of_eq hend)]
    obtain ⟨acts, h⟩ := manner_untold.stretch_reportAll k.close.1
      { l.stage.scene with capture := none }
    exact ⟨⟨(List.append_nil _).symm, h.grows.mode, acts, h.grows.trace, h.contacts⟩,
      h.grows.switch, rfl⟩

/-- The route of the engine's log is reset if it was set. -/
def resetRoute (c : Config) (l : Life σ) : Life σ :=
  if c.engineLogging.isSome then
    (onStage (Run.onScene (Scene.setSwitch fun s => s.resetRoute)) l).2
  else l

theorem resetRoute_spec (c : Config) (l : Life σ) :
    Part l [] [] (resetRoute c l) ∧ (resetRoute c l).stops = l.stops ∧
      (resetRoute c l).stage.scene.switch =
        if c.engineLogging.isSome then l.stage.scene.switch.resetRoute
        else l.stage.scene.switch := by
  rw [resetRoute]
  split
  · exact ⟨⟨(List.append_nil _).symm, rfl, [], (List.append_nil _).symm, rfl⟩, rfl, rfl⟩
  · exact ⟨.refl l, rfl, rfl⟩

/-- The life after the redirect server was stopped, if it ran. -/
def stopped (w : Surroundings) (l : Life σ) : Life σ :=
  if isRedirecting l then { l with stops := l.stops ++ [w.stopServer] } else l

theorem stopRedirect_eq (w : Surroundings) (l : Life σ) :
    stopRedirect w l =
      (if isRedirecting l then w.stopServer.mapError .redirect else .ok (), stopped w l) := by
  have hget : (get : StateM (Life σ) (Life σ)) l = (l, l) := rfl
  rw [stopRedirect, bind_of_eq hget, stopped]
  cases isRedirecting l <;> rfl

theorem stopped_spec (w : Surroundings) (l : Life σ) :
    Part l [] [] (stopped w l) ∧ (stopped w l).stage = l.stage ∧
      (stopped w l).stops = l.stops ++ if isRedirecting l then [w.stopServer] else [] := by
  rw [stopped]
  split
  · exact ⟨⟨(List.append_nil _).symm, rfl, [], (List.append_nil _).symm, rfl⟩, rfl, rfl⟩
  · exact ⟨.refl l, rfl, (List.append_nil _).symm⟩

/-- The life after the teardown, but for the record of what went wrong. -/
def tornDown (E : Engine σ) (w : Surroundings) (c : Config) (l : Life σ) : Life σ :=
  (enter .terminated (resetRoute c (onStage (Run.onScene Scene.endCapture)
    (onStage (CommandLoop.tell E .release) (stopped w l)).2).2)).2

/-- The teardown reports what failed first. -/
theorem tearDown_eq (E : Engine σ) (w : Surroundings) (c : Config) (result : Except Error Unit)
    (l : Life σ) :
    tearDown E w c result l =
      match result with
      | .error e => (.error e, (log .error ("session failed: " ++ e.message) (tornDown E w c l)).2)
      | .ok _ =>
        (if isRedirecting l then w.stopServer.mapError .redirect else .ok (),
          tornDown E w c l) := by
  rw [tearDown, bind_of_eq (stopRedirect_eq w l), tornDown, resetRoute]
  cases c.engineLogging <;> cases result <;> rfl

/-- What the teardown makes of a session. -/
structure TornDown (w : Surroundings) (c : Config) (l l' : Life σ) : Prop
    extends Part l [.terminated] [.told .release] l' where
  stops : l'.stops = l.stops ++ if isRedirecting l then [w.stopServer] else []
  switch : l'.stage.scene.switch =
    if c.engineLogging.isSome then l.stage.scene.switch.resetRoute else l.stage.scene.switch

theorem tornDown_spec (E : Engine σ) (w : Surroundings) (c : Config) (l : Life σ) :
    TornDown w c l (tornDown E w c l) := by
  let closed : Life σ := (onStage (Run.onScene Scene.endCapture)
    (onStage (CommandLoop.tell E .release) (stopped w l)).2).2
  obtain ⟨hstopped, hstage, hstops⟩ := stopped_spec w l
  have hclosed : Span (stopped w l) [] [.told .release] closed :=
    (span_tell E .release (stopped w l)).trans (span_endCapture _)
  obtain ⟨hreset, hkept, hswitch⟩ := resetRoute_spec c closed
  have hentered := span_enter .terminated (resetRoute c closed)
  exact {
    toPart := ((hstopped.trans hclosed.toPart).trans hreset).trans hentered.toPart
    stops := (hentered.stops.trans hkept).trans (hclosed.stops.trans hstops)
    switch := by
      refine (hentered.switch.trans hswitch).trans ?_
      rw [hclosed.switch, hstage] }

theorem tearDown_spec (E : Engine σ) (w : Surroundings) (c : Config) (result : Except Error Unit)
    (l : Life σ) :
    TornDown w c l (tearDown E w c result l).2 ∧
      (tearDown E w c result l).1 =
        match result with
        | .error e => .error e
        | .ok _ => if isRedirecting l then w.stopServer.mapError .redirect else .ok () := by
  have htorn := tornDown_spec E w c l
  rw [tearDown_eq]
  cases result with
  | error e =>
    have hlogged := span_log .error ("session failed: " ++ e.message) (tornDown E w c l)
    exact ⟨⟨htorn.toPart.trans hlogged.toPart, hlogged.stops.trans htorn.stops,
      hlogged.switch.trans htorn.switch⟩, rfl⟩
  | ok _ => exact ⟨htorn, rfl⟩

theorem rejection?_eq_none (h : rejection? w c = none) :
    c.validate = .ok () ∧ w.terminal = .ok () := by
  rw [rejection?] at h
  cases hvalid : c.validate with
  | error e =>
    rw [hvalid] at h
    exact nomatch h
  | ok _ =>
    rw [hvalid] at h
    cases hterminal : w.terminal with
    | error text =>
      rw [hterminal] at h
      exact nomatch h
    | ok _ => exact ⟨rfl, rfl⟩

/-- A session that gets a front end serves the client and is torn down. -/
theorem run_eq_tearDown (E : Engine σ) (w : Surroundings) (c : Config) (input : List Arrival)
    (haccepted : rejection? w c = none) (l : Life σ) :
    run E w c input l =
      tearDown E w c (serve E w c input (enter .variantSelected l).2).1
        (serve E w c input (enter .variantSelected l).2).2 := by
  obtain ⟨hvalid, hterminal⟩ := rejection?_eq_none haccepted
  rw [run, hvalid]
  simp only [hterminal]
  rfl

/-- A session whose log can be routed is ready for the engine with the log routed; otherwise it is
torn down at once. -/
theorem run_ready (E : Engine σ) (w : Surroundings) (c : Config) (input : List Arrival)
    {stage : Stage σ} (hmode : stage.scene.mode = c.mode) (haccepted : rejection? w c = none) :
    ∃ ready : Life σ, Part { stage } [.variantSelected] [] ready ∧
      match logSetUp w c with
      | .error e => run E w c input { stage } = tearDown E w c (.error (.config e)) ready
      | .ok _ => ready.stage.engine = stage.engine ∧
          ready.stage.scene.switch = routed c stage.scene.switch ∧
          run E w c input { stage } =
            tearDown E w c (serveLogged E w c input ready).1 (serveLogged E w c input ready).2 := by
  have hchosen := span_enter .variantSelected { stage }
  obtain ⟨ready, hlogging, hpart, -, hengine, hswitch⟩ :=
    enableLogging_spec (w := w) (hchosen.mode.trans hmode) (rejection?_eq_none haccepted).1
  refine ⟨ready, hchosen.toPart.trans hpart, ?_⟩
  rw [run_eq_tearDown E w c input haccepted, serve, bind_of_eq hlogging]
  rw [hchosen.switch] at hswitch
  cases hlog : logSetUp w c with
  | error e => rfl
  | ok _ =>
    rw [hlog] at hswitch
    exact ⟨hengine, hswitch, rfl⟩

/-- Between the choice of its front end and its teardown a session takes one of the ways. -/
theorem serve_passage (E : Engine σ) (w : Surroundings) (c : Config) (input : List Arrival)
    (hmode : l.stage.scene.mode = c.mode) (hvalid : c.validate = .ok ()) :
    ∃ states reached, Passage E w c input l.stage.engine states reached (serve E w c input l).1 ∧
      Part l states reached (serve E w c input l).2 ∧ (serve E w c input l).2.stops = l.stops ∧
      (serve E w c input l).2.stage.scene.switch = match logSetUp w c with
        | .ok _ => routed c l.stage.scene.switch
        | .error _ => l.stage.scene.switch := by
  obtain ⟨ready, hlogging, hready, hstops, hengine, hswitch⟩ :=
    enableLogging_spec (w := w) hmode hvalid
  rw [serve, bind_of_eq hlogging]
  cases hlog : logSetUp w c with
  | error e =>
    rw [hlog] at hswitch
    exact ⟨[], [], .unlogged hlog, hready, hstops, hswitch⟩
  | ok _ =>
    rw [hlog] at hswitch
    obtain ⟨states, reached, hpassage, hserved⟩ := serveLogged_passage E w c input hlog ready
    rw [hengine] at hpassage
    exact ⟨states, reached, hpassage, hready.trans hserved.toPart, hserved.stops.trans hstops,
      hserved.switch.trans hswitch⟩

/-- If the client is served, the server runs at the teardown exactly if it was to run. -/
theorem Passage.isRedirecting_eq {s : σ} {states : List State} {reached : List Contact}
    {served : Except Error Unit} (hpassage : Passage E w c input s states reached served)
    (outcome : Except String Unit) (hserved : served = outcome.mapError .frontEnd)
    (hhistory : l.history = .unconfigured :: .variantSelected :: states) :
    isRedirecting l = c.redirects := by
  cases hpassage with
  | unlogged | unredirected | unattached => cases outcome <;> exact nomatch hserved
  | served =>
    rw [isRedirecting, hhistory, boundStates]
    cases c.redirects <;> cases c.attachPid <;> rfl

/-- Where log records go once a session is over: where they went before it. -/
def unrouted (w : Surroundings) (c : Config) (switch : Log.Switch Sink) : Log.Switch Sink :=
  if c.engineLogging.isSome then
    { switch with
      route := none
      installed := switch.installed || (logSetUp w c).isOk
      maxLevel := switch.filter }
  else switch

/-- Resetting the route undoes the routing, and does no harm where there was none. -/
theorem unrouted_eq (w : Surroundings) (c : Config) (switch : Log.Switch Sink) :
    (if c.engineLogging.isSome then
      (match logSetUp w c with
        | .ok _ => routed c switch
        | .error _ => switch).resetRoute
    else match logSetUp w c with
      | .ok _ => routed c switch
      | .error _ => switch) = unrouted w c switch := by
  rw [unrouted, logSetUp, routed]
  cases c.engineLogging with
  | none => rfl
  | some logging =>
    obtain ⟨_ | path⟩ := logging
    · simp [Log.Switch.resetRoute, Log.Switch.updateMaxLevel, Log.Switch.routeEngine,
        Log.Switch.install, Except.isOk, Except.toBool]
    · simp only
      cases w.openLog path <;>
        simp [Log.Switch.resetRoute, Log.Switch.updateMaxLevel, Log.Switch.routeEngine,
          Log.Switch.install, Except.isOk, Except.toBool, Except.mapError]

/-- A session that gets a front end takes one of the ways, and is torn down whatever it is. -/
theorem run_passage (E : Engine σ) (w : Surroundings) (c : Config) (input : List Arrival)
    {stage : Stage σ} (hmode : stage.scene.mode = c.mode) (haccepted : rejection? w c = none) :
    let l := (run E w c input { stage }).2
    ∃ states reached served, Passage E w c input stage.engine states reached served ∧
      Part { stage } (.variantSelected :: states ++ [.terminated]) (reached ++ [.told .release]) l ∧
      l.stops = (if .redirectActive ∈ l.history then [w.stopServer] else []) ∧
      l.stage.scene.switch = unrouted w c stage.scene.switch ∧
      (run E w c input { stage }).1 =
        match served with
        | .error e => .error e
        | .ok _ => redirectStop w c := by
  let l₁ : Life σ := (enter .variantSelected { stage }).2
  have hchosen : Span { stage } [.variantSelected] [] l₁ := span_enter .variantSelected { stage }
  obtain ⟨states, reached, hpassage, hserved, hstops, hswitch⟩ := serve_passage E w c input
    (hchosen.mode.trans hmode) (rejection?_eq_none haccepted).1
  obtain ⟨htorn, hresult⟩ := tearDown_spec E w c (serve E w c input l₁).1 (serve E w c input l₁).2
  rw [run_eq_tearDown E w c input haccepted]
  refine ⟨states, reached, _, hpassage, (hchosen.toPart.trans hserved).trans htorn.toPart, ?_, ?_,
    hresult.trans ?_⟩
  · rw [htorn.stops, hstops.trans hchosen.stops, htorn.history, isRedirecting]
    simp
  · rw [htorn.switch, hswitch, hchosen.switch, unrouted_eq]
  · cases hout : (serve E w c input l₁).1 with
    | error e => rfl
    | ok _ =>
      have hredirecting := hpassage.isRedirecting_eq (.ok ()) hout
        (hchosen.toPart.trans hserved).history
      simp only [hredirecting]
      rfl

/-! ## What holds of every session -/

/-- What holds of a session that gets a front end, given the stage before it, what is done in it,
its result and the end of its life. -/
structure Orderly (E : Engine σ) (w : Surroundings) (c : Config) (input : List Arrival)
    (stage : Stage σ) (acts : List Action) (result : Except Error Unit) (l : Life σ) : Prop where
  terminated : l.history.getLast? = some .terminated
  released : ∃ reached, contacts acts = reached ++ [.told .release] ∧ .told .release ∉ reached
  /-- A log that cannot be routed ends the session before the engine is bound. -/
  unlogged : ∀ e, logSetUp w c = .error e → contacts acts = [.told .release]
  /-- Otherwise the log is routed before the engine is bound. -/
  logged : logSetUp w c = .ok () → ∃ ready : Life σ, Part { stage } [.variantSelected] [] ready ∧
    ready.stage.scene.switch = routed c stage.scene.switch ∧
    (result, l) =
      tearDown E w c (serveLogged E w c input ready).1 (serveLogged E w c input ready).2
  /-- Output is redirected at most once, before all calls, and not for the command line. -/
  redirectOutput : (contacts acts).count (.told .redirectOutput) ≤ 1 ∧
    (.told .redirectOutput ∈ contacts acts → c.mode ≠ .cli ∧
      ∃ later, contacts acts = .told .bindSink :: .told .redirectOutput :: later)
  redirectActive : .redirectActive ∈ l.history ↔
    logSetUp w c = .ok () ∧ c.mode ≠ .cli ∧ w.startServer c.port = .ok ()
  /-- The calls of an attempt to attach are made in their order up to the first that fails. -/
  attaching : ∀ pid, c.attachPid = some pid → .attaching ∈ l.history →
    ∃ made later, contacts acts = (notices c).map .told ++ made.map .called ++ later ∧
      (.commandLoopRunning ∈ l.history ∧ made = [.setUp, .attach pid, .configurationDone] ∨
        .commandLoopRunning ∉ l.history ∧ made <+: [.setUp, .attach pid, .configurationDone] ∧
          later = [.told .release] ∧ ∃ step e, made.getLast? = some (step.call pid) ∧
            result = .error (.attach step pid e))
  /-- The client is served exactly if nothing failed before. -/
  commandLoopRunning : .commandLoopRunning ∈ l.history ↔
    logSetUp w c = .ok () ∧ redirectStart w c = .ok () ∧
      (attached E c (noticed E (notices c) stage.engine)).1 = .ok ()
  /-- The server is stopped once if it runs. -/
  stopped : l.stops = if .redirectActive ∈ l.history then [w.stopServer] else []
  unrouted : l.stage.scene.switch = unrouted w c stage.scene.switch
  /-- What fails first is the result; the server's failure counts if nothing else fails. -/
  passage : ∃ states reached served, Passage E w c input stage.engine states reached served ∧
    l.history = .unconfigured :: .variantSelected :: states ++ [.terminated] ∧
    contacts acts = reached ++ [.told .release] ∧
    result = match served with
      | .error e => .error e
      | .ok _ => redirectStop w c

theorem tellAll_prefix (E : Engine σ) (cs : List Call) (t : Talk σ) :
    ∃ made, (E.tellAll cs t).2.exchanges = t.exchanges ++ made ∧
      made.map Exchange.call <+: cs ∧
      ((E.tellAll cs t).1 = .ok () → made.map Exchange.call = cs) := by
  induction cs generalizing t with
  | nil => exact ⟨[], (List.append_nil _).symm, List.prefix_rfl, fun _ => rfl⟩
  | cons c cs ih =>
    rw [Engine.tellAll_cons, Engine.tell_eq]
    cases (E.respond c t.engine).1.outcome with
    | error e => exact ⟨[_], rfl, List.cons_prefix_cons.2 ⟨rfl, List.nil_prefix⟩, fun h => nomatch h⟩
    | ok _ =>
      obtain ⟨made, hmade, hpre, hall⟩ := ih ⟨(E.respond c t.engine).2,
        t.exchanges ++ [⟨c, (E.respond c t.engine).1.emitted⟩]⟩
      refine ⟨⟨c, (E.respond c t.engine).1.emitted⟩ :: made, ?_, ?_, fun h => ?_⟩
      · exact hmade.trans (List.append_cons _ _ _).symm
      · exact List.cons_prefix_cons.2 ⟨rfl, hpre⟩
      · exact congrArg (c :: ·) (hall h)

theorem redirects_iff : c.redirects = true ↔ c.mode ≠ .cli := by
  rw [Config.redirects, bne_iff_ne]

theorem redirectActive_mem_boundStates (hstart : redirectStart w c = .ok ()) :
    .redirectActive ∈ boundStates c ↔ c.redirects = true ∧ w.startServer c.port = .ok () := by
  rw [redirectStart] at hstart
  cases hredirects : c.redirects with
  | false => cases hpid : c.attachPid <;> simp [boundStates, hredirects, hpid]
  | true =>
    rw [hredirects, if_pos rfl] at hstart
    simp [boundStates, hredirects, hstart]

namespace Passage

variable {s : σ} {states : List State} {reached : List Contact} {served : Except Error Unit}

theorem forward (h : Passage E w c input s states reached served) :
    ((.unconfigured :: .variantSelected :: states ++ [State.terminated]).map State.rank).Pairwise
      (· < ·) := by
  cases h with
  | unlogged => decide
  | unredirected => decide
  | unattached =>
    rw [boundStates]
    cases c.redirects <;> cases c.attachPid <;> simp [State.rank]
  | served =>
    rw [boundStates]
    cases c.redirects <;> cases c.attachPid <;> simp [State.rank]

/-- The engine is told all it is told before it is called. -/
theorem reached_eq (h : Passage E w c input s states reached served) :
    reached = [] ∨ ∃ (ns : List Notice) (made : List Call), reached = ns.map .told ++ made.map .called ∧
      (ns = [.bindSink] ∨ c.mode ≠ .cli ∧ ns = [.bindSink, .redirectOutput]) := by
  have hnotices : notices c = [.bindSink] ∨
      c.mode ≠ .cli ∧ notices c = [.bindSink, .redirectOutput] := by
    rw [notices, ← redirects_iff]
    cases c.redirects
    · exact .inl rfl
    · exact .inr ⟨rfl, rfl⟩
  have hbound : boundContacts E c s = (notices c).map .told ++
      ((attached E c (noticed E (notices c) s)).2.exchanges.map Exchange.call).map .called := by
    rw [boundContacts, List.map_map]
    rfl
  cases h with
  | unlogged => exact .inl rfl
  | unredirected => exact .inr ⟨[.bindSink], [], rfl, .inl rfl⟩
  | unattached => exact .inr ⟨_, _, hbound, hnotices⟩
  | @served stage acts =>
    refine .inr ⟨_, (attached E c (noticed E (notices c) s)).2.exchanges.map Exchange.call ++
      calls acts, ?_, hnotices⟩
    rw [hbound, List.append_assoc, ← List.map_append]

theorem release_not_mem (h : Passage E w c input s states reached served) :
    Contact.told .release ∉ reached := by
  rcases h.reached_eq with rfl | ⟨ns, made, rfl, rfl | ⟨-, rfl⟩⟩ <;> simp

theorem redirectOutput_mem (h : Passage E w c input s states reached served)
    (hmem : Contact.told .redirectOutput ∈ reached ++ [.told .release]) :
    c.mode ≠ .cli ∧
      ∃ later, reached ++ [.told .release] = .told .bindSink :: .told .redirectOutput :: later := by
  rcases h.reached_eq with rfl | ⟨ns, made, rfl, rfl | ⟨hmode, rfl⟩⟩
  · exact absurd hmem (by simp)
  · exact absurd hmem (by simp)
  · exact ⟨hmode, _, rfl⟩

theorem count_redirectOutput (h : Passage E w c input s states reached served) :
    (reached ++ [Contact.told .release]).count (.told .redirectOutput) ≤ 1 := by
  have hcalled : ∀ made : List Call,
      (made.map Contact.called).count (.told .redirectOutput) = 0 := fun made =>
    List.count_eq_zero.2 (by simp)
  rcases h.reached_eq with rfl | ⟨ns, made, rfl, rfl | ⟨-, rfl⟩⟩
  · decide
  · simp [hcalled]
  · simp [hcalled]

theorem redirectActive_mem (h : Passage E w c input s states reached served) :
    .redirectActive ∈ .unconfigured :: .variantSelected :: states ++ [State.terminated] ↔
      logSetUp w c = .ok () ∧ c.mode ≠ .cli ∧ w.startServer c.port = .ok () := by
  rw [← redirects_iff]
  cases h with
  | unlogged hlog => simp [hlog]
  | unredirected hlog hstart =>
    rw [redirectStart] at hstart
    cases hredirects : c.redirects with
    | false =>
      simp
    | true =>
      rw [hredirects, if_pos rfl] at hstart
      simp [hstart]
  | unattached hlog hstart => simp [hlog, redirectActive_mem_boundStates hstart]
  | served hlog hstart => simp [hlog, redirectActive_mem_boundStates hstart]

theorem commandLoopRunning_mem (h : Passage E w c input s states reached served) :
    .commandLoopRunning ∈ .unconfigured :: .variantSelected :: states ++ [State.terminated] ↔
      logSetUp w c = .ok () ∧ redirectStart w c = .ok () ∧
        (attached E c (noticed E (notices c) s)).1 = .ok () := by
  cases h with
  | unlogged hlog => simp [hlog]
  | unredirected hlog hstart => simp [hstart]
  | unattached hlog hstart hpid htold =>
    cases hredirects : c.redirects <;> simp [boundStates, hpid, htold, hredirects]
  | served hlog hstart htold => simp [hlog, hstart, htold]

/-- The calls of an attempt to attach are made in their order up to the first that fails. -/
theorem attaching_mem (h : Passage E w c input s states reached served) {pid : UInt32}
    (hpid : c.attachPid = some pid)
    (hmem : .attaching ∈ .unconfigured :: .variantSelected :: states ++ [State.terminated]) :
    ∃ made later, reached ++ [.told .release] =
        (notices c).map .told ++ made.map .called ++ later ∧
      (.commandLoopRunning ∈ .unconfigured :: .variantSelected :: states ++ [State.terminated] ∧
          made = [.setUp, .attach pid, .configurationDone] ∨
        .commandLoopRunning ∉ .unconfigured :: .variantSelected :: states ++ [State.terminated] ∧
          made <+: [.setUp, .attach pid, .configurationDone] ∧ later = [.told .release] ∧
          ∃ step e, made.getLast? = some (step.call pid) ∧
            served = .error (.attach step pid e)) := by
  have hrunning := h.commandLoopRunning_mem
  have hattached : attached E c (noticed E (notices c) s) = E.tellAll
      [.setUp, .attach pid, .configurationDone] { engine := noticed E (notices c) s } := by
    rw [attached, hpid]
    rfl
  obtain ⟨made, hmade, hpre, hall⟩ := tellAll_prefix E [.setUp, .attach pid, .configurationDone]
    { engine := noticed E (notices c) s }
  rw [← hattached, List.nil_append] at hmade
  rw [← hattached] at hall
  have hbound : boundContacts E c s =
      (notices c).map .told ++ (made.map Exchange.call).map .called := by
    rw [boundContacts, hmade, List.map_map]
    rfl
  cases h with
  | unlogged => exact absurd hmem (by simp)
  | unredirected => exact absurd hmem (by simp)
  | @unattached pid' step e front x hlog hstart hpid' htold hfront hx =>
    obtain rfl := Option.some.inj (hpid.symm.trans hpid')
    refine ⟨_, _, congrArg (· ++ [.told .release]) hbound, .inr ⟨?_, hpre, rfl, step, e, ?_, rfl⟩⟩
    · rw [hrunning, htold]
      rintro ⟨-, -, ⟨⟩⟩
    · rw [← hmade, hfront]
      simp [hx]
  | @served stage acts hlog hstart htold =>
    refine ⟨_, (calls acts).map .called ++ [.told .release], ?_,
      .inl ⟨hrunning.2 ⟨hlog, hstart, htold⟩, hall htold⟩⟩
    rw [hbound, List.append_assoc]

end Passage

theorem run_of_rejection {e : Error} (h : rejection? w c = some e) (l : Life σ) :
    run E w c input l = (.error e, l) := by
  rw [rejection?] at h
  cases hvalid : c.validate with
  | error cause =>
    rw [hvalid] at h
    obtain rfl := Option.some.inj h
    rw [run, hvalid]
    rfl
  | ok _ =>
    cases hterminal : w.terminal with
    | error text =>
      rw [hvalid, hterminal] at h
      obtain rfl := Option.some.inj h
      rw [run, hvalid]
      simp only [hterminal]
      rfl
    | ok _ =>
      rw [hvalid, hterminal] at h
      exact nomatch h

/-- A session from its start to its end, with any configuration, engine, server, terminal and
input.  Its states only go forward.  A session that gets no front end stays where it is and leaves
the engine alone; any other is orderly. -/
theorem run_orderly (E : Engine σ) (w : Surroundings) (c : Config) (input : List Arrival)
    (stage : Stage σ) (hmode : stage.scene.mode = c.mode) :
    ∃ acts, (run E w c input { stage }).2.stage.scene.trace = stage.scene.trace ++ acts ∧
      ((run E w c input { stage }).2.history.map State.rank).Pairwise (· < ·) ∧
      (∀ e, rejection? w c = some e → (run E w c input { stage }).1 = .error e ∧
        (run E w c input { stage }).2.history = [.unconfigured] ∧ contacts acts = []) ∧
      (rejection? w c = none → Orderly E w c input stage acts (run E w c input { stage }).1
        (run E w c input { stage }).2) := by
  cases hrejection : rejection? w c with
  | some e =>
    rw [run_of_rejection hrejection]
    refine ⟨[], (List.append_nil _).symm, List.pairwise_singleton _ _, fun e' h => ?_,
      fun h => nomatch h⟩
    exact ⟨congrArg Except.error (Option.some.inj h), rfl, rfl⟩
  | none =>
    obtain ⟨states, reached, served, hpassage, hpart, hstops, hswitch, hresult⟩ :=
      run_passage E w c input hmode hrejection
    obtain ⟨acts, htrace, hacts⟩ := hpart.acts
    have hhistory : (run E w c input { stage }).2.history =
        .unconfigured :: .variantSelected :: states ++ [.terminated] := hpart.history
    refine ⟨acts, htrace, ?_, fun e h => absurd h (by simp), fun _ => ?_⟩
    · rw [hhistory]
      exact hpassage.forward
    exact {
      terminated := by
        rw [hhistory]
        exact List.getLast?_concat
      released := ⟨reached, hacts, hpassage.release_not_mem⟩
      unlogged := fun e hlog => by
        cases hpassage with
        | unlogged => exact hacts
        | unredirected h | unattached h | served h => exact nomatch hlog.symm.trans h
      logged := fun hlog => by
        obtain ⟨ready, hready, hrun⟩ := run_ready E w c input hmode hrejection
        rw [hlog] at hrun
        exact ⟨ready, hready, hrun.2.1, hrun.2.2⟩
      redirectOutput := by
        rw [hacts]
        exact ⟨hpassage.count_redirectOutput, hpassage.redirectOutput_mem⟩
      redirectActive := by
        rw [hhistory]
        exact hpassage.redirectActive_mem
      attaching := fun pid hpid hmem => by
        rw [hhistory] at hmem
        rw [hacts, hhistory]
        obtain ⟨made, later, hreached, hrun | ⟨hrun, hmade, hlater, step, e, hlast, rfl⟩⟩ :=
          hpassage.attaching_mem hpid hmem
        · exact ⟨made, later, hreached, .inl hrun⟩
        · exact ⟨made, later, hreached, .inr ⟨hrun, hmade, hlater, step, e, hlast, hresult⟩⟩
      commandLoopRunning := by
        rw [hhistory]
        exact hpassage.commandLoopRunning_mem
      stopped := hstops
      unrouted := hswitch
      passage := ⟨states, reached, served, hpassage, hhistory, hacts, hresult⟩ }

/-- A session that logs to a file, redirects output and is to attach. -/
def attachingConfig : Config where
  mode := .dap
  engineLogging := some { path := some "engine.log" }
  attachPid := some 7

def freshStage : Stage Unit where
  desk := ()
  scene := { mode := .dap, writeError := fun _ => none, switch := { main := .main } }
  engine := ()

/-- An engine that gets ready and refuses everything else. -/
def unattachable : Engine Unit where
  respond call s :=
    match call with
    | .setUp => (⟨[], .ok ()⟩, s)
    | _ => (⟨[], .error .noProcess⟩, s)

/-- An engine that refuses to attach is released, and the client is not served. -/
theorem run_orderly_unattached :
    ∃ acts, Orderly unattachable {} attachingConfig [] freshStage acts
        (.error (.attach .attach 7 .noProcess))
        (run unattachable {} attachingConfig [] { stage := freshStage }).2 ∧
      (run unattachable {} attachingConfig [] { stage := freshStage }).2.history =
        [.unconfigured, .variantSelected, .engineBound, .redirectActive, .attaching, .terminated] ∧
      contacts acts =
        [.told .bindSink, .told .redirectOutput, .called .setUp, .called (.attach 7),
          .told .release] := by
  obtain ⟨acts, htrace, -, -, horderly⟩ :=
    run_orderly unattachable {} attachingConfig [] freshStage rfl
  have hresult : (run unattachable {} attachingConfig [] { stage := freshStage }).1 =
      .error (.attach .attach 7 .noProcess) := by decide +kernel
  have hcontacts :
      contacts (run unattachable {} attachingConfig [] { stage := freshStage }).2.stage.scene.trace =
        [.told .bindSink, .told .redirectOutput, .called .setUp, .called (.attach 7),
          .told .release] := by decide +kernel
  rw [htrace] at hcontacts
  rw [hresult] at horderly
  exact ⟨acts, horderly rfl, by decide +kernel, hcontacts⟩

end Session
end DebugSession
