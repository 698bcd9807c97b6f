/-
The steps of a session.  Each is a part of it: it enters states, and something reaches the engine.
The engine is told something only by the session itself; otherwise it is called.
-/
import DebugSession.Session
import DebugSession.Proofs.CommandLoop
import DebugSession.Proofs.FrontEnd.Conversation
import Mathlib.Data.List.Basic

namespace DebugSession

inductive Contact where
  | told (n : Notice)
  | called (c : Call)
deriving Repr, DecidableEq

namespace Action

def contact? : Action → Option Contact
  | .told n => some (.told n)
  | .called c => some (.called c)
  | _ => none

def contacts (acts : List Action) : List Contact := acts.filterMap contact?

theorem contacts_append (a b : List Action) : contacts (a ++ b) = contacts a ++ contacts b :=
  List.filterMap_append

/-- If the engine is told nothing, it is called at most. -/
theorem contacts_of_untold {acts : List Action} (h : Untold acts) :
    contacts acts = (calls acts).map .called := by
  induction acts with
  | nil => rfl
  | cons a acts ih =>
    obtain ⟨ha, hacts⟩ := List.forall_mem_cons.1 h
    have htail := ih hacts
    cases a with
    | told n => exact nomatch ha
    | called c => exact congrArg (.called c :: ·) htail
    | took _ | wrote _ _ | lost _ _ _ | logged _ | openedLog _ | filed _ => exact htail

end Action

theorem Scene.Stretch.contacts {taken : List Arrival} {called : List Call} {answered : List String}
    {s s' : Scene} {acts : List Action}
    (h : Scene.Stretch (fun _ acts _ => Untold acts) taken called answered s acts s') :
    Action.contacts acts = called.map .called := by
  rw [Action.contacts_of_untold h.manner, h.calls]

namespace Session

open DebugSession.Action (calls contacts)
open Scene (Grows)

variable {σ α : Type} {E : Engine σ} {w : Surroundings} {c : Config} {input : List Arrival}
  {l l' l'' : Life σ}

theorem onScene_of_eq {act : StateM Scene α} {r : Stage σ} {scene : Scene} {a : α}
    (h : act r.scene = (a, scene)) : Run.onScene act r = (a, { r with scene }) :=
  congrArg (fun x : α × Scene => (x.1, ({ r with scene := x.2 } : Stage σ))) h

theorem onStage_of_eq {work : StateM (Stage σ) α} {stage : Stage σ} {a : α}
    (h : work l.stage = (a, stage)) : onStage work l = (a, { l with stage }) :=
  congrArg (fun x : α × Stage σ => (x.1, ({ l with stage := x.2 } : Life σ))) h

/-! ## Parts -/

/-- A part of a session: the states entered in it, and what reached the engine. -/
structure Part (l : Life σ) (states : List State) (reached : List Contact) (l' : Life σ) :
    Prop where
  history : l'.history = l.history ++ states
  mode : l'.stage.scene.mode = l.stage.scene.mode
  acts : ∃ acts, l'.stage.scene.trace = l.stage.scene.trace ++ acts ∧ contacts acts = reached

theorem Part.refl (l : Life σ) : Part l [] [] l :=
  ⟨(List.append_nil _).symm, rfl, [], (List.append_nil _).symm, rfl⟩

theorem Part.trans {states states' : List State} {reached reached' : List Contact}
    (h : Part l states reached l') (h' : Part l' states' reached' l'') :
    Part l (states ++ states') (reached ++ reached') l'' := by
  obtain ⟨acts, htrace, hacts⟩ := h.acts
  obtain ⟨more, htrace', hmore⟩ := h'.acts
  refine ⟨?_, h'.mode.trans h.mode, acts ++ more, ?_, ?_⟩
  · rw [h'.history, h.history, List.append_assoc]
  · rw [htrace', htrace, List.append_assoc]
  · rw [Action.contacts_append, hacts, hmore]

/-- A part of a session in which the log switch stays as it is and the server is not stopped. -/
structure Span (l : Life σ) (states : List State) (reached : List Contact) (l' : Life σ) : Prop
    extends Part l states reached l' where
  switch : l'.stage.scene.switch = l.stage.scene.switch
  stops : l'.stops = l.stops

theorem Span.refl (l : Life σ) : Span l [] [] l := ⟨.refl l, rfl, rfl⟩

theorem Span.trans {states states' : List State} {reached reached' : List Contact}
    (h : Span l states reached l') (h' : Span l' states' reached' l'') :
    Span l (states ++ states') (reached ++ reached') l'' :=
  ⟨h.toPart.trans h'.toPart, h'.switch.trans h.switch, h'.stops.trans h.stops⟩

/-- What is done on the stage enters no state. -/
theorem span_of_grows {stage : Stage σ} {acts : List Action} {reached : List Contact}
    (h : l.stage.scene.Grows acts stage.scene) (hacts : contacts acts = reached) :
    Span l [] reached { l with stage } :=
  ⟨⟨(List.append_nil _).symm, h.mode, acts, h.trace, hacts⟩, h.switch, rfl⟩

theorem span_log (level : Log.Level) (text : String) (l : Life σ) :
    Span l [] [] (log level text l).2 := by
  obtain ⟨acts, h⟩ := manner_untold.stretch_log { level, target, text } l.stage.scene
  exact span_of_grows h.grows h.contacts

theorem span_enter (s : State) (l : Life σ) : Span l [s] [] (enter s l).2 := by
  have hlog := span_log .info (l.state.name ++ " -> " ++ s.name) l
  exact ⟨⟨rfl, hlog.mode, hlog.acts⟩, hlog.switch, rfl⟩

theorem span_tell (E : Engine σ) (n : Notice) (l : Life σ) :
    Span l [] [.told n] (onStage (CommandLoop.tell E n) l).2 :=
  span_of_grows (Scene.grows_add (.told n) l.stage.scene) rfl

/-! ## Attaching -/

def Step.call (pid : UInt32) : Step → Call
  | setUp => .setUp
  | attach => .attach pid
  | configurationDone => .configurationDone

def Step.all : List Step := [.setUp, .attach, .configurationDone]

/-- Attaching step by step. -/
def attachSteps (E : Engine σ) (pid : UInt32) : List Step → StateM (Life σ) (Except Error Unit)
  | [] => do
    log .info ("attached to process " ++ Text.Decimal.render pid.toNat)
    return .ok ()
  | step :: steps => do
    match ← attachStep E pid step (step.call pid) with
    | .error e => return .error e
    | .ok _ => attachSteps E pid steps

theorem attach_eq_attachSteps (E : Engine σ) (pid : UInt32) :
    attach E pid = attachSteps E pid Step.all := rfl

theorem attachStep_spec (E : Engine σ) (pid : UInt32) (step : Step) (c : Call) (l : Life σ) :
    ∃ l', attachStep E pid step c l =
        (((E.respond c l.stage.engine).1.outcome.map fun _ => ()).mapError (.attach step pid), l') ∧
      Span l [] [.called c] l' ∧ l'.stage.engine = (E.respond c l.stage.engine).2 := by
  let x : Exchange := ⟨c, (E.respond c l.stage.engine).1.emitted⟩
  let talk : Talk σ := ⟨(E.respond c l.stage.engine).2, [x]⟩
  have htell : (do return (← E.tell c, l.stage.desk) : StateM (Talk σ) _)
      { engine := l.stage.engine } =
        (((E.respond c l.stage.engine).1.outcome.map fun _ => (), l.stage.desk), talk) := by
    rw [bind_of_eq (E.tell_eq c _)]
    rfl
  have hconverse : Run.converse (fun d => do return (← E.tell c, d)) l.stage =
      ((E.respond c l.stage.engine).1.outcome.map fun _ => (),
        l.stage.conversed l.stage.desk talk) := Run.converse_of_eq htell
  obtain ⟨acts, h⟩ := manner_untold.stretch_exchanges [x] l.stage.scene
  refine ⟨{ l with stage := l.stage.conversed l.stage.desk talk }, ?_,
    span_of_grows h.grows h.contacts, rfl⟩
  rw [attachStep, bind_of_eq (onStage_of_eq hconverse)]
  rfl

/-- How attaching ends: well if all calls do, or with the step of the last call, which failed. -/
inductive Attached (pid : UInt32) :
    Except EngineError Unit → List Exchange → Except Error Unit → Prop where
  | done {made : List Exchange} : Attached pid (.ok ()) made (.ok ())
  | failed {step : Step} {e : EngineError} (front : List Exchange) {x : Exchange} :
    x.call = step.call pid → Attached pid (.error e) (front ++ [x]) (.error (.attach step pid e))

theorem attachSteps_spec (E : Engine σ) (pid : UInt32) (steps : List Step) (l : Life σ)
    (before : List Exchange) :
    ∃ l' told made result,
      E.tellAll (steps.map (Step.call pid)) ⟨l.stage.engine, before⟩ =
        (told, ⟨l'.stage.engine, before ++ made⟩) ∧
      attachSteps E pid steps l = (result, l') ∧ Attached pid told made result ∧
      Span l [] (made.map fun x => .called x.call) l' := by
  induction steps generalizing l before with
  | nil =>
    refine ⟨_, .ok (), [], .ok (), ?_, rfl, .done, span_log .info _ l⟩
    rw [List.append_nil]
    rfl
  | cons step steps ih =>
    obtain ⟨l₁, hstep, hspan, hengine⟩ := attachStep_spec E pid step (step.call pid) l
    rw [List.map_cons, Engine.tellAll_cons, Engine.tell_eq, attachSteps, bind_of_eq hstep]
    obtain ⟨x, hx⟩ : ∃ x : Exchange,
        x = ⟨step.call pid, (E.respond (step.call pid) l.stage.engine).1.emitted⟩ := ⟨_, rfl⟩
    have hcall : x.call = step.call pid := congrArg Exchange.call hx
    rw [← hcall] at hspan
    rw [← hx, ← hengine]
    cases (E.respond (step.call pid) l.stage.engine).1.outcome with
    | error e => exact ⟨l₁, .error e, [x], _, rfl, rfl, .failed [] hcall, hspan⟩
    | ok _ =>
      obtain ⟨l₂, told, made, result, htold, hresult, hattached, hlater⟩ := ih l₁ (before ++ [x])
      refine ⟨l₂, told, x :: made, result, ?_, hresult, ?_, hspan.trans hlater⟩
      · rw [List.append_cons before x made]
        exact htold
      · cases hattached with
        | done => exact .done
        | failed front h => exact .failed (x :: front) h

theorem attach_spec (E : Engine σ) (pid : UInt32) (l : Life σ) :
    ∃ l' told made result,
      E.tellAll (Step.all.map (Step.call pid)) { engine := l.stage.engine } =
        (told, ⟨l'.stage.engine, made⟩) ∧
      attach E pid l = (result, l') ∧ Attached pid told made result ∧
      Span l [] (made.map fun x => .called x.call) l' := by
  rw [attach_eq_attachSteps]
  exact attachSteps_spec E pid Step.all l []

/-! ## What a session depends on -/

/-- Why a session gets no front end. -/
def rejection? (w : Surroundings) (c : Config) : Option Error :=
  match c.validate, w.terminal with
  | .error e, _ => some (.config e)
  | .ok _, .error text => some (.frontEnd text)
  | .ok _, .ok _ => none

/-- Whether the engine's log can be routed as configured. -/
def logSetUp (w : Surroundings) (c : Config) : Except ConfigError Unit :=
  match c.engineLogging with
  | none | some ⟨none⟩ => .ok ()
  | some ⟨some path⟩ => (w.openLog path).mapError (.logFile path)

/-- Where log records go once the engine's log is routed. -/
def routed (c : Config) (switch : Log.Switch Sink) : Log.Switch Sink :=
  match c.engineLogging with
  | none => switch
  | some ⟨none⟩ => switch.routeEngine .console
  | some ⟨some _⟩ => switch.routeEngine .file

/-- How the redirect server starts, if it is to start. -/
def redirectStart (w : Surroundings) (c : Config) : Except Redirect.Error Unit :=
  if c.redirects then w.startServer c.port else .ok ()

/-- How the redirect server stops, if it was to start. -/
def redirectStop (w : Surroundings) (c : Config) : Except Error Unit :=
  if c.redirects then w.stopServer.mapError .redirect else .ok ()

/-- What the engine is told before it is called. -/
def notices (c : Config) : List Notice :=
  if c.redirects then [.bindSink, .redirectOutput] else [.bindSink]

/-- The engine after notices. -/
def noticed (E : Engine σ) (ns : List Notice) (s : σ) : σ := ns.foldl (fun s n => E.notice n s) s

/-- What attaching comes to, and the calls it takes. -/
def attached (E : Engine σ) (c : Config) (s : σ) : Except EngineError Unit × Talk σ :=
  match c.attachPid with
  | none => (.ok (), { engine := s })
  | some pid => E.tellAll (Step.all.map (Step.call pid)) { engine := s }

/-- The states from the bound engine up to the attempt to attach. -/
def boundStates (c : Config) : List State :=
  .engineBound :: (if c.redirects then [.redirectActive] else []) ++
    (if c.attachPid.isSome then [.attaching] else [])

/-! ## The steps of a session -/

/-- Routing the engine's log shows in the trace as a log file and a record at most. -/
theorem enableLogging_scene (openFile : String → Except String Unit) (path : Option String)
    {s : Scene} (hmode : s.mode = .dap) :
    ∃ s' acts, s'.trace = s.trace ++ acts ∧ contacts acts = [] ∧ s'.mode = s.mode ∧
      match path with
      | none => CommandLoop.enableLogging openFile ⟨none⟩ s = (.ok (), s') ∧
          s'.switch = s.switch.routeEngine .console
      | some path =>
        CommandLoop.enableLogging openFile ⟨some path⟩ s =
            ((openFile path).mapError (.logFile path), s') ∧
          s'.switch = match openFile path with
            | .ok _ => s.switch.routeEngine .file
            | .error _ => s.switch := by
  have hget : (get : StateM Scene Scene) s = (s, s) := rfl
  have hsupported : (s.mode != .dap) = false := by
    rw [hmode]
    rfl
  cases path with
  | none =>
    obtain ⟨acts, h⟩ := manner_untold.stretch_log
      { level := .debug
        target := Scene.frontEndTarget
        text := "engine log redirected to client console" }
      { s with switch := s.switch.routeEngine .console }
    refine ⟨_, acts, h.grows.trace, h.contacts, h.grows.mode, ?_, h.grows.switch⟩
    rw [CommandLoop.enableLogging, bind_of_eq hget]
    simp only [hsupported]
    rfl
  | some path =>
    cases hopen : openFile path with
    | error cause =>
      refine ⟨s, [], (List.append_nil _).symm, rfl, rfl, ?_, by rw [hopen]⟩
      rw [CommandLoop.enableLogging, bind_of_eq hget]
      simp only [hsupported, hopen]
      rfl
    | ok _ =>
      obtain ⟨acts, h⟩ := manner_untold.stretch_log
        { level := .debug
          target := Scene.frontEndTarget
          text := "engine log redirected to " ++ path }
        { s with
          trace := s.trace ++ [.openedLog path]
          switch := s.switch.routeEngine .file }
      refine ⟨_, .openedLog path :: acts, ?_, h.contacts, h.grows.mode, ?_, ?_⟩
      · rw [h.grows.trace, List.append_assoc]
        rfl
      · rw [CommandLoop.enableLogging, bind_of_eq hget]
        simp only [hsupported, hopen]
        rfl
      · rw [hopen]
        exact h.grows.switch

theorem enableLogging_spec (hmode : l.stage.scene.mode = c.mode) (hvalid : c.validate = .ok ()) :
    ∃ l', enableLogging w c l = ((logSetUp w c).mapError .config, l') ∧ Part l [] [] l' ∧
      l'.stops = l.stops ∧ l'.stage.engine = l.stage.engine ∧
      l'.stage.scene.switch = match logSetUp w c with
        | .ok _ => routed c l.stage.scene.switch
        | .error _ => l.stage.scene.switch := by
  rw [enableLogging, logSetUp, routed]
  cases hlogging : c.engineLogging with
  | none => exact ⟨l, rfl, .refl l, rfl, rfl, rfl⟩
  | some logging =>
    have hdap : l.stage.scene.mode = .dap := by
      rw [hmode]
      rw [Config.validate, hlogging] at hvalid
      cases hm : c.mode <;> simp [hm] at hvalid ⊢
    obtain ⟨path⟩ := logging
    obtain ⟨scene, acts, htrace, hacts, hmode', hresult⟩ :=
      enableLogging_scene w.openLog path hdap
    have hpart : Part l [] [] { l with stage := { l.stage with scene } } :=
      ⟨(List.append_nil _).symm, hmode', acts, htrace, hacts⟩
    refine ⟨{ l with stage := { l.stage with scene } }, ?_, hpart, rfl, rfl, ?_⟩
    · cases path with
      | none =>
        simp only [bind_of_eq (onStage_of_eq (onScene_of_eq hresult.1))]
        rfl
      | some path =>
        simp only [bind_of_eq (onStage_of_eq (onScene_of_eq hresult.1))]
        rfl
    · cases path with
      | none => exact hresult.2
      | some path =>
        refine hresult.2.trans ?_
        simp only
        cases w.openLog path <;> rfl

theorem startRedirect_of_ok (E : Engine σ) (l : Life σ) (h : w.startServer c.port = .ok ()) :
    ∃ l', startRedirect E w c l = (.ok (), l') ∧
      Span l [.redirectActive] [.told .redirectOutput] l' ∧
      l'.stage.engine = E.notice .redirectOutput l.stage.engine := by
  have htold := span_tell E .redirectOutput l
  rw [startRedirect, h]
  cases huses : E.usesCapture with
  | true =>
    let stage := (CommandLoop.tell E .redirectOutput l.stage).2
    let l₁ : Life σ :=
      { l with stage := { stage with scene := { stage.scene with capture := some {} } } }
    have hcapture : Span l [] [.told .redirectOutput] l₁ :=
      ⟨⟨htold.history, htold.mode, htold.acts⟩, htold.switch, htold.stops⟩
    exact ⟨_, rfl, hcapture.trans (span_enter .redirectActive l₁), rfl⟩
  | false => exact ⟨_, rfl, htold.trans (span_enter .redirectActive _), rfl⟩

theorem redirectIfAsked_spec (E : Engine σ) (w : Surroundings) (c : Config) (l : Life σ) :
    match redirectStart w c with
    | .error e => redirectIfAsked E w c l = (.error (.redirect e), l)
    | .ok _ => ∃ l', redirectIfAsked E w c l = (.ok (), l') ∧
        Span l (if c.redirects then [.redirectActive] else [])
          (if c.redirects then [.told .redirectOutput] else []) l' ∧
        l'.stage.engine =
          (if c.redirects then E.notice .redirectOutput l.stage.engine else l.stage.engine) := by
  rw [redirectStart]
  cases hredirects : c.redirects with
  | false =>
    refine ⟨l, ?_, .refl l, rfl⟩
    rw [redirectIfAsked, if_neg (by simp [hredirects])]
    rfl
  | true =>
    rw [redirectIfAsked, if_pos hredirects, if_pos rfl]
    cases hstart : w.startServer c.port with
    | error e =>
      show startRedirect E w c l = _
      rw [startRedirect, hstart]
      rfl
    | ok _ => exact startRedirect_of_ok E l hstart

theorem attachIfAsked_spec (E : Engine σ) (c : Config) (l : Life σ) :
    ∃ l', Span l (if c.attachPid.isSome then [.attaching] else [])
        ((attached E c l.stage.engine).2.exchanges.map fun x => .called x.call) l' ∧
      l'.stage.engine = (attached E c l.stage.engine).2.engine ∧
      match (attached E c l.stage.engine).1 with
      | .ok _ => attachIfAsked E c l = (.ok (), l')
      | .error e => ∃ pid step front x, attachIfAsked E c l = (.error (.attach step pid e), l') ∧
          c.attachPid = some pid ∧ (attached E c l.stage.engine).2.exchanges = front ++ [x] ∧
          x.call = step.call pid := by
  rw [attached, attachIfAsked]
  cases hpid : c.attachPid with
  | none => exact ⟨l, .refl l, rfl, rfl⟩
  | some pid =>
    have henter : enter .attaching l = ((), (enter .attaching l).2) := rfl
    have hengine : (enter .attaching l).2.stage.engine = l.stage.engine := rfl
    obtain ⟨l', told, made, result, htold, hresult, hattached, hspan⟩ :=
      attach_spec E pid (enter .attaching l).2
    rw [hengine] at htold
    simp only [htold, bind_of_eq henter, hresult]
    refine ⟨l', (span_enter .attaching l).trans hspan, rfl, ?_⟩
    cases hattached with
    | done => rfl
    | failed front h => exact ⟨pid, _, front, _, rfl, rfl, rfl, h⟩

end Session
end DebugSession
