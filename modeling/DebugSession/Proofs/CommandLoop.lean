/-
A command loop has nothing to say to the engine but calls.  Whatever the client sends, whatever the
engine answers and however the loop ends, also when writing fails, the engine is given no notice.
-/
import DebugSession.Proofs.FrontEnd.Service
import DebugSession.Proofs.Scene

namespace DebugSession

open Scene (Grows Manner)

variable {σ D α β : Type}

/-- Actions in which the engine is given no notice. -/
def Untold (acts : List Action) : Prop := ∀ a ∈ acts, a.notice? = none

namespace Untold

theorem nil : Untold [] := fun _ ha => absurd ha List.not_mem_nil

theorem singleton {a : Action} (h : a.notice? = none) : Untold [a] := List.forall_mem_singleton.2 h

theorem append {a b : List Action} (ha : Untold a) (hb : Untold b) : Untold (a ++ b) :=
  List.forall_mem_append.2 ⟨ha, hb⟩

theorem written {a : Action} {origin : Origin} {text : String}
    (h : a = .wrote origin text ∨ ∃ e, a = .lost origin text e) : Untold [a] := by
  rcases h with rfl | ⟨e, rfl⟩ <;> exact singleton rfl

end Untold

theorem manner_untold : Manner fun _ acts _ => Untold acts where
  nil _ := .nil
  append _ h h' := h.append h'
  silent _ _ h := .singleton h
  reported e s acts hgrows := by
    obtain ⟨a, text, ha, hreport⟩ := Scene.grows_report e s
    rw [hgrows.eq hreport]
    exact .written ha
  logged r s acts hgrows := by
    rcases Scene.grows_log r s with hlog | ⟨a, -, -, -, ha, hlog⟩
    · rw [hgrows.eq hlog]
      exact .nil
    · rw [hgrows.eq hlog]
      exact .singleton ha
  captured _ _ := .nil

/-! ## Quiet work -/

/-- Work that gives the engine no notice. -/
def Quiet (work : StateM (Run σ D) α) : Prop :=
  ∀ r : Run σ D, ∃ acts, r.scene.Grows acts (work r).2.scene ∧ Untold acts

namespace Quiet

theorem pure (a : α) : Quiet (pure a : StateM (Run σ D) α) := fun r => ⟨[], .refl r.scene, .nil⟩

theorem bind {work : StateM (Run σ D) α} {next : α → StateM (Run σ D) β} (h : Quiet work)
    (hnext : ∀ a, Quiet (next a)) : Quiet (work >>= next) := by
  intro r
  obtain ⟨acts, hgrows, hacts⟩ := h r
  obtain ⟨more, hmore, hlater⟩ := hnext (work r).1 (work r).2
  exact ⟨acts ++ more, hgrows.trans hmore, hacts.append hlater⟩

theorem write (origin : Origin) (text : String) :
    Quiet (Run.onScene (Scene.write origin text) : StateM (Run σ D) (Except String Unit)) := by
  intro r
  obtain ⟨a, ha, hgrows⟩ := Scene.grows_write origin text r.scene
  exact ⟨[a], hgrows, .written ha⟩

/-- A text that uses up a number is written like any other. -/
theorem writeNumbered (origin : Origin) (text : Nat → String) :
    Quiet (Run.onScene (do Scene.write origin (text (← Scene.nextSeq))) :
      StateM (Run σ D) (Except String Unit)) := by
  intro r
  obtain ⟨a, ha, hgrows⟩ := Scene.grows_write origin (text (r.scene.seq + 1))
    { r.scene with seq := r.scene.seq + 1 }
  exact ⟨[a], ⟨hgrows.trace, hgrows.mode, hgrows.writeError, hgrows.switch⟩, .written ha⟩

theorem log (level : Log.Level) (text : String) :
    Quiet (Run.onScene (Scene.logFrontEnd level text) : StateM (Run σ D) Unit) := by
  intro r
  obtain ⟨acts, h⟩ := manner_untold.stretch_log
    { level, target := Scene.frontEndTarget, text } r.scene
  exact ⟨acts, h.grows, h.manner⟩

theorem converse (talk : D → StateM (Talk σ) (α × D)) : Quiet (Run.converse talk) := by
  intro r
  obtain ⟨acts, h⟩ :=
    manner_untold.stretch_exchanges ((talk r.desk).run { engine := r.engine }).2.exchanges r.scene
  exact ⟨acts, h.grows, h.manner⟩

theorem takeAll (as : List Arrival) :
    Quiet (Run.onScene (as.forM Scene.take) : StateM (Run σ D) Unit) := by
  intro r
  obtain ⟨acts, h⟩ := manner_untold.stretch_takeAll as r.scene
  exact ⟨acts, h.grows, h.manner⟩

end Quiet

theorem Service.quiet {work : StateM (Run σ D) (Except String α)} (h : Service work) :
    Quiet work := by
  induction h with
  | result a => exact .pure a
  | write text => exact .write .reply text
  | writeNumbered text => exact .writeNumbered .reply text
  | log level text _ ih => exact (Quiet.log level text).bind fun _ => ih
  | take as _ ih => exact (Quiet.takeAll as).bind fun _ => ih
  | converse talk _ ih => exact (Quiet.converse talk).bind ih
  | bind _ _ herror ih hok =>
    refine ih.bind fun a => ?_
    cases a with
    | ok a => exact hok a
    | error e =>
      rw [herror]
      exact .pure _

namespace CommandLoop

theorem quiet_withDesk {desk : D} {work : StateM (Run σ D) α} (h : Quiet work) :
    Quiet (Run.withDesk desk work) := fun r => h { r with desk }

theorem quiet_serve (E : Engine σ) (preset : Option LaunchTarget) (input : List Arrival)
    (mode : Mode) : Quiet (serve E preset input mode) := by
  obtain ⟨D, desk, work, hserve, hwork⟩ := serve_eq_withDesk E preset input mode
  rw [hserve]
  exact quiet_withDesk hwork.quiet

/-- Serving a client only makes calls. -/
theorem quiet_run (E : Engine σ) (preset : Option LaunchTarget) (input : List Arrival) :
    Quiet (run E preset input) := by
  have hget : Quiet (get : StateM (Stage σ) (Stage σ)) := fun r => ⟨[], .refl r.scene, .nil⟩
  refine hget.bind fun r => (Quiet.log .info _).bind fun _ => ?_
  exact (quiet_serve E preset input r.scene.mode).bind fun result =>
    (Quiet.log .info _).bind fun _ => .pure _

end CommandLoop
end DebugSession
