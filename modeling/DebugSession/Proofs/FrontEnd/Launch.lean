/-
Programs that a client has started, over a whole run.  What a message asks to start depends on the
messages before it, also on those that failed; its turn makes the calls for it, and nothing else
launches a program.
-/
import DebugSession.Proofs.FrontEnd.Answer
import DebugSession.Proofs.FrontEnd.Talk

namespace DebugSession

open DebugSession.Action (arrivals calls tried)
open Scene (Gives Passes)

variable {σ D M X : Type}

/-- How a client has a program started. -/
structure Starter (M : Type) where
  /-- What a message asks to start after the messages before it, or why there is nothing to start.
  None if it asks for something else. -/
  wish : List M → M → Option (Except String LaunchTarget)
  /-- The calls behind a launch that succeeds. -/
  later : List Call
  /-- The answers from which the client learns why nothing is started. -/
  refusal : M → String → List String → Prop
  /-- Whether the client may leave with a message. -/
  leaves : M → Prop

namespace Starter

/-- The calls for a message are those that it asks for, from an engine as it is before them. -/
structure Heeds (S : Starter M) (E : Engine σ) (past : List M) (m : M) (engine : σ)
    (called : List Call) (said : List String) : Prop where
  started : ∀ t, S.wish past m = some (.ok t) → called = E.starting t S.later engine
  refused : ∀ reason, S.wish past m = some (.error reason) → called = [] ∧ S.refusal m reason said
  other : S.wish past m = none → ∀ c ∈ called, c.target? = none

section Heeds

variable {S : Starter M} {E : Engine σ} {past : List M} {m : M} {engine : σ} {called : List Call}
  {said : List String}

theorem heeds_of_ok {t : LaunchTarget} (h : S.wish past m = some (.ok t)) :
    S.Heeds E past m engine (E.starting t S.later engine) said where
  started t' h' := by
    obtain rfl := Except.ok.inj (Option.some.inj (h.symm.trans h'))
    rfl
  refused _ h' := nomatch h.symm.trans h'
  other h' := nomatch h.symm.trans h'

theorem heeds_of_error {reason : String} (h : S.wish past m = some (.error reason))
    (hsaid : S.refusal m reason said) : S.Heeds E past m engine [] said where
  started _ h' := nomatch h.symm.trans h'
  refused reason' h' := by
    obtain rfl := Except.error.inj (Option.some.inj (h.symm.trans h'))
    exact ⟨rfl, hsaid⟩
  other h' := nomatch h.symm.trans h'

theorem heeds_of_none (h : S.wish past m = none) (hcalled : ∀ c ∈ called, c.target? = none) :
    S.Heeds E past m engine called said where
  started _ h' := nomatch h.symm.trans h'
  refused _ h' := nomatch h.symm.trans h'
  other _ := hcalled

end Heeds

/-- What the turn of a message comes to, given the messages and the engine before it. -/
structure Answers (S : Starter M) (E : Engine σ) (m : M) (before : List M × σ)
    (t : Turn (List String)) (f : Flow) (after : List M × σ) : Prop where
  shown : arrivals t.acts = t.taken
  tried : tried t.acts = t.answer
  heeds : S.Heeds E before.1 m before.2 (calls t.acts) t.answer
  ends : f = .leave → S.leaves m ∨ ¬ Unlost t.acts
  after : after = (before.1 ++ [m], E.after (calls t.acts) before.2)

/-- What a loop does falls into the turns of its messages, and it calls the engine nowhere else.  It
has a turn for every message up to the one that ends it, unless it loses a text of its own. -/
structure Turns (S : Starter M) (E : Engine σ) (ms : List M) (taken : List (List Arrival))
    (before : List M × σ) (turns : List (Turn (List String))) (apart : List Action) : Prop where
  calls : calls apart = []
  taken : turns.map Turn.taken <+: taken
  answered : ∃ heard f after, heard <+: ms ∧
    Conversation (S.Answers E) heard before turns f after ∧
    (f = .goOn → heard = ms ∨ ¬ Unlost apart)

namespace Turns

variable {S : Starter M} {E : Engine σ} {m : M} {ms : List M} {taken : List (List Arrival)}
  {before after : List M × σ} {t : Turn (List String)} {turns : List (Turn (List String))}
  {apart : List Action}

theorem none (hcalls : Action.calls apart = []) (h : ms = [] ∨ ¬ Unlost apart) :
    S.Turns E ms taken before [] apart :=
  ⟨hcalls, List.nil_prefix, [], .goOn, before, List.nil_prefix, .done before,
    fun _ => h.imp_left Eq.symm⟩

theorem last (h : S.Answers E m before t .leave after) :
    S.Turns E (m :: ms) (t.taken :: taken) before [t] [] :=
  ⟨rfl, List.cons_prefix_cons.2 ⟨rfl, List.nil_prefix⟩, [m], .leave, after,
    List.cons_prefix_cons.2 ⟨rfl, List.nil_prefix⟩, .left h, fun hf => Flow.noConfusion hf⟩

theorem cons (h : S.Answers E m before t .goOn after)
    (hturns : S.Turns E ms taken after turns apart) :
    S.Turns E (m :: ms) (t.taken :: taken) before (t :: turns) apart := by
  obtain ⟨heard, f, final, hheard, hconversation, hall⟩ := hturns.answered
  exact ⟨hturns.calls, List.cons_prefix_cons.2 ⟨rfl, hturns.taken⟩, m :: heard, f, final,
    List.cons_prefix_cons.2 ⟨rfl, hheard⟩, .goOn h hconversation,
    fun hf => (hall hf).imp_left (congrArg (m :: ·))⟩

/-- What happens before the turns changes nothing, if it makes no call. -/
theorem opened (hturns : S.Turns E ms taken before turns apart) {more : List Action}
    (h : Action.calls more = []) : S.Turns E ms taken before turns (more ++ apart) := by
  obtain ⟨heard, f, final, hheard, hconversation, hall⟩ := hturns.answered
  refine ⟨?_, hturns.taken, heard, f, final, hheard, hconversation, fun hf => ?_⟩
  · rw [Action.calls_append, h, hturns.calls]
    rfl
  · exact (hall hf).imp_right (not_unlost_append _)

end Turns

/-- What is added to a trace are the turns of the messages in the input, what comes before the first
of them and what comes after the last. -/
def Governs (S : Starter M) (E : Engine σ) (framing : Framing X M) (input : List Arrival)
    (engine : σ) (before after : List Action) : Prop :=
  ∃ opening turns closing, after = before ++ opening ++ turns.flatMap Turn.acts ++ closing ∧
    S.Turns E (framing.heard input).1 ((framing.readings input).map Reading.taken) ([], engine)
      turns (opening ++ closing)

section Governs

variable {S : Starter M} {E : Engine σ} {framing : Framing X M} {input : List Arrival} {engine : σ}
  {s s' s'' : Scene}

theorem Turns.governs {turns : List (Turn (List String))} {closing : List Action}
    (hturns : S.Turns E (framing.heard input).1 ((framing.readings input).map Reading.taken)
      ([], engine) turns closing)
    (hgrows : s.Grows (turns.flatMap Turn.acts ++ closing) s') :
    S.Governs E framing input engine s.trace s'.trace := by
  refine ⟨[], turns, closing, ?_, hturns⟩
  rw [hgrows.trace, List.append_nil, List.append_assoc]

/-- A loop that calls nothing before its turns. -/
theorem Governs.opened {opening : List Action} (hopening : s.Grows opening s')
    (hcalls : calls opening = []) (h : S.Governs E framing input engine s'.trace s''.trace) :
    S.Governs E framing input engine s.trace s''.trace := by
  obtain ⟨more, turns, closing, htrace, hturns⟩ := h
  refine ⟨opening ++ more, turns, closing, ?_, ?_⟩
  · rw [htrace, hopening.trace]
    simp only [List.append_assoc]
  · rw [List.append_assoc]
    exact hturns.opened hcalls

end Governs
end Starter

/-- The last setting, once one more message was heard. -/
theorem getLast?_filterMap_concat (set? : M → Option X) (past : List M) (m : M) :
    ((past ++ [m]).filterMap set?).getLast? = (set? m).or (past.filterMap set?).getLast? := by
  rw [List.filterMap_append, List.getLast?_append]
  cases h : set? m <;> simp [h]

namespace FrontEnd

variable {F : FrontEnd σ D M}

theorem serve_of_uninvited {r : Run σ D} {e : String}
    (hinvite : (Run.onScene F.invite r).1 = .error e) (reading : Reading M)
    (later : List (Reading M)) : F.serve (reading :: later) r = (.error e, F.invited r) := by
  have hresult : Run.onScene F.invite r = (.error e, F.invited r) := Prod.ext hinvite rfl
  rw [serve, bind_of_eq hresult]
  rfl

section Loop

variable {S : Starter M} {E : Engine σ} {greeting : List String}

/-- How a loop goes on after an answer. -/
def flowOf : Except String Flow → Flow
  | .ok f => f
  | .error _ => .leave

/-- The client is invited with these texts, and without a call. -/
def Greets (F : FrontEnd σ D M) (greeting : List String) : Prop := ∀ s, Gives F.invite greeting s

/-- A loop that hears no message makes no call. -/
theorem serve_unheard (hinvite : F.Greets greeting) (reading : Reading M)
    {ending : Except String Unit} (h : reading.outcome = ending.map fun _ => none)
    (later : List (Reading M)) (r : Run σ D) :
    ∃ acts, r.scene.Grows acts (F.serve (reading :: later) r).2.scene ∧ calls acts = [] := by
  obtain ⟨greeted, hgreeted, -⟩ := hinvite r.scene
  cases hresult : (Run.onScene F.invite r).1 with
  | error e =>
    rw [serve_of_uninvited hresult]
    exact ⟨greeted, hgreeted.grows, hgreeted.calls⟩
  | ok _ =>
    obtain ⟨showing, hshown⟩ := Passes.takeAll reading.taken (F.invited r).scene
    have hall := hgreeted.trans hshown
    rw [serve_of_end hresult h]
    exact ⟨_, hall.grows, hall.calls⟩

/-- The turn of a message, from the invitation on. -/
theorem answers_turn (hinvite : F.Greets greeting) {past : List M} {m : M} (taken : List Arrival)
    {r : Run σ D} {called : List Call} {said : List String} {flow : Flow} {desk : D}
    (hdoes : Does (F.answer m) ((F.invited r).shown taken) called said flow
      (desk, E.after called r.engine))
    (hheeds : S.Heeds E past m r.engine called (greeting ++ said))
    (hleaves : flow = .leave → S.leaves m) :
    ∃ acts, r.scene.Grows acts (F.answer m ((F.invited r).shown taken)).2.scene ∧
      S.Answers E m (past, r.engine) ⟨taken, acts, greeting ++ said⟩
        (flowOf (F.answer m ((F.invited r).shown taken)).1)
        (past ++ [m], (F.answer m ((F.invited r).shown taken)).2.engine) := by
  obtain ⟨greeted, hgreeted, -⟩ := hinvite r.scene
  obtain ⟨showing, hshown⟩ := Passes.takeAll taken (F.invited r).scene
  obtain ⟨acts, hanswered, hresult⟩ := hdoes.acts
  have hall := (hgreeted.trans hshown).trans hanswered
  simp only [List.append_nil, List.nil_append] at hall
  have hengine : (F.answer m ((F.invited r).shown taken)).2.engine = E.after called r.engine :=
    congrArg Prod.snd hdoes.after
  refine ⟨_, hall.grows, hall.arrivals, hall.tried, ?_, fun hleave => ?_, ?_⟩
  · rw [hall.calls]
    exact hheeds
  · refine hresult.imp (fun hok => hleaves ?_) (not_unlost_append _)
    rw [hok] at hleave
    exact hleave
  · rw [hall.calls, hengine]

/-- What `Keeps` says of the desk and the messages so far holds on, so the desk starts what the
messages ask for. -/
theorem serve_starts (Keeps : List M → D → Prop) (hinvite : F.Greets greeting)
    (hanswer : ∀ past m r, Keeps past r.desk → ∃ called said flow desk,
      Does (F.answer m) r called said flow (desk, E.after called r.engine) ∧
        Keeps (past ++ [m]) desk ∧ S.Heeds E past m r.engine called (greeting ++ said) ∧
        (flow = .leave → S.leaves m))
    {ms : List M} {ending : Except String Unit} {readings : List (Reading M)}
    (hreadings : readings.map Reading.outcome =
      ms.map (fun m => .ok (some m)) ++ [ending.map fun _ => none])
    {past : List M} {r : Run σ D} (hr : Keeps past r.desk) :
    ∃ turns closing,
      r.scene.Grows (turns.flatMap Turn.acts ++ closing) (F.serve readings r).2.scene ∧
        S.Turns E ms (readings.map Reading.taken) (past, r.engine) turns closing := by
  induction ms generalizing readings past r with
  | nil =>
    obtain ⟨reading, rfl, hend⟩ := List.map_eq_singleton_iff.1 hreadings
    obtain ⟨closing, hgrows, hcalls⟩ := serve_unheard hinvite reading hend [] r
    exact ⟨[], closing, hgrows, .none hcalls (.inl rfl)⟩
  | cons m ms ih =>
    obtain ⟨reading, later, rfl, hmessage, hlater⟩ := List.map_eq_cons_iff.1 hreadings
    cases hgreet : (Run.onScene F.invite r).1 with
    | error e =>
      -- The client is not invited: the message is never heard.
      obtain ⟨closing, hgreeted, hlost⟩ := hinvite r.scene
      rw [serve_of_uninvited hgreet]
      exact ⟨[], closing, hgreeted.grows, .none hgreeted.calls
        (.inr (hlost.resolve_left fun hok => nomatch hgreet.symm.trans hok))⟩
    | ok _ =>
      obtain ⟨called, said, flow, desk, hdoes, hkeeps, hheeds, hleaves⟩ :=
        hanswer past m ((F.invited r).shown reading.taken) hr
      obtain ⟨acts, hgrows, hanswers⟩ :=
        answers_turn hinvite reading.taken hdoes hheeds hleaves
      have hdesk : (F.answer m ((F.invited r).shown reading.taken)).2.desk = desk :=
        congrArg Prod.fst hdoes.after
      rw [serve_of_message hgreet hmessage]
      generalize F.answer m ((F.invited r).shown reading.taken) = answered at *
      obtain ⟨_ | flow', r'⟩ := answered
      · exact ⟨[_], [], by simpa using hgrows, .last hanswers⟩
      · cases flow' with
        | leave =>
          exact ⟨[_], [], by simpa using hgrows, .last hanswers⟩
        | goOn =>
          obtain ⟨turns, closing, hlaterGrows, hturns⟩ := ih hlater (hdesk ▸ hkeeps)
          refine ⟨_ :: turns, closing, ?_, .cons hanswers hturns⟩
          rw [List.flatMap_cons, List.append_assoc]
          exact hgrows.trans hlaterGrows

end Loop
end FrontEnd
end DebugSession
