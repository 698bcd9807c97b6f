/-
A front end and its client over a whole input.  Each message is a turn: the entries that bring it
are taken, then it is answered.  If every turn from a good run does what it should, the loop is a
conversation of such turns, one for each message, up to the one after which the client leaves.
-/
import DebugSession.FrontEnd
import DebugSession.Proofs.Framing.Exact
import DebugSession.Proofs.Scene

namespace DebugSession

variable {σ D M S A : Type}

/-- What a front end does for one message. -/
structure Turn (A : Type) where
  taken : List Arrival
  acts : List Action
  answer : A

/-- Turns for the messages in order, from one standing to another: for all of them, or for those up
to the one after which the client leaves. -/
inductive Conversation (Answers : M → S → Turn A → Flow → S → Prop) :
    List M → S → List (Turn A) → Flow → S → Prop where
  | done (s : S) : Conversation Answers [] s [] .goOn s
  | left {m : M} {later : List M} {s s' : S} {t : Turn A} :
    Answers m s t .leave s' → Conversation Answers (m :: later) s [t] .leave s'
  | goOn {m : M} {later : List M} {s s' s'' : S} {t : Turn A} {ts : List (Turn A)} {f : Flow} :
    Answers m s t .goOn s' → Conversation Answers later s' ts f s'' →
      Conversation Answers (m :: later) s (t :: ts) f s''

namespace Conversation

variable {Answers : M → S → Turn A → Flow → S → Prop} {ms : List M} {s s' : S}
  {ts : List (Turn A)}

/-- Whoever stays to the end has an answer to every message. -/
theorem length_eq (h : Conversation Answers ms s ts .goOn s') : ts.length = ms.length := by
  generalize hf : Flow.goOn = f at h
  induction h with
  | done => rfl
  | left => exact Flow.noConfusion hf
  | goOn _ _ ih => rw [List.length_cons, List.length_cons, ih hf]

theorem forall_turn {f : Flow} {p : Turn A → Prop} (h : Conversation Answers ms s ts f s')
    (hp : ∀ m s t f s', Answers m s t f s' → p t) : ∀ t ∈ ts, p t := by
  induction h with
  | done => exact fun t ht => absurd ht List.not_mem_nil
  | left ht => exact List.forall_mem_singleton.2 (hp _ _ _ _ _ ht)
  | goOn ht _ ih => exact List.forall_mem_cons.2 ⟨hp _ _ _ _ _ ht, ih⟩

/-- If the client leaves with the messages that have `Leaves`, it is answered up to the first of
them, or to the end if there is none. -/
theorem ends (Leaves : M → Prop) {f : Flow}
    (hleaves : ∀ m s t f s', Answers m s t f s' → (f = .leave ↔ Leaves m))
    (h : Conversation Answers ms s ts f s') :
    (f = .leave → ∃ front m later, ms = front ++ m :: later ∧ (∀ m ∈ front, ¬ Leaves m) ∧
      Leaves m ∧ ts.length = front.length + 1) ∧
    (f = .goOn → (∀ m ∈ ms, ¬ Leaves m) ∧ ts.length = ms.length) := by
  induction h with
  | done => exact ⟨fun hf => Flow.noConfusion hf, fun _ => ⟨fun _ hm => absurd hm List.not_mem_nil, rfl⟩⟩
  | @left m later _ _ _ ht =>
    have hm : Leaves m := (hleaves _ _ _ _ _ ht).1 rfl
    exact ⟨fun _ => ⟨[], m, later, rfl, fun _ hmem => absurd hmem List.not_mem_nil, hm, rfl⟩,
      fun hf => Flow.noConfusion hf⟩
  | @goOn m later _ _ _ _ _ f ht _ ih =>
    have hm : ¬ Leaves m := fun hm => Flow.noConfusion ((hleaves _ _ _ _ _ ht).2 hm)
    refine ⟨fun hf => ?_, fun hf => ?_⟩
    · obtain ⟨front, m', later', rfl, hfront, hm', hlength⟩ := ih.1 hf
      exact ⟨m :: front, m', later', rfl, List.forall_mem_cons.2 ⟨hm, hfront⟩, hm',
        congrArg (· + 1) hlength⟩
    · obtain ⟨hlater, hlength⟩ := ih.2 hf
      exact ⟨List.forall_mem_cons.2 ⟨hm, hlater⟩, congrArg (· + 1) hlength⟩

end Conversation

namespace Run

/-- The run after entries of the input were taken. -/
def shown (r : Run σ D) (as : List Arrival) : Run σ D :=
  { r with scene := (as.forM Scene.take r.scene).2 }

/-- The run after a text was written. -/
def wrote (r : Run σ D) (text : String) : Run σ D :=
  { r with scene := (Scene.write .reply text r.scene).2 }

theorem onScene_write (text : String) {r : Run σ D} (hw : ∀ n, r.scene.writeError n = none) :
    Run.onScene (Scene.write .reply text) r = (.ok (), r.wrote text) := by
  have hwrite := Scene.write_of_none (hw r.scene.writes) .reply text
  show ((Scene.write .reply text r.scene).1, r.wrote text) = _
  rw [hwrite]

theorem stretch_wrote (text : String) {r : Run σ D} (hw : ∀ n, r.scene.writeError n = none) :
    Scene.Stretch (fun _ _ _ => True) [] [] [text] r.scene [.wrote .reply text]
      (r.wrote text).scene := by
  rw [wrote, Scene.write_of_none (hw r.scene.writes)]
  exact ⟨⟨rfl, rfl, rfl, rfl⟩, rfl, rfl, rfl, trivial⟩

/-- The run after a talk with the engine. -/
def conversed (r : Run σ D) (desk : D) (talk : Talk σ) : Run σ D :=
  { desk, scene := (talk.exchanges.forM Scene.exchange r.scene).2, engine := talk.engine }

theorem converse_of_eq {α : Type} {work : D → StateM (Talk σ) (α × D)} {r : Run σ D} {a : α}
    {desk : D} {talk : Talk σ}
    (h : (work r.desk).run { engine := r.engine } = ((a, desk), talk)) :
    Run.converse work r = (a, r.conversed desk talk) := by
  simp only [converse, h]
  rfl

end Run

namespace FrontEnd

variable {F : FrontEnd σ D M}

/-- The run after the client was invited to send a message. -/
def invited (F : FrontEnd σ D M) (r : Run σ D) : Run σ D := (Run.onScene F.invite r).2

/-- A front end that invites nobody goes on as it is. -/
theorem onScene_invite (hinvite : F.invite = pure (.ok ())) (r : Run σ D) :
    Run.onScene F.invite r = (.ok (), r) := by
  rw [hinvite]
  rfl

theorem serve_of_end {r : Run σ D} (hinvite : (Run.onScene F.invite r).1 = .ok ())
    {reading : Reading M} {ending : Except String Unit}
    (h : reading.outcome = ending.map fun _ => none) (later : List (Reading M)) :
    F.serve (reading :: later) r = (ending, (F.invited r).shown reading.taken) := by
  have hinvited : Run.onScene F.invite r = (.ok (), F.invited r) := Prod.ext hinvite rfl
  rw [serve, bind_of_eq hinvited]
  cases ending with
  | ok _ =>
    have hnone : reading.outcome = .ok none := h
    simp only [hnone]
    rfl
  | error e =>
    have herror : reading.outcome = .error e := h
    simp only [herror]
    rfl

theorem serve_of_message {r : Run σ D} (hinvite : (Run.onScene F.invite r).1 = .ok ())
    {reading : Reading M} {m : M} (h : reading.outcome = .ok (some m)) (later : List (Reading M)) :
    F.serve (reading :: later) r =
      match F.answer m ((F.invited r).shown reading.taken) with
      | (.error e, r') => (.error e, r')
      | (.ok .leave, r') => (.ok (), r')
      | (.ok .goOn, r') => F.serve later r' := by
  have hinvited : Run.onScene F.invite r = (.ok (), F.invited r) := Prod.ext hinvite rfl
  have htake : Run.onScene (reading.taken.forM Scene.take) (F.invited r) =
      ((), (F.invited r).shown reading.taken) := rfl
  rw [serve, bind_of_eq hinvited]
  simp only [bind_of_eq htake, h]
  rcases hanswer : F.answer m ((F.invited r).shown reading.taken) with ⟨_ | f, r'⟩
  · rw [bind_of_eq hanswer]
    rfl
  · rw [bind_of_eq hanswer]
    cases f <;> rfl

/-- A loop that can invite the client and whose turns are sound is a conversation.  After a client
that leaves nothing more is taken; otherwise the entries that bring the end are taken too. -/
theorem serve_turns (Good : Run σ D → Prop)
    (hinvite : ∀ r, Good r → (Run.onScene F.invite r).1 = .ok ())
    (standing : Run σ D → S) (Answers : M → S → Turn A → Flow → S → Prop)
    (hturn : ∀ m taken r, Good r → ∃ f r' acts answer,
      F.answer m ((F.invited r).shown taken) = (.ok f, r') ∧ Good r' ∧
        r.scene.Grows acts r'.scene ∧
        Answers m (standing r) ⟨taken, acts, answer⟩ f (standing r'))
    {ms : List M} {ending : Except String Unit} {readings : List (Reading M)}
    (hreadings : readings.map Reading.outcome =
      ms.map (fun m => .ok (some m)) ++ [ending.map fun _ => none])
    {r : Run σ D} (hr : Good r) :
    ∃ turns f mid, Conversation Answers ms (standing r) turns f (standing mid) ∧ Good mid ∧
      r.scene.Grows (turns.flatMap Turn.acts) mid.scene ∧
      (f = .leave ∧ F.serve readings r = (.ok (), mid) ∧
          turns.map Turn.taken <+: readings.map Reading.taken ∨
        f = .goOn ∧ ∃ last, F.serve readings r = (ending, (F.invited mid).shown last) ∧
          turns.map Turn.taken ++ [last] = readings.map Reading.taken) := by
  induction ms generalizing readings r with
  | nil =>
    -- The one reading that is left brings the end of the input.
    obtain ⟨reading, rfl, hend⟩ := List.map_eq_singleton_iff.1 hreadings
    refine ⟨[], .goOn, r, .done _, hr, .refl _, .inr ⟨rfl, reading.taken, ?_, rfl⟩⟩
    exact serve_of_end (hinvite r hr) hend []
  | cons m ms ih =>
    obtain ⟨reading, later, rfl, hmessage, hlater⟩ := List.map_eq_cons_iff.1 hreadings
    obtain ⟨f, r', acts, answer, hanswer, hr', hgrows, hAnswers⟩ := hturn m reading.taken r hr
    have hserve := serve_of_message (hinvite r hr) hmessage later
    rw [hanswer] at hserve
    cases f with
    | leave =>
      refine ⟨[⟨reading.taken, acts, answer⟩], .leave, r', .left hAnswers, hr', ?_,
        .inl ⟨rfl, hserve, ?_⟩⟩
      · rw [List.flatMap_singleton]
        exact hgrows
      · exact List.cons_prefix_cons.2 ⟨rfl, List.nil_prefix⟩
    | goOn =>
      obtain ⟨turns, f, mid, hconversation, hmid, htrace, hend⟩ := ih hlater hr'
      refine ⟨⟨reading.taken, acts, answer⟩ :: turns, f, mid, .goOn hAnswers hconversation, hmid,
        hgrows.trans htrace, ?_⟩
      rw [show F.serve (reading :: later) r = F.serve later r' from hserve]
      rcases hend with ⟨hf, hresult, htaken⟩ | ⟨hf, last, hresult, htaken⟩
      · exact .inl ⟨hf, hresult, List.cons_prefix_cons.2 ⟨rfl, htaken⟩⟩
      · exact .inr ⟨hf, last, hresult, congrArg (reading.taken :: ·) htaken⟩

/-- The conversation of a front end that invites nobody. -/
theorem serve_conversation (hinvite : F.invite = pure (.ok ())) (Good : Run σ D → Prop)
    (standing : Run σ D → S) (Answers : M → S → Turn A → Flow → S → Prop)
    (hturn : ∀ m taken r, Good r → ∃ f r' acts answer,
      F.answer m (r.shown taken) = (.ok f, r') ∧ Good r' ∧ r.scene.Grows acts r'.scene ∧
        Answers m (standing r) ⟨taken, acts, answer⟩ f (standing r'))
    {ms : List M} {ending : Except String Unit} {readings : List (Reading M)}
    (hreadings : readings.map Reading.outcome =
      ms.map (fun m => .ok (some m)) ++ [ending.map fun _ => none])
    {r : Run σ D} (hr : Good r) :
    ∃ turns f mid, Conversation Answers ms (standing r) turns f (standing mid) ∧ Good mid ∧
      r.scene.Grows (turns.flatMap Turn.acts) mid.scene ∧
      (f = .leave ∧ F.serve readings r = (.ok (), mid) ∧
          turns.map Turn.taken <+: readings.map Reading.taken ∨
        f = .goOn ∧ ∃ last, F.serve readings r = (ending, mid.shown last) ∧
          turns.map Turn.taken ++ [last] = readings.map Reading.taken) := by
  have hinvited : ∀ r, F.invited r = r := fun r => congrArg Prod.snd (onScene_invite hinvite r)
  have hserve := serve_turns (F := F) Good (fun r _ => congrArg Prod.fst (onScene_invite hinvite r))
    standing Answers (by simpa only [hinvited] using hturn) hreadings hr
  simpa only [hinvited] using hserve

/-- What holds before a loop and is kept by inviting, by taking entries and by every answer holds
after it, however the loop ends. -/
theorem serve_keeps (Holds : Run σ D → Prop) (hinvite : ∀ r, Holds r → Holds (F.invited r))
    (htake : ∀ as r, Holds r → Holds (r.shown as))
    (hanswer : ∀ m r, Holds r → Holds (F.answer m r).2) (readings : List (Reading M))
    {r : Run σ D} (hr : Holds r) : Holds (F.serve readings r).2 := by
  induction readings generalizing r with
  | nil => exact hr
  | cons reading later ih =>
    have hinvited := hinvite r hr
    have htaken := htake reading.taken _ hinvited
    cases hgreet : (Run.onScene F.invite r).1 with
    | error e =>
      have hresult : Run.onScene F.invite r = (.error e, F.invited r) := Prod.ext hgreet rfl
      rw [serve, bind_of_eq hresult]
      exact hinvited
    | ok _ =>
      cases hm : reading.outcome with
      | error e =>
        have hend : reading.outcome = (Except.error e).map fun (_ : Unit) => none := hm
        rw [serve_of_end hgreet hend]
        exact htaken
      | ok m =>
        cases m with
        | none =>
          have hend : reading.outcome = (Except.ok ()).map fun (_ : Unit) => none := hm
          rw [serve_of_end hgreet hend]
          exact htaken
        | some m =>
          have hanswered := hanswer m _ htaken
          rw [serve_of_message hgreet hm]
          generalize F.answer m ((F.invited r).shown reading.taken) = result at hanswered
          obtain ⟨_ | f, r'⟩ := result
          · exact hanswered
          · cases f with
            | leave => exact hanswered
            | goOn => exact ih hanswered

end FrontEnd
end DebugSession
