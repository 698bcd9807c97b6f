/-
What the engine has started and not given up.  Only the monitor of the process in hand goes on; it
is cancelled with whatever takes the process out of hand.  A program that runs stays in hand until
the engine disconnects or lets go, and letting go kills it (`custody_kept`).
-/
import DebugSession.Proofs.Supervisor.Charge

namespace DebugSession
namespace Supervisor

variable {ω : Type}

/-! ## Monitors -/

/-- The processes that the monitors are for, and whether the monitors are cancelled. -/
def Hand.flags (h : Hand) : List (UInt32 × Bool) := h.monitors.map fun m => (m.pid, m.cancelled)

/-- The monitors that are not cancelled are just the one of the process in hand. -/
def Hand.Guarded (h : Hand) : Prop :=
  ∀ n pid, h.flags[n]? = some (pid, false) ↔ h.debugee = .attached pid (some n)

namespace Hand

variable {h h' : Hand}

theorem getElem?_flags_eq_some_iff {n : Nat} {pid : UInt32} {cancelled : Bool} :
    h.flags[n]? = some (pid, cancelled) ↔
      ∃ m : Monitor, h.monitors[n]? = some m ∧ m.pid = pid ∧ m.cancelled = cancelled := by
  rw [flags, List.getElem?_map, Option.map_eq_some_iff]
  simp only [Prod.mk.injEq]

namespace Guarded

theorem of_flags (hw : h.Guarded) (hflags : h'.flags = h.flags)
    (hdebugee : ∀ pid n, h'.debugee = .attached pid (some n) ↔ h.debugee = .attached pid (some n)) :
    h'.Guarded := by
  intro n pid
  rw [hflags, hw n pid, hdebugee]

/-- Where no process with a monitor is in hand, another such hand keeps the monitors. -/
theorem of_unwatched (hw : h.Guarded) (hflags : h'.flags = h.flags)
    (hold : ∀ pid n, h.debugee ≠ .attached pid (some n))
    (hnew : ∀ pid n, h'.debugee ≠ .attached pid (some n)) : h'.Guarded :=
  hw.of_flags hflags fun pid n =>
    ⟨fun hd => absurd hd (hnew pid n), fun hd => absurd hd (hold pid n)⟩

theorem start (hw : h.Guarded) {pid : UInt32} (hold : h.debugee = .attached pid none)
    (hflags : h'.flags = h.flags ++ [(pid, false)])
    (hdebugee : h'.debugee = .attached pid (some h.flags.length)) : h'.Guarded := by
  intro n other
  rw [hflags, hdebugee]
  constructor
  · intro hn
    rcases Nat.lt_trichotomy n h.flags.length with hlt | rfl | hlt
    · rw [List.getElem?_append_left hlt, hw, hold] at hn
      cases hn
    · rw [List.getElem?_concat_length] at hn
      cases hn
      rfl
    · rw [List.getElem?_eq_none (by simp; omega)] at hn
      cases hn
  · rintro ⟨⟩
    exact List.getElem?_concat_length

/-- There is one place at most for a monitor that is not cancelled. -/
theorem countP_le_one (hw : h.Guarded) : h.monitors.countP (fun m => !m.cancelled) ≤ 1 := by
  have hplace : ∀ (i j : Nat) (a b : Monitor), h.monitors[i]? = some a → h.monitors[j]? = some b →
      (!a.cancelled) = true → (!b.cancelled) = true → i = j := by
    intro i j a b ha hb hca hcb
    have hi := (hw i a.pid).1 (getElem?_flags_eq_some_iff.2 ⟨a, ha, rfl, by simpa using hca⟩)
    have hj := (hw j b.pid).1 (getElem?_flags_eq_some_iff.2 ⟨b, hb, rfl, by simpa using hcb⟩)
    exact Option.some.inj (Debugee.attached.inj (hi.symm.trans hj)).2
  generalize h.monitors = monitors at hplace
  induction monitors with
  | nil => exact Nat.zero_le 1
  | cons m monitors ih =>
    rw [List.countP_cons]
    split
    · next hm =>
      have hnone : monitors.countP (fun m => !m.cancelled) = 0 := by
        rw [List.countP_eq_zero]
        intro other hmem hother
        obtain ⟨j, hj⟩ := List.mem_iff_getElem?.1 hmem
        exact nomatch hplace 0 (j + 1) m other rfl hj hm hother
      omega
    · refine ih fun i j a b ha hb hca hcb => ?_
      exact Nat.succ.inj (hplace (i + 1) (j + 1) a b ha hb hca hcb)

end Guarded
end Hand

section Run

variable {s : State ω} {h : Hand}

/-- Giving the program up cancels the one monitor that was not. -/
theorem flags_givenUp_ne (hw : s.hand.Guarded) (n : Nat) (pid : UInt32) :
    s.givenUp.hand.flags[n]? ≠ some (pid, false) := by
  intro hn
  cases hdebugee : s.debugee with
  | attached other monitor =>
    cases monitor with
    | none =>
      have hsame : s.givenUp.hand.flags = s.hand.flags := by
        rw [State.givenUp, hdebugee]
        rfl
      rw [hsame, hw, State.hand_debugee, hdebugee] at hn
      cases hn
    | some k =>
      obtain ⟨m, hm, -, -⟩ := Hand.getElem?_flags_eq_some_iff.1 ((hw k other).2 hdebugee)
      have hset : s.givenUp.hand.flags = s.hand.flags.set k (m.pid, true) := by
        have hmonitor : s.monitors[k]? = some m := hm
        rw [State.givenUp, hdebugee]
        simp only [State.cancelMonitor, hmonitor]
        exact List.map_set
      rw [hset] at hn
      by_cases hk : k = n
      · subst hk
        obtain ⟨hlt, hval⟩ := List.getElem?_eq_some_iff.1 hn
        rw [List.getElem_set_self] at hval
        cases congrArg Prod.snd hval
      · rw [List.getElem?_set_ne hk, hw, State.hand_debugee, hdebugee] at hn
        exact hk (Option.some.inj (Debugee.attached.inj hn).2)
  | none | pending | launched =>
    have hsame : s.givenUp.hand.flags = s.hand.flags := by
      rw [State.givenUp, hdebugee]
      rfl
    rw [hsame, hw, State.hand_debugee, hdebugee] at hn
    cases hn

theorem guarded_of_givenUp (hw : s.hand.Guarded) (hflags : h.flags = s.givenUp.hand.flags)
    (hdebugee : h.debugee = .none) : h.Guarded := by
  intro n pid
  rw [hflags, hdebugee]
  exact ⟨fun hn => absurd hn (flags_givenUp_ne hw n pid), fun hd => nomatch hd⟩

theorem not_attached_of_livePid (hlive : s.livePid? = none) (pid : UInt32) (monitor : Option Nat) :
    s.debugee ≠ .attached pid monitor := by
  intro hd
  rw [State.livePid?, hd] at hlive
  cases hlive

theorem Dealt.guarded (hd : Dealt s h) (hw : s.hand.Guarded) : h.Guarded := by
  cases hd with
  | nothing => exact hw
  | found pid hlive =>
    exact hw.of_unwatched rfl (fun _ _ => not_attached_of_livePid hlive _ _) (fun _ _ => nofun)
  | planned program args hlive =>
    exact hw.of_unwatched rfl (fun _ _ => not_attached_of_livePid hlive _ _) (fun _ _ => nofun)
  | started pid hpending =>
    exact hw.of_unwatched rfl (fun _ _ hd => nomatch hpending.symm.trans hd) (fun _ _ => nofun)
  | failed hpending =>
    exact hw.of_unwatched rfl (fun _ _ hd => nomatch hpending.symm.trans hd) (fun _ _ => nofun)
  | dropped hlive =>
    exact hw.of_unwatched rfl (fun _ _ => not_attached_of_livePid hlive _ _) (fun _ _ => nofun)
  | @watched pid hattached =>
    refine hw.start hattached ?_ ?_
    · exact List.map_append
    · exact congrArg (fun n => Debugee.attached pid (some n)) (List.length_map _).symm
  | resumed | stopped => exact hw.of_flags rfl fun _ _ => Iff.rfl
  | killed | parted | left => exact guarded_of_givenUp hw rfl rfl

theorem Released.guarded (hr : Released s h) (hw : s.hand.Guarded) : h.Guarded := by
  cases hr <;> exact guarded_of_givenUp hw rfl rfl

theorem flags_setMonitor {n : Nat} {m m' : Monitor} (hm : s.monitors[n]? = some m)
    (hsame : (m'.pid, m'.cancelled) = (m.pid, m.cancelled)) :
    (s.setMonitor n m').hand.flags = s.hand.flags := by
  obtain ⟨hn, rfl⟩ := List.getElem?_eq_some_iff.1 hm
  show (s.monitors.set n m').map (fun m : Monitor => (m.pid, m.cancelled)) = s.hand.flags
  rw [List.map_set, hsame, ← List.map_set, List.set_getElem_self]
  rfl

/-- A step starts and cancels no monitor. -/
theorem flags_step (S : System ω) (s : State ω) (step : Step) :
    (s.step S step).hand.flags = s.hand.flags := by
  cases taken_step S s step with
  | launch _ _ _ _ hs' =>
    rw [hs']
    rfl
  | @monitor k m present _ hm _ hs' =>
    obtain ⟨hpid, hcancelled, -⟩ := m.round_same present
    rw [hs']
    exact flags_setMonitor hm (Prod.ext hpid hcancelled)
  | capture _ hs' =>
    rw [hs']
    rfl

theorem guarded_occur (S : System ω) (hw : s.hand.Guarded) (o : Occurrence ω) :
    (s.occur S o).hand.Guarded := by
  cases o with
  | called c => exact (dealt_perform S c s).guarded hw
  | told notice =>
    cases notice with
    | release => exact (released_release S s).guarded hw
    | bindSink | redirectOutput => exact hw
  | stepped step =>
    have hdebugee := (taken_step S s step).debugee
    refine hw.of_flags (flags_step S s step) fun pid n => ?_
    show (s.step S step).debugee = _ ↔ _
    rw [hdebugee]
    rfl
  | passed system => exact hw

theorem guarded_start (w : ω) : ({ system := w } : State ω).hand.Guarded :=
  fun _ _ => ⟨fun hn => (nomatch hn), fun hd => nomatch hd⟩

theorem guarded_occurAll (S : System ω) (hw : s.hand.Guarded) (all : List (Occurrence ω)) :
    (s.occurAll S all).hand.Guarded := by
  induction all generalizing s with
  | nil => exact hw
  | cons o all ih => exact ih (guarded_occur S hw o)

/-! ## Readiness -/

/-- The engine was made ready for what it has in hand. -/
def State.Begun (s : State ω) : Prop := s.ready = true ∨ s.debugee = .none

theorem ready_reported (s : State ω) (e : Event) : (s.reported e).ready = s.ready := by
  rw [State.reported]
  split <;> rfl

theorem ready_givenUp (s : State ω) : s.givenUp.ready = s.ready := by
  rw [State.givenUp]
  cases s.debugee with
  | attached pid monitor =>
    cases monitor with
    | none => rfl
    | some k =>
      simp only [State.cancelMonitor]
      cases s.monitors[k]? <;> rfl
  | _ => rfl

theorem ready_start (S : System ω) (program : String) (args : List String) (s : State ω) :
    (start S program args s).2.ready = s.ready := by
  rw [start_eq]
  split
  · rfl
  · exact (ready_reported _ _).trans (ready_reported _ _)

theorem ready_disconnect (S : System ω) (terminate : Bool) (s : State ω) :
    (disconnect S terminate s).2.ready = s.ready := by
  rw [disconnect_eq]
  split
  · rfl
  · next pid _ =>
    have hfarewell : (farewell S pid terminate s.givenUp).2.ready = s.ready := by
      rw [farewell_eq]
      split
      · exact ready_givenUp s
      · split <;> exact ready_givenUp s
    split
    all_goals
      next hleft =>
      rw [hleft] at hfarewell
      exact hfarewell

theorem ready_perform (S : System ω) (c : Call) (h : s.ready = true) :
    (perform S c s).2.ready = true := by
  cases c with
  | attach pid =>
    show (attach S pid s).2.ready = true
    rw [attach_eq]
    split
    · exact h
    · split
      · exact h
      · split <;> exact h
  | configurationDone =>
    show (configurationDone S s).2.ready = true
    rw [configurationDone_eq]
    split
    · exact h
    · split
      · exact (ready_start S _ _ _).trans h
      · exact h
      · exact h
  | launch program args =>
    show (launch S program args s).2.ready = true
    rw [launch_eq]
    split
    · rfl
    · split <;> rfl
  | resume =>
    show (resume S s).2.ready = true
    rw [resume_eq]
    split
    · exact h
    · split
      · exact h
      · exact (ready_reported _ _).trans h
  | pause =>
    show (pause S s).2.ready = true
    rw [pause_eq]
    split
    · exact h
    · split
      · exact h
      · exact (ready_reported _ _).trans h
  | disconnect terminate => exact (ready_disconnect S terminate s).trans h
  | setUp => rfl
  | setBreakpoints | threads | step => exact h

theorem ready_release (S : System ω) (s : State ω) : (release S s).2.ready = s.ready := by
  rw [release_eq]
  cases s.debugee with
  | launched pid n =>
    simp only
    cases s.hasExited n with
    | true => exact ready_givenUp s
    | false => exact ready_givenUp s
  | _ => exact ready_givenUp s

theorem ready_occur (S : System ω) (h : s.ready = true) (o : Occurrence ω) :
    (s.occur S o).ready = true := by
  cases o with
  | called c => exact ready_perform S c h
  | told notice =>
    cases notice with
    | release => exact (ready_release S s).trans h
    | bindSink | redirectOutput => exact h
  | stepped step => exact (taken_step S s step).ready.trans h
  | passed system => exact h

/-- An engine that is not ready and has nothing in hand takes nothing in hand. -/
theorem debugee_of_unready (S : System ω) (hready : s.ready = false) (h : s.debugee = .none)
    (o : Occurrence ω) : (s.occur S o).Begun := by
  cases o with
  | called c =>
    cases c with
    | attach pid =>
      right
      show (attach S pid s).2.debugee = .none
      rw [attach_eq, hready]
      exact h
    | configurationDone =>
      right
      show (configurationDone S s).2.debugee = .none
      rw [configurationDone_eq, hready]
      exact h
    | launch program args =>
      left
      show (launch S program args s).2.ready = true
      rw [launch_eq]
      split
      · rfl
      · split <;> rfl
    | setUp => exact .inl rfl
    | resume => exact .inr ((keeps_resume S s).debugee.trans h)
    | pause => exact .inr ((keeps_pause S s).debugee.trans h)
    | disconnect terminate => exact .inr (debugee_disconnect S terminate s)
    | setBreakpoints | threads | step => exact .inr h
  | told notice =>
    cases notice with
    | release => exact .inr (debugee_release S s)
    | bindSink | redirectOutput => exact .inr h
  | stepped step => exact .inr ((taken_step S s step).debugee.trans h)
  | passed system => exact .inr h

theorem begun_occurAll (S : System ω) (h : s.Begun) (all : List (Occurrence ω)) :
    (s.occurAll S all).Begun := by
  induction all generalizing s with
  | nil => exact h
  | cons o all ih =>
    refine ih ?_
    cases hready : s.ready with
    | true => exact .inl (ready_occur S hready o)
    | false => exact debugee_of_unready S hready (h.resolve_left (by simp [hready])) o

/-! ## What is in hand -/

/-- A call about a live process leaves it in hand, unless it is the end of the configuration or the
farewell. -/
theorem inHand_perform (S : System ω) {pid : UInt32} (hlive : s.livePid? = some pid) {c : Call}
    (hdone : c ≠ .configurationDone) (hleave : ∀ terminate, c ≠ .disconnect terminate) :
    (perform S c s).2.debugee = s.debugee ∧ (perform S c s).2.monitors = s.monitors := by
  cases c with
  | attach other =>
    show (attach S other s).2.debugee = _ ∧ (attach S other s).2.monitors = _
    rw [attach_eq, hlive]
    split <;> exact ⟨rfl, rfl⟩
  | launch program args =>
    show (launch S program args s).2.debugee = _ ∧ (launch S program args s).2.monitors = _
    rw [launch_eq, hlive]
    exact ⟨rfl, rfl⟩
  | resume => exact ⟨(keeps_resume S s).debugee, (keeps_resume S s).monitors⟩
  | pause => exact ⟨(keeps_pause S s).debugee, (keeps_pause S s).monitors⟩
  | configurationDone => exact absurd rfl hdone
  | disconnect terminate => exact absurd rfl (hleave terminate)
  | setUp | setBreakpoints | threads | step => exact ⟨rfl, rfl⟩

/-- A live process stays in hand, and no monitor is started, until the configuration is ended or the
engine lets go. -/
theorem inHand_occur (S : System ω) {pid : UInt32} (hlive : s.livePid? = some pid)
    {o : Occurrence ω} (ho : o.letsGo = false) (hdone : o ≠ .called .configurationDone) :
    (s.occur S o).debugee = s.debugee ∧ (s.occur S o).monitors.length = s.monitors.length := by
  cases o with
  | called c =>
    have hleave : ∀ terminate, c ≠ .disconnect terminate := by
      rintro terminate rfl
      exact nomatch ho
    obtain ⟨hsame, hmonitors⟩ := inHand_perform S hlive (mt (congrArg _) hdone) hleave
    exact ⟨hsame, congrArg List.length hmonitors⟩
  | told notice =>
    cases notice with
    | release => exact nomatch ho
    | bindSink | redirectOutput => exact ⟨rfl, rfl⟩
  | stepped step =>
    have hlength := congrArg List.length (flags_step S s step)
    rw [Hand.flags, Hand.flags, List.length_map, List.length_map] at hlength
    exact ⟨(taken_step S s step).debugee, hlength⟩
  | passed system => exact ⟨rfl, rfl⟩

theorem configurationDone_of_launched (S : System ω) (hready : s.ready = true) {pid : UInt32}
    {n : Nat} (hd : s.debugee = .launched pid n) :
    perform S .configurationDone s = (.ok (), s) := by
  show configurationDone S s = _
  rw [configurationDone_eq, hready, hd]
  rfl

/-- The end of the configuration starts the monitor of a process, unless it has one. -/
theorem configurationDone_of_attached (S : System ω) (hready : s.ready = true) {pid : UInt32}
    {monitor : Option Nat} (hd : s.debugee = .attached pid monitor) :
    perform S .configurationDone s =
      (.ok (), if monitor.isSome then s else s.addMonitor pid) := by
  show configurationDone S s = _
  rw [configurationDone_eq, hready, hd]
  cases monitor <;> rfl

/-- The engine is still attached to the process, and has started a monitor if and only if the
process had none and has one now. -/
def State.Attends (s s' : State ω) (pid : UInt32) (monitor : Option Nat) : Prop :=
  s'.debugee = .attached pid monitor ∧ s'.monitors.length = s.monitors.length ∨
    monitor = none ∧ s'.debugee = .attached pid (some s.monitors.length) ∧
      s'.monitors.length = s.monitors.length + 1

theorem attends_occur (S : System ω) {pid : UInt32} {monitor : Option Nat}
    (hd : s.debugee = .attached pid monitor) {o : Occurrence ω} (ho : o.letsGo = false) :
    s.Attends (s.occur S o) pid monitor := by
  by_cases hdone : o = .called .configurationDone
  · subst hdone
    show s.Attends (configurationDone S s).2 pid monitor
    rw [configurationDone_eq, hd]
    split
    · exact .inl ⟨hd, rfl⟩
    · cases monitor with
      | none => exact .inr ⟨rfl, rfl, List.length_append⟩
      | some n => exact .inl ⟨hd, rfl⟩
  · have hlive : s.livePid? = some pid := State.livePid?_eq_some_iff.2 (.inl ⟨monitor, hd⟩)
    obtain ⟨hsame, hlength⟩ := inHand_occur S hlive ho hdone
    exact .inl ⟨hsame.trans hd, hlength⟩

/-- As long as the engine does not let go of a process it found, it starts one monitor at most. -/
theorem attends_occurAll (S : System ω) {pid : UInt32} {monitor : Option Nat}
    (hd : s.debugee = .attached pid monitor) {later : List (Occurrence ω)}
    (hlater : ∀ o ∈ later, o.letsGo = false) : s.Attends (s.occurAll S later) pid monitor := by
  induction later generalizing s monitor with
  | nil => exact .inl ⟨hd, rfl⟩
  | cons o later ih =>
    obtain ⟨ho, hrest⟩ := List.forall_mem_cons.1 hlater
    show s.Attends ((s.occur S o).occurAll S later) pid monitor
    rcases attends_occur S hd ho with ⟨hsame, hlength⟩ | ⟨rfl, hstarted, hlength⟩
    · have hall := ih hsame hrest
      rw [State.Attends, hlength] at hall
      exact hall
    · -- a monitor that is started is there for good
      rcases ih hstarted hrest with ⟨hsame, hmore⟩ | ⟨hnone, -⟩
      · exact .inr ⟨rfl, hsame, hmore.trans hlength⟩
      · exact nomatch hnone

theorem launched_occur (S : System ω) {pid : UInt32} {n : Nat} (hd : s.debugee = .launched pid n)
    (hexited : s.hasExited n = false) {o : Occurrence ω} (ho : o.letsGo = false) :
    (s.occur S o).debugee = .launched pid n := by
  by_cases hdone : o = .called .configurationDone
  · subst hdone
    show (configurationDone S s).2.debugee = _
    rw [configurationDone_eq, hd]
    split <;> exact hd
  · have hlive : s.livePid? = some pid := State.livePid?_eq_some_iff.2 (.inr ⟨n, hd, hexited⟩)
    exact (inHand_occur S hlive ho hdone).1.trans hd

/-- The flag of a launch stays set. -/
theorem hasExited_occurAll (S : System ω) (hin : s.hand.InOrder) {n : Nat} {l : Launch}
    (hl : s.launches[n]? = some l) (h : s.hasExited n = true) (later : List (Occurrence ω)) :
    (s.occurAll S later).hasExited n = true := by
  obtain ⟨l', hl', honward⟩ := onward_occurAll S hl later
  have hflag := hin.flagged n l hl
  rw [State.hasExited, hl] at h
  rw [State.hasExited, hl']
  exact (honward.flagged hflag).2 (honward.ended (hflag.1 h))

/-- A program stays in hand until it ends or is let go of. -/
theorem launched_occurAll (S : System ω) (hin : s.hand.InOrder) {pid : UInt32} {n : Nat}
    (hd : s.debugee = .launched pid n) {later : List (Occurrence ω)}
    (hlater : ∀ o ∈ later, o.letsGo = false)
    (hexited : (s.occurAll S later).hasExited n = false) :
    (s.occurAll S later).debugee = .launched pid n := by
  induction later generalizing s with
  | nil => exact hd
  | cons o later ih =>
    obtain ⟨ho, hrest⟩ := List.forall_mem_cons.1 hlater
    obtain ⟨l, hl, -⟩ := hin.launched pid n hd
    have hnow : s.hasExited n = false := by
      rw [← Bool.not_eq_true]
      intro hset
      rw [hasExited_occurAll S hin hl hset] at hexited
      exact nomatch hexited
    exact ih (inOrder_occur S hin o) (launched_occur S hd hnow ho) hrest hexited

theorem signals_release_of_launched (S : System ω) {pid : UInt32} {n : Nat}
    (hd : s.debugee = .launched pid n) (hexited : s.hasExited n = false) :
    ∃ delivered, (s.occur S (.told .release)).signals = s.signals ++ [⟨pid, .kill, delivered⟩] := by
  have hsent := State.hand_sent S s.givenUp pid .kill
  have hrelease : (release S s).2.hand = (s.givenUp.sent S pid .kill).hand := by
    rw [release_eq, hd]
    simp only [hexited]
    rfl
  refine ⟨(S.signal s.givenUp.system pid .kill).1.isOk, ?_⟩
  show (release S s).2.hand.signals = _
  rw [hrelease, hsent]
  exact congrArg (· ++ _) s.signals_givenUp

end Run

/-- The engine after anything that can happen.

One monitor at most is not cancelled, the one of the process in hand.  An attachment gets one
monitor, however often the configuration is ended, and never another one.

A program that was started and has not ended yet is not replaced: the calls that would do so are
refused or do nothing.  It stays in hand until it ends, unless the engine disconnects or lets go;
then it is out of hand, and letting go kills it. -/
theorem custody_kept (S : System ω) (w : ω) (all : List (Occurrence ω)) :
    let s := ({ system := w } : State ω).occurAll S all
    (s.monitors.countP (fun m => !m.cancelled) ≤ 1 ∧
      ∀ n pid, (∃ m : Monitor, s.monitors[n]? = some m ∧ m.pid = pid ∧ m.cancelled = false) ↔
        s.debugee = .attached pid (some n)) ∧
    (∀ pid monitor, s.debugee = .attached pid monitor →
      perform S .configurationDone s =
        (.ok (), if monitor.isSome then s else s.addMonitor pid) ∧
      ∀ later, (∀ o ∈ later, o.letsGo = false) → s.Attends (s.occurAll S later) pid monitor) ∧
    ∀ pid n, s.debugee = .launched pid n → s.hasExited n = false →
      (∀ program args, perform S (.launch program args) s = (.error .alreadyRunning, s)) ∧
      (∀ other, perform S (.attach other) s = (.error .alreadyRunning, s)) ∧
      perform S .configurationDone s = (.ok (), s) ∧
      (∀ later, (∀ o ∈ later, o.letsGo = false) → (s.occurAll S later).hasExited n = false →
        (s.occurAll S later).debugee = .launched pid n) ∧
      (∀ o, o.letsGo = true → (s.occur S o).debugee = .none) ∧
      ∃ delivered,
        (s.occur S (.told .release)).signals = s.signals ++ [⟨pid, .kill, delivered⟩] := by
  intro s
  have hguarded : s.hand.Guarded := guarded_occurAll S (guarded_start w) all
  have hin : s.hand.InOrder := inOrder_occurAll S (inOrder_start w) all
  have hbegun : s.Begun := begun_occurAll S (.inr rfl) all
  refine ⟨⟨hguarded.countP_le_one, fun n pid => ?_⟩, fun pid monitor hd => ⟨?_, ?_⟩,
    fun pid n hd hexited => ?_⟩
  · exact Hand.getElem?_flags_eq_some_iff.symm.trans (hguarded n pid)
  · have hready : s.ready = true := hbegun.resolve_right (by simp [hd])
    exact configurationDone_of_attached S hready hd
  · exact fun later hlater => attends_occurAll S hd hlater
  · have hready : s.ready = true := hbegun.resolve_right (by simp [hd])
    have hlive : s.livePid? = some pid := State.livePid?_eq_some_iff.2 (.inr ⟨n, hd, hexited⟩)
    refine ⟨fun program args => ?_, fun other => ?_, ?_, ?_, ?_, ?_⟩
    · show launch S program args s = _
      have hsame : { s with ready := true } = s := by rw [← hready]
      rw [launch_eq, hlive, hsame]
      rfl
    · show attach S other s = _
      rw [attach_eq, hready, hlive]
      rfl
    · exact configurationDone_of_launched S hready hd
    · exact fun later hlater hlast => launched_occurAll S hin hd hlater hlast
    · exact fun o ho => debugee_of_letsGo S s ho
    · exact signals_release_of_launched S hd hexited

/-- An attachment whose configuration is ended twice, and a program that is started when it is
over. -/
def foundThenStarted : List (Occurrence Unit) :=
  [.called .setUp, .called (.attach 7), .called .configurationDone, .called .configurationDone,
    .called (.disconnect false), .called (.launch "/bin/sh" []), .called .configurationDone]

/-- The monitor is cancelled when the attachment is over, and the program is killed. -/
theorem custody_kept_foundThenStarted :
    let during := ({ system := () } : State Unit).occurAll (starting 7) (foundThenStarted.take 4)
    let s := ({ system := () } : State Unit).occurAll (starting 7) foundThenStarted
    (during.debugee = .attached 7 (some 0) ∧
      perform (starting 7) .configurationDone during = (.ok (), during)) ∧
    s.monitors.map Monitor.cancelled = [true] ∧
    (s.debugee = .launched 7 0 ∧ s.hasExited 0 = false) ∧
    ∃ delivered, (s.occur (starting 7) (.told .release)).signals =
      s.signals ++ [⟨7, .kill, delivered⟩] := by
  intro during s
  have hattached : during.debugee = .attached 7 (some 0) := by decide +kernel
  have hlaunched : s.debugee = .launched 7 0 := by decide +kernel
  have hexited : s.hasExited 0 = false := by decide +kernel
  obtain ⟨-, hmonitor, -⟩ := custody_kept (starting 7) () (foundThenStarted.take 4)
  obtain ⟨-, -, hprogram⟩ := custody_kept (starting 7) () foundThenStarted
  obtain ⟨-, -, -, -, -, hkilled⟩ := hprogram 7 0 hlaunched hexited
  exact ⟨⟨hattached, (hmonitor 7 (some 0) hattached).1⟩, by decide +kernel, ⟨hlaunched, hexited⟩,
    hkilled⟩

end Supervisor
end DebugSession
