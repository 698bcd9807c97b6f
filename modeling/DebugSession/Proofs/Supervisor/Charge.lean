/-
How the engine leaves the processes that it had in hand.  Each signal is booked on the process that
was in hand when it was sent; the last one on a process is a stop exactly while the process counts
as paused, so that it depends on the ways to give a paused process up whether it stays stopped.
-/
import DebugSession.Proofs.Supervisor.Signals

namespace DebugSession
namespace Supervisor

variable {ω : Type}

/-! ## The book -/

/-- A process that the engine has or had in hand. -/
structure Charge where
  pid : UInt32
  /-- The launch that started it, none if it was found running. -/
  launch : Option Nat
  signals : List Signal := []
deriving Repr, DecidableEq

@[simp]
def Debugee.process? : Debugee → Option (UInt32 × Option Nat)
  | .launched pid n => some (pid, some n)
  | .attached pid _ => some (pid, Option.none)
  | _ => Option.none

namespace Charge

def sent (c : Charge) : List (UInt32 × Signal) := c.signals.map fun signal => (c.pid, signal)

/-- The process is not left stopped, unless it is a program that ended. -/
def Over (launches : List Launch) (c : Charge) : Prop :=
  c.signals.getLast? = some .stop →
    ∃ n, c.launch = some n ∧ ∃ l : Launch, launches[n]? = some l ∧ l.exited = true

/-- Books signals on the process in hand, which is the first of the book. -/
def book (signals : List Signal) : List Charge → List Charge
  | [] => []
  | c :: past => { c with signals := c.signals ++ signals } :: past

/-- Enters the process in hand unless it is the one that was in hand before. -/
def enter (old new : Option (UInt32 × Option Nat)) (cs : List Charge) : List Charge :=
  if new = old then cs
  else
    match new with
    | some (pid, launch) => { pid, launch } :: cs
    | none => cs

end Charge

/-- Brings the book up to date when `h` has become `h'`. -/
def Hand.booked (h h' : Hand) (cs : List Charge) : List Charge :=
  Charge.enter h.debugee.process? h'.debugee.process?
    (Charge.book ((h'.signals.drop h.signals.length).map Sent.signal) cs)

/-- The book after all that happens, the process that came last in front. -/
def State.charges (S : System ω) (s : State ω) (cs : List Charge) :
    List (Occurrence ω) → List Charge
  | [] => cs
  | o :: later => (s.occur S o).charges S (s.hand.booked (s.occur S o).hand cs) later

/-- The signals of the book are those that were sent; the process in hand comes first and is paused
exactly if it was stopped last, and the others are over. -/
structure Hand.Kept (h : Hand) (cs : List Charge) : Prop where
  accounts : h.signals.map (fun x => (x.pid, x.signal)) = cs.reverse.flatMap Charge.sent
  idle : h.debugee.process? = none → ∀ c ∈ cs, c.Over h.launches
  busy : ∀ pid launch, h.debugee.process? = some (pid, launch) →
    ∃ signals past, cs = ⟨pid, launch, signals⟩ :: past ∧
      (signals.getLast? = some .stop ↔ h.paused = true) ∧ ∀ c ∈ past, c.Over h.launches

namespace Charge

theorem book_nil (cs : List Charge) : book [] cs = cs := by
  cases cs with
  | nil => rfl
  | cons c past => rw [book, List.append_nil]

theorem enter_same (p : Option (UInt32 × Option Nat)) (cs : List Charge) : enter p p cs = cs :=
  if_pos rfl

theorem enter_none (p : Option (UInt32 × Option Nat)) (cs : List Charge) : enter p none cs = cs := by
  rw [enter]
  split <;> rfl

theorem enter_some {p : Option (UInt32 × Option Nat)} {pid : UInt32} {launch : Option Nat}
    (h : p ≠ some (pid, launch)) (cs : List Charge) :
    enter p (some (pid, launch)) cs = { pid, launch } :: cs := if_neg (Ne.symm h)

theorem Over.mono {launches launches' : List Launch} {c : Charge} (h : c.Over launches)
    (hexits : ∀ (n : Nat) (l : Launch), launches[n]? = some l → l.exited = true →
      ∃ l' : Launch, launches'[n]? = some l' ∧ l'.exited = true) : c.Over launches' := by
  intro hlast
  obtain ⟨n, hn, l, hl, hexited⟩ := h hlast
  exact ⟨n, hn, hexits n l hl hexited⟩

theorem over_of_ne {c : Charge} (h : c.signals.getLast? ≠ some .stop) (launches : List Launch) :
    c.Over launches := fun hlast => absurd hlast h

theorem flatMap_book (c : Charge) (past : List Charge) (signal : Signal) :
    (book [signal] (c :: past)).reverse.flatMap sent =
      (c :: past).reverse.flatMap sent ++ [(c.pid, signal)] := by
  simp [book, sent]

end Charge

namespace Hand

theorem booked_of_signals {h h' : Hand} {new : List Sent} (hnew : h'.signals = h.signals ++ new)
    (cs : List Charge) : h.booked h' cs = Charge.enter h.debugee.process? h'.debugee.process?
      (Charge.book (new.map Sent.signal) cs) := by
  rw [booked, hnew, List.drop_left]

theorem booked_of_quiet {h h' : Hand} (hsame : h'.signals = h.signals) (cs : List Charge) :
    h.booked h' cs = Charge.enter h.debugee.process? h'.debugee.process? cs := by
  rw [booked_of_signals (hsame.trans (List.append_nil _).symm), List.map_nil, Charge.book_nil]

end Hand

/-! ## One thing after another -/

namespace Hand.Kept

variable {h h' : Hand} {cs : List Charge}

theorem of_same (hk : h.Kept cs) (hprocess : h'.debugee.process? = h.debugee.process?)
    (hpaused : h'.paused = h.paused) (hsignals : h'.signals = h.signals)
    (hexits : ∀ (n : Nat) (l : Launch), h.launches[n]? = some l → l.exited = true →
      ∃ l' : Launch, h'.launches[n]? = some l' ∧ l'.exited = true) :
    h'.Kept (h.booked h' cs) := by
  rw [Hand.booked_of_quiet hsignals, hprocess, Charge.enter_same]
  constructor
  · rw [hsignals, hk.accounts]
  · intro hnone c hc
    exact (hk.idle (hprocess ▸ hnone) c hc).mono hexits
  · intro pid launch hsome
    obtain ⟨signals, past, hcs, hlast, hpast⟩ := hk.busy pid launch (hprocess ▸ hsome)
    exact ⟨signals, past, hcs, hpaused ▸ hlast, fun c hc => (hpast c hc).mono hexits⟩

theorem send (hk : h.Kept cs) {pid : UInt32} {launch : Option Nat} {signal : Signal}
    {delivered : Bool} (hold : h.debugee.process? = some (pid, launch))
    (hnew : h'.debugee.process? = some (pid, launch))
    (hsignals : h'.signals = h.signals ++ [⟨pid, signal, delivered⟩])
    (hlaunches : h'.launches = h.launches) (hpaused : signal = .stop ↔ h'.paused = true) :
    h'.Kept (h.booked h' cs) := by
  obtain ⟨signals, past, rfl, -, hpast⟩ := hk.busy pid launch hold
  rw [Hand.booked_of_signals hsignals, hold, hnew, Charge.enter_same]
  constructor
  · rw [hsignals, List.map_append, hk.accounts, List.map_singleton, List.map_singleton,
      Charge.flatMap_book]
  · intro hnone
    exact nomatch hnew.symm.trans hnone
  · intro pid' launch' hsome
    obtain ⟨rfl, rfl⟩ := Prod.mk.inj (Option.some.inj (hnew.symm.trans hsome))
    refine ⟨_, past, rfl, ?_, hlaunches ▸ hpast⟩
    rw [List.map_singleton, List.getLast?_concat, Option.some.injEq]
    exact hpaused

/-- The process in hand is given up with a signal that does not stop it. -/
theorem dismiss (hk : h.Kept cs) {pid : UInt32} {launch : Option Nat} {signal : Signal}
    {delivered : Bool} (hold : h.debugee.process? = some (pid, launch))
    (hnew : h'.debugee.process? = none)
    (hsignals : h'.signals = h.signals ++ [⟨pid, signal, delivered⟩])
    (hlaunches : h'.launches = h.launches) (hsignal : signal ≠ .stop) :
    h'.Kept (h.booked h' cs) := by
  obtain ⟨signals, past, rfl, -, hpast⟩ := hk.busy pid launch hold
  rw [Hand.booked_of_signals hsignals, hold, hnew, Charge.enter_none]
  constructor
  · rw [hsignals, List.map_append, hk.accounts, List.map_singleton, List.map_singleton,
      Charge.flatMap_book]
  · intro _ c hc
    rcases List.mem_cons.1 hc with rfl | hc
    · refine Charge.over_of_ne ?_ _
      rw [List.map_singleton, List.getLast?_concat]
      exact fun heq => hsignal (Option.some.inj heq)
    · exact hlaunches ▸ hpast c hc
  · intro pid' launch' hsome
    exact nomatch hnew.symm.trans hsome

/-- The process in hand is given up without a signal, which is right if it is over. -/
theorem drop (hk : h.Kept cs) (hover : ∀ c ∈ cs, c.Over h.launches)
    (hnew : h'.debugee.process? = none) (hsignals : h'.signals = h.signals)
    (hlaunches : h'.launches = h.launches) : h'.Kept (h.booked h' cs) := by
  rw [Hand.booked_of_quiet hsignals, hnew, Charge.enter_none]
  constructor
  · rw [hsignals, hk.accounts]
  · intro _ c hc
    exact hlaunches ▸ hover c hc
  · intro pid launch hsome
    exact nomatch hnew.symm.trans hsome

theorem take (hk : h.Kept cs) {pid : UInt32} {launch : Option Nat}
    (hover : ∀ c ∈ cs, c.Over h'.launches) (hold : h.debugee.process? ≠ some (pid, launch))
    (hnew : h'.debugee.process? = some (pid, launch)) (hpaused : h'.paused = false)
    (hsignals : h'.signals = h.signals) : h'.Kept (h.booked h' cs) := by
  rw [Hand.booked_of_quiet hsignals, hnew, Charge.enter_some hold]
  constructor
  · rw [hsignals, hk.accounts]
    simp [Charge.sent]
  · intro hnone
    exact nomatch hnew.symm.trans hnone
  · intro pid' launch' hsome
    obtain ⟨rfl, rfl⟩ := Prod.mk.inj (Option.some.inj (hnew.symm.trans hsome))
    refine ⟨[], cs, rfl, ?_, hover⟩
    rw [hpaused]
    exact ⟨nofun, nofun⟩

theorem over_of_not_paused (hk : h.Kept cs) (hpaused : h.paused = false) :
    ∀ c ∈ cs, c.Over h.launches := by
  cases hprocess : h.debugee.process? with
  | none => exact hk.idle hprocess
  | some process =>
    obtain ⟨signals, past, rfl, hlast, hpast⟩ := hk.busy _ _ hprocess
    intro c hc
    rcases List.mem_cons.1 hc with rfl | hc
    · refine Charge.over_of_ne (fun hstop => ?_) _
      rw [hlast.1 hstop] at hpaused
      exact nomatch hpaused
    · exact hpast c hc

end Hand.Kept

section Run

variable {s : State ω} {h : Hand} {cs : List Charge}

theorem Hand.Kept.over_of_exited (hk : s.hand.Kept cs) (hin : s.hand.InOrder) {pid : UInt32}
    {n : Nat} (hdebugee : s.debugee = .launched pid n) (hexited : s.hasExited n = true) :
    ∀ c ∈ cs, c.Over s.launches := by
  obtain ⟨l, hl, -⟩ := hin.launched pid n hdebugee
  have hprocess : s.hand.debugee.process? = some (pid, some n) := by
    simp [hdebugee]
  obtain ⟨signals, past, rfl, -, hpast⟩ := hk.busy pid (some n) hprocess
  intro c hc
  rcases List.mem_cons.1 hc with rfl | hc
  · intro _
    have hflag : s.hasExited n = l.exited := by
      rw [State.hasExited, show s.launches[n]? = some l from hl]
    exact ⟨n, rfl, l, hl, hflag.symm.trans hexited⟩
  · exact hpast c hc

theorem Hand.Kept.over_of_livePid (hk : s.hand.Kept cs) (hin : s.hand.InOrder)
    (hlive : s.livePid? = none) : ∀ c ∈ cs, c.Over s.launches := by
  cases hdebugee : s.debugee with
  | launched pid n =>
    have hexited : s.hasExited n = true := by simpa [State.livePid?, hdebugee] using hlive
    exact hk.over_of_exited hin hdebugee hexited
  | attached pid monitor => simp [State.livePid?, hdebugee] at hlive
  | none | pending =>
    exact hk.idle (by simp [hdebugee])

theorem process_of_livePid {pid : UInt32} (hlive : s.livePid? = some pid) :
    ∃ launch, s.hand.debugee.process? = some (pid, launch) := by
  rcases State.livePid?_eq_some_iff.1 hlive with ⟨monitor, hattached⟩ | ⟨n, hlaunched, -⟩
  · exact ⟨none, by simp [hattached]⟩
  · exact ⟨some n, by simp [hlaunched]⟩

theorem process_ne_started (hin : s.hand.InOrder) (pid : UInt32) :
    s.hand.debugee.process? ≠ some (pid, some s.launches.length) := by
  cases hdebugee : s.debugee with
  | launched other n =>
    obtain ⟨l, hl, -⟩ := hin.launched other n hdebugee
    have hn : n < s.launches.length := (List.getElem?_eq_some_iff.1 hl).1
    simp [hdebugee, Nat.ne_of_lt hn]
  | _ => simp [hdebugee]

theorem Dealt.kept (hd : Dealt s h) (hk : s.hand.Kept cs) (hin : s.hand.InOrder)
    (hdelivered : ∀ x ∈ h.signals, x.delivered = true) : h.Kept (s.hand.booked h cs) := by
  have hlaunches := launches_givenUp s
  have hsignals := s.signals_givenUp
  cases hd with
  | nothing => exact hk.of_same rfl rfl rfl fun _ l hl hexited => ⟨l, hl, hexited⟩
  | watched hattached =>
    refine hk.of_same ?_ rfl rfl fun _ l hl hexited => ⟨l, hl, hexited⟩
    simp [hattached]
  | found pid hlive =>
    refine hk.take (hk.over_of_livePid hin hlive) ?_ rfl rfl rfl
    cases hdebugee : s.debugee with
    | attached other monitor => simp [State.livePid?, hdebugee] at hlive
    | _ => simp [hdebugee]
  | started pid hpending =>
    have hempty : s.hand.debugee.process? = none := by simp [hpending]
    refine hk.take (fun c hc => ?_) (process_ne_started hin pid) rfl rfl rfl
    refine (hk.idle hempty c hc).mono fun n l hl hexited => ⟨l, ?_, hexited⟩
    exact (List.getElem?_append_left (List.getElem?_eq_some_iff.1 hl).1).trans hl
  | planned program args hlive => exact hk.drop (hk.over_of_livePid hin hlive) rfl rfl rfl
  | failed hpending => exact hk.drop (hk.idle (by simp [hpending])) rfl rfl rfl
  | dropped hlive => exact hk.drop (hk.over_of_livePid hin hlive) rfl rfl rfl
  | resumed delivered hlive =>
    -- a signal that is lost would be booked, but leave `paused` as it was
    obtain rfl : delivered = true := hdelivered _ List.mem_concat_self
    obtain ⟨launch, hprocess⟩ := process_of_livePid hlive
    exact hk.send hprocess hprocess rfl rfl (by simp)
  | stopped delivered hlive =>
    obtain rfl : delivered = true := hdelivered _ List.mem_concat_self
    obtain ⟨launch, hprocess⟩ := process_of_livePid hlive
    exact hk.send hprocess hprocess rfl rfl (by simp)
  | killed delivered hlive =>
    obtain ⟨launch, hprocess⟩ := process_of_livePid hlive
    exact hk.dismiss hprocess rfl (congrArg (· ++ _) hsignals) hlaunches (by decide)
  | parted delivered hlive =>
    obtain ⟨launch, hprocess⟩ := process_of_livePid hlive
    exact hk.dismiss hprocess rfl (congrArg (· ++ _) hsignals) hlaunches (by decide)
  | left hlive hpaused => exact hk.drop (hk.over_of_not_paused hpaused) rfl hsignals hlaunches

/-- Letting go keeps the book, unless a process that was found running counts as paused. -/
theorem Released.kept (hr : Released s h) (hk : s.hand.Kept cs) (hin : s.hand.InOrder)
    (hresumed : ∀ pid monitor, s.debugee = .attached pid monitor → s.paused = false) :
    h.Kept (s.hand.booked h cs) := by
  have hlaunches := launches_givenUp s
  have hsignals := s.signals_givenUp
  cases hr with
  | killed delivered hdebugee hexited =>
    obtain ⟨launch, hprocess⟩ :=
      process_of_livePid (State.livePid?_eq_some_iff.2 (.inr ⟨_, hdebugee, hexited⟩))
    exact hk.dismiss hprocess rfl (congrArg (· ++ _) hsignals) hlaunches (by decide)
  | left hexits =>
    refine hk.drop ?_ rfl hsignals hlaunches
    -- only here does it matter that an attached process is not paused
    cases hdebugee : s.debugee with
    | launched pid n => exact hk.over_of_exited hin hdebugee (hexits pid n hdebugee)
    | attached pid monitor => exact hk.over_of_not_paused (hresumed pid monitor hdebugee)
    | none | pending => exact hk.idle (by simp [hdebugee])

theorem kept_occur (S : System ω) (hk : s.hand.Kept cs) (hin : s.hand.InOrder) (o : Occurrence ω)
    (hdelivered : ∀ x ∈ (s.occur S o).signals, x.delivered = true)
    (hresumed : o = .told .release →
      ∀ pid monitor, s.debugee = .attached pid monitor → s.paused = false) :
    (s.occur S o).hand.Kept (s.hand.booked (s.occur S o).hand cs) := by
  cases o with
  | called c => exact (dealt_perform S c s).kept hk hin hdelivered
  | told notice =>
    cases notice with
    | release => exact (released_release S s).kept hk hin (hresumed rfl)
    | bindSink | redirectOutput =>
      exact hk.of_same rfl rfl rfl fun _ l hl hexited => ⟨l, hl, hexited⟩
  | stepped step =>
    have htaken := taken_step S s step
    refine hk.of_same ?_ htaken.paused htaken.signals fun n l hl hexited => ?_
    · exact congrArg Debugee.process? htaken.debugee
    · obtain ⟨l', hl', honward⟩ := htaken.onward hl
      have hflag := hin.flagged n l hl
      exact ⟨l', hl', (honward.flagged hflag).2 (honward.ended (hflag.1 hexited))⟩
  | passed system => exact hk.of_same rfl rfl rfl fun _ l hl hexited => ⟨l, hl, hexited⟩

/-- Whenever the engine is told to let go, no process that it found running counts as paused. -/
def State.ReleasedRunning (S : System ω) (s : State ω) (all : List (Occurrence ω)) : Prop :=
  ∀ first rest, all = first ++ .told .release :: rest →
    ∀ pid monitor, (s.occurAll S first).debugee = .attached pid monitor →
      (s.occurAll S first).paused = false

theorem signals_occurAll (S : System ω) (s : State ω) (all : List (Occurrence ω)) :
    s.signals <+: (s.occurAll S all).signals := by
  induction all generalizing s with
  | nil => exact List.prefix_rfl
  | cons o all ih =>
    obtain ⟨new, hnew, -⟩ := signals_occur S s o
    have hnow : s.signals <+: (s.occur S o).signals := ⟨new, hnew.symm⟩
    exact hnow.trans (ih (s.occur S o))

theorem kept_occurAll (S : System ω) (hk : s.hand.Kept cs) (hin : s.hand.InOrder)
    {all : List (Occurrence ω)} (hdelivered : ∀ x ∈ (s.occurAll S all).signals, x.delivered = true)
    (hresumed : s.ReleasedRunning S all) :
    (s.occurAll S all).hand.Kept (s.charges S cs all) := by
  induction all generalizing s cs with
  | nil => exact hk
  | cons o all ih =>
    -- what was sent up to now is among what is sent in the whole run
    have hnow : ∀ x ∈ (s.occur S o).signals, x.delivered = true := fun x hx =>
      hdelivered x ((signals_occurAll S (s.occur S o) all).subset hx)
    have hkept := kept_occur S hk hin o hnow fun ho => hresumed [] all (ho ▸ rfl)
    refine ih hkept (inOrder_occur S hin o) hdelivered fun first rest hsplit => ?_
    exact hresumed (o :: first) rest (hsplit ▸ rfl)

theorem debugee_disconnect (S : System ω) (terminate : Bool) (s : State ω) :
    (disconnect S terminate s).2.debugee = .none := by
  rw [disconnect_eq]
  cases s.livePid? with
  | none => rfl
  | some pid =>
    have hleft : (farewell S pid terminate s.givenUp).2.debugee = .none := by
      rw [farewell_eq]
      split
      · rfl
      · split <;> rfl
    simp only
    split
    all_goals
      next hfarewell =>
      rw [hfarewell] at hleft
      exact hleft

theorem debugee_release (S : System ω) (s : State ω) : (release S s).2.debugee = .none := by
  rw [release_eq]
  cases s.debugee with
  | launched pid n => simp only; split <;> rfl
  | _ => rfl

theorem debugee_of_letsGo (S : System ω) (s : State ω) {o : Occurrence ω} (ho : o.letsGo = true) :
    (s.occur S o).debugee = .none := by
  cases o with
  | called c =>
    cases c with
    | disconnect terminate => exact debugee_disconnect S terminate s
    | _ => exact nomatch ho
  | told notice =>
    cases notice with
    | release => exact debugee_release S s
    | _ => exact nomatch ho
  | stepped | passed => exact nomatch ho

theorem kept_start (w : ω) : ({ system := w } : State ω).hand.Kept [] :=
  ⟨rfl, fun _ _ hc => (nomatch hc), fun _ _ hprocess => nomatch hprocess⟩

end Run

/-- Where all signals reach their process, and no process that was found running counts as paused
when the engine is told to let go.  Once the engine disconnects or lets go, no process that it ever
had in hand was stopped last, programs apart that ended. -/
theorem none_left_stopped (S : System ω) (w : ω) {all : List (Occurrence ω)} {o : Occurrence ω}
    (ho : o.letsGo = true)
    (hdelivered : ∀ x ∈ (({ system := w } : State ω).occurAll S (all ++ [o])).signals,
      x.delivered = true)
    (hresumed : ({ system := w } : State ω).ReleasedRunning S (all ++ [o])) :
    let s := ({ system := w } : State ω).occurAll S (all ++ [o])
    let charges := ({ system := w } : State ω).charges S [] (all ++ [o])
    s.signals.map (fun x => (x.pid, x.signal)) = charges.reverse.flatMap Charge.sent ∧
      ∀ c ∈ charges, c.Over s.launches := by
  intro s charges
  have hkept := kept_occurAll S (kept_start w) (inOrder_start w) hdelivered hresumed
  have hdebugee : (State.occurAll S { system := w } (all ++ [o])).debugee = .none := by
    rw [State.occurAll_append]
    exact debugee_of_letsGo S _ ho
  exact ⟨hkept.accounts, hkept.idle (by simp [hdebugee])⟩

/-- A program is started and paused, and let go of; then the engine finds it running. -/
def foundAgain : List (Occurrence Unit) :=
  [.called (.launch "/bin/sh" []), .called .configurationDone, .called .pause,
    .called (.disconnect false), .called (.attach 7), .called .pause]

theorem none_left_stopped_foundAgain :
    let s := ({ system := () } : State Unit).occurAll (starting 7)
      (foundAgain ++ [.called (.disconnect false)])
    let charges : List Charge :=
      [{ pid := 7, launch := none, signals := [.stop, .cont] },
        { pid := 7, launch := some 0, signals := [.stop, .cont] }]
    s.signals.map (fun x => (x.pid, x.signal)) = charges.reverse.flatMap Charge.sent ∧
      ∀ c ∈ charges, c.Over s.launches := by
  have hdelivered : ∀ x ∈ (({ system := () } : State Unit).occurAll (starting 7)
      (foundAgain ++ [.called (.disconnect false)])).signals, x.delivered = true := by
    decide +kernel
  have hresumed : ({ system := () } : State Unit).ReleasedRunning (starting 7)
      (foundAgain ++ [.called (.disconnect false)]) := by
    intro first rest hsplit
    have hmem : .told .release ∈ foundAgain ++ [.called (.disconnect false)] := by
      rw [hsplit]
      exact List.mem_append_right _ List.mem_cons_self
    simp [foundAgain] at hmem
  have hcharges : ({ system := () } : State Unit).charges (starting 7) []
      (foundAgain ++ [.called (.disconnect false)]) =
        [{ pid := 7, launch := none, signals := [.stop, .cont] },
          { pid := 7, launch := some 0, signals := [.stop, .cont] }] := by
    decide +kernel
  exact hcharges ▸ none_left_stopped (starting 7) () rfl hdelivered hresumed

/-- The engine finds a process running, stops it, and forgets it when it is told to let go. -/
theorem left_stopped_by_release :
    let all : List (Occurrence Unit) :=
      [.called .setUp, .called (.attach 7), .called .pause, .told .release]
    let s := ({ system := () } : State Unit).occurAll (starting 7) all
    s.signals = [⟨7, .stop, true⟩] ∧ s.debugee = .none ∧
      ({ system := () } : State Unit).charges (starting 7) [] all =
        [{ pid := 7, launch := none, signals := [.stop] }] := by
  decide +kernel

end Supervisor
end DebugSession
