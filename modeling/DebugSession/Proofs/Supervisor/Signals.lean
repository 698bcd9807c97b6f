/-
Who gets the signals of the engine.  They go to the process in hand as long as its flag is not set;
so the number of a program is left alone once its waiter set the flag, but not yet from the moment
on when the program is reaped.
-/
import DebugSession.Proofs.Supervisor.Hand

namespace DebugSession
namespace Supervisor

variable {ω : Type}

/-! ## What is in hand -/

/-- The launch of the program in hand is there, and all flags say how far the waiters are. -/
structure Hand.InOrder (h : Hand) : Prop where
  launched : ∀ pid n, h.debugee = .launched pid n →
    ∃ l : Launch, h.launches[n]? = some l ∧ l.pid = pid
  flagged : ∀ (n : Nat) (l : Launch), h.launches[n]? = some l → l.Flagged

namespace Hand.InOrder

variable {h h' : Hand}

theorem of_launches (hin : h.InOrder) (hlaunches : h'.launches = h.launches)
    (hdebugee : ∀ pid n, h'.debugee = .launched pid n → h.debugee = .launched pid n) :
    h'.InOrder where
  launched pid n hd := hlaunches ▸ hin.launched pid n (hdebugee pid n hd)
  flagged n l hl := hin.flagged n l (hlaunches ▸ hl)

theorem start (hin : h.InOrder) {l : Launch} (hflag : l.Flagged)
    (hdebugee : h'.debugee = .launched l.pid h.launches.length)
    (hlaunches : h'.launches = h.launches ++ [l]) : h'.InOrder where
  launched pid n hd := by
    rw [hdebugee] at hd
    obtain ⟨rfl, rfl⟩ := Debugee.launched.inj hd
    exact ⟨l, hlaunches ▸ List.getElem?_concat_length, rfl⟩
  flagged n l' hl := by
    rw [hlaunches] at hl
    rcases Nat.lt_or_ge n h.launches.length with hn | hn
    · rw [List.getElem?_append_left hn] at hl
      exact hin.flagged n l' hl
    · rw [List.getElem?_append_right hn] at hl
      obtain rfl := List.mem_singleton.1 (List.mem_of_getElem? hl)
      exact hflag

end Hand.InOrder

section Run

variable {s : State ω} {h : Hand}

theorem Dealt.inOrder (hd : Dealt s h) (hin : s.hand.InOrder) : h.InOrder := by
  cases hd with
  | nothing => exact hin
  | started pid => exact hin.start ⟨fun hexited => Bool.noConfusion hexited, False.elim⟩ rfl rfl
  | resumed | stopped => exact hin.of_launches rfl fun _ _ => id
  | found | planned | failed | watched | dropped =>
    exact hin.of_launches rfl fun _ _ hd => Debugee.noConfusion hd
  | killed | parted | left =>
    exact hin.of_launches (launches_givenUp s) fun _ _ hd => Debugee.noConfusion hd

theorem Released.inOrder (hr : Released s h) (hin : s.hand.InOrder) : h.InOrder := by
  cases hr <;> exact hin.of_launches (launches_givenUp s) fun _ _ hd => Debugee.noConfusion hd

theorem inOrder_occur (S : System ω) (hin : s.hand.InOrder) (o : Occurrence ω) :
    (s.occur S o).hand.InOrder := by
  cases o with
  | called c => exact (dealt_perform S c s).inOrder hin
  | told notice =>
    cases notice with
    | release => exact (released_release S s).inOrder hin
    | bindSink | redirectOutput => exact hin
  | stepped step =>
    have htaken := taken_step S s step
    constructor
    · intro pid n hdebugee
      obtain ⟨l, hl, hpid⟩ := hin.launched pid n (htaken.debugee.symm.trans hdebugee)
      obtain ⟨l', hl', honward⟩ := htaken.onward hl
      exact ⟨l', hl', honward.pid.trans hpid⟩
    · intro n l' hl'
      have hn := (List.getElem?_eq_some_iff.1 hl').1
      have hcount : n < s.launches.length := htaken.length_launches ▸ hn
      have hl : s.launches[n]? = some s.launches[n] := List.getElem?_eq_getElem hcount
      obtain ⟨l'', hl'', honward⟩ := htaken.onward hl
      obtain rfl : l'' = l' := Option.some.inj (hl''.symm.trans hl')
      exact honward.flagged (hin.flagged n _ hl)
  | passed system => exact hin

theorem inOrder_start (w : ω) : ({ system := w } : State ω).hand.InOrder :=
  ⟨fun _ _ hd => Debugee.noConfusion hd, fun _ _ hl => nomatch hl⟩

theorem inOrder_occurAll (S : System ω) (hin : s.hand.InOrder) (all : List (Occurrence ω)) :
    (s.occurAll S all).hand.InOrder := by
  induction all generalizing s with
  | nil => exact hin
  | cons o all ih => exact ih (inOrder_occur S hin o)

/-! ## Where signals go -/

/-- The engine is asked to do something to its process. -/
def Occurrence.asks : Occurrence ω → Bool
  | .called .pause => true
  | .called .resume => true
  | .called (.disconnect _) => true
  | .told .release => true
  | _ => false

/-- Signals of one kind come on top. -/
def SentOn (kind : Sent → Prop) (before after : List Sent) : Prop :=
  ∃ new, after = before ++ new ∧ ∀ x ∈ new, kind x

namespace SentOn

variable {kind kind' : Sent → Prop} {before between after : List Sent}

theorem same (h : after = before) : SentOn kind before after :=
  ⟨[], h.trans (List.append_nil _).symm, fun _ hx => nomatch hx⟩

theorem single {x : Sent} (h : after = before ++ [x]) (hx : kind x) : SentOn kind before after :=
  ⟨[x], h, fun _ hy => List.mem_singleton.1 hy ▸ hx⟩

theorem imp (h : SentOn kind before after) (hkind : ∀ x, kind x → kind' x) :
    SentOn kind' before after := by
  obtain ⟨new, hnew, hall⟩ := h
  exact ⟨new, hnew, fun x hx => hkind x (hall x hx)⟩

theorem trans (h : SentOn kind before between) (h' : SentOn kind between after) :
    SentOn kind before after := by
  obtain ⟨new, hnew, hall⟩ := h
  obtain ⟨new', hnew', hall'⟩ := h'
  refine ⟨new ++ new', ?_, fun x hx => (List.mem_append.1 hx).elim (hall x) (hall' x)⟩
  rw [hnew', hnew, List.append_assoc]

end SentOn

theorem Dealt.signals (hd : Dealt s h) :
    SentOn (fun x => s.livePid? = some x.pid) s.signals h.signals := by
  have hgivenUp := s.signals_givenUp
  cases hd with
  | resumed delivered hlive => exact .single rfl hlive
  | stopped delivered hlive => exact .single rfl hlive
  | killed delivered hlive => exact .single (congrArg (· ++ _) hgivenUp) hlive
  | parted delivered hlive => exact .single (congrArg (· ++ _) hgivenUp) hlive
  | left => exact .same hgivenUp
  | nothing | found | planned | started | failed | watched | dropped => exact .same rfl

theorem Released.signals (hr : Released s h) :
    SentOn (fun x => s.livePid? = some x.pid) s.signals h.signals := by
  have hgivenUp := s.signals_givenUp
  cases hr with
  | killed delivered hdebugee hexited =>
    have hlive := State.livePid?_eq_some_iff.2 (.inr ⟨_, hdebugee, hexited⟩)
    exact .single (congrArg (· ++ _) hgivenUp) hlive
  | left => exact .same hgivenUp

theorem signals_start (S : System ω) (program : String) (args : List String) (s : State ω) :
    (start S program args s).2.signals = s.signals := by
  rw [start_eq]
  rcases S.spawn s.system program args with ⟨_ | pid, system⟩
  · rfl
  · exact congrArg Hand.signals ((State.hand_reported _ _).trans (State.hand_reported _ _))

/-- The other calls send no signal. -/
theorem signals_perform (S : System ω) {c : Call}
    (hc : (Occurrence.called c : Occurrence ω).asks = false) (s : State ω) :
    (perform S c s).2.signals = s.signals := by
  cases c with
  | attach pid =>
    show (attach S pid s).2.signals = _
    rw [attach_eq]
    split
    · rfl
    · split
      · rfl
      · cases checkPid S s pid <;> rfl
  | configurationDone =>
    show (configurationDone S s).2.signals = _
    rw [configurationDone_eq]
    split
    · rfl
    · split
      · next program args _ => exact signals_start S program args { s with debugee := .none }
      · rfl
      · rfl
  | launch program args =>
    show (launch S program args s).2.signals = _
    rw [launch_eq]
    split
    · rfl
    · cases resolve S { s with ready := true } program <;> rfl
  | pause | resume | disconnect => cases hc
  | setUp | setBreakpoints | threads | step => rfl

/-- Signals go to the process in hand, and only when the engine is asked to do something to it. -/
theorem signals_occur (S : System ω) (s : State ω) (o : Occurrence ω) :
    SentOn (fun x => o.asks = true ∧ s.livePid? = some x.pid) s.signals
      (s.occur S o).signals := by
  cases o with
  | called c =>
    cases hc : (Occurrence.called c : Occurrence ω).asks with
    | false => exact .same (signals_perform S hc s)
    | true => exact (dealt_perform S c s).signals.imp fun _ hlive => ⟨rfl, hlive⟩
  | told notice =>
    cases notice with
    | release => exact (released_release S s).signals.imp fun _ hlive => ⟨rfl, hlive⟩
    | bindSink | redirectOutput => exact .same rfl
  | stepped step => exact .same (taken_step S s step).signals
  | passed system => exact .same rfl

theorem State.occurAll_append (S : System ω) (s : State ω) (a b : List (Occurrence ω)) :
    s.occurAll S (a ++ b) = (s.occurAll S a).occurAll S b := List.foldl_append

/-- Under this number no process is in hand but that of launch `n`. -/
def State.OnlyLaunch (s : State ω) (n : Nat) (pid : UInt32) : Prop :=
  (∀ monitor, s.debugee ≠ .attached pid monitor) ∧ ∀ m, s.debugee = .launched pid m → m = n

theorem livePid_ne_of_ended {n : Nat} {l : Launch} (hin : s.hand.InOrder)
    (hl : s.launches[n]? = some l) (hended : l.waiter.Ended) (honly : s.OnlyLaunch n l.pid) :
    s.livePid? ≠ some l.pid := by
  intro hlive
  rcases State.livePid?_eq_some_iff.1 hlive with ⟨monitor, hattached⟩ | ⟨m, hlaunched, hexited⟩
  · exact honly.1 monitor hattached
  · obtain rfl := honly.2 m hlaunched
    have hflag : l.exited = true := (hin.flagged m l hl).2 hended
    simp [State.hasExited, hl, hflag] at hexited

end Run

/-- The process is reaped, but its flag is not set yet. -/
def WaiterPhase.Between : WaiterPhase → Prop
  | .reaped _ => True
  | .joined _ => True
  | _ => False

theorem WaiterPhase.ended_of_not_between {w : WaiterPhase} (hreaped : w ≠ .waiting)
    (hnot : ¬ w.Between) : w.Ended := by
  cases w with
  | waiting => exact hreaped rfl
  | reaped | joined => exact hnot trivial
  | ended | announced | «over» => exact trivial

/-- Whenever the engine is asked to do something to its process, the waiter of a launch is not
between the end of its process and the setting of the flag, and no other process is in hand under
the same number. -/
def State.AskedApart (S : System ω) (s : State ω) (n : Nat) (pid : UInt32)
    (later : List (Occurrence ω)) : Prop :=
  ∀ first o rest, later = first ++ o :: rest → o.asks = true →
    (s.occurAll S first).OnlyLaunch n pid ∧
      ∀ l : Launch, (s.occurAll S first).launches[n]? = some l → ¬ l.waiter.Between

namespace State

variable {S : System ω} {s : State ω} {n : Nat} {pid : UInt32} {later : List (Occurrence ω)}

theorem apart_of_launched (hdebugee : s.debugee = .launched pid n) {w : WaiterPhase}
    (hwaiter : s.launches[n]?.map Launch.waiter = some w) (hnot : ¬ w.Between) :
    s.OnlyLaunch n pid ∧ ∀ l : Launch, s.launches[n]? = some l → ¬ l.waiter.Between := by
  refine ⟨⟨fun monitor h => ?_, fun m h => ?_⟩, fun l hl => ?_⟩
  · cases hdebugee.symm.trans h
  · exact (Debugee.launched.inj (hdebugee.symm.trans h)).2.symm
  · rw [hl, Option.map_some] at hwaiter
    rw [Option.some.inj hwaiter]
    exact hnot

theorem askedApart_nil : s.AskedApart S n pid [] :=
  fun _ _ _ hsplit => absurd hsplit (by simp)

theorem askedApart_cons {o : Occurrence ω} : s.AskedApart S n pid (o :: later) ↔
    (o.asks = true → s.OnlyLaunch n pid ∧
      ∀ l : Launch, s.launches[n]? = some l → ¬ l.waiter.Between) ∧
    (s.occur S o).AskedApart S n pid later := by
  constructor
  · intro h
    refine ⟨fun ho => h [] o later rfl ho, fun first p rest hsplit hp => ?_⟩
    exact h (o :: first) p rest (congrArg _ hsplit) hp
  · rintro ⟨hnow, hlater⟩ first p rest hsplit hp
    cases first with
    | nil =>
      obtain ⟨rfl, -⟩ := List.cons.inj hsplit
      exact hnow hp
    | cons o' first =>
      obtain ⟨rfl, hrest⟩ := List.cons.inj hsplit
      exact hlater first p rest hrest hp

/-- What the engine is not asked does not count. -/
theorem askedApart_append {first : List (Occurrence ω)} (hfirst : ∀ o ∈ first, o.asks = false)
    (h : (s.occurAll S first).AskedApart S n pid later) :
    s.AskedApart S n pid (first ++ later) := by
  induction first generalizing s with
  | nil => exact h
  | cons o first ih =>
    obtain ⟨ho, hrest⟩ := List.forall_mem_cons.1 hfirst
    refine askedApart_cons.2 ⟨fun hasks => ?_, ih hrest h⟩
    rw [ho] at hasks
    cases hasks

end State

theorem signals_of_askedApart (S : System ω) {s : State ω} {n : Nat} {l : Launch}
    (hin : s.hand.InOrder) (hl : s.launches[n]? = some l) (hreaped : l.waiter ≠ .waiting)
    {later : List (Occurrence ω)} (hasked : s.AskedApart S n l.pid later) :
    SentOn (fun x => x.pid ≠ l.pid) s.signals (s.occurAll S later).signals := by
  induction later generalizing s l with
  | nil => exact .same rfl
  | cons o later ih =>
    obtain ⟨hnow, hlater⟩ := State.askedApart_cons.1 hasked
    have hfirst : SentOn (fun x => x.pid ≠ l.pid) s.signals (s.occur S o).signals := by
      refine (signals_occur S s o).imp fun x hx heq => ?_
      -- whoever asks finds the waiter past the gap, with the flag set
      obtain ⟨honly, hnot⟩ := hnow hx.1
      have hended := WaiterPhase.ended_of_not_between hreaped (hnot l hl)
      exact livePid_ne_of_ended hin hl hended honly (heq ▸ hx.2)
    obtain ⟨l', hl', honward⟩ := onward_occur S hl o
    have hrest := ih (inOrder_occur S hin o) hl' (honward.reaped hreaped) (honward.pid ▸ hlater)
    rw [honward.pid] at hrest
    exact hfirst.trans hrest

/-- A program whose end the waiter took note of.  Unless the engine is asked to pause or resume it,
to disconnect or to let go before the waiter has set the flag, no signal goes to the number of the
program any more, as long as the engine does not take another process with this number in hand. -/
theorem unsignalled_after_reap (S : System ω) (w : ω) {before later : List (Occurrence ω)} {n : Nat}
    {l : Launch} (hl : (({ system := w } : State ω).occurAll S before).launches[n]? = some l)
    (hreaped : l.waiter ≠ .waiting)
    (hasked : (({ system := w } : State ω).occurAll S before).AskedApart S n l.pid later) :
    ∃ new, (({ system := w } : State ω).occurAll S (before ++ later)).signals =
        (({ system := w } : State ω).occurAll S before).signals ++ new ∧
      ∀ x ∈ new, x.pid ≠ l.pid := by
  rw [State.occurAll_append]
  exact signals_of_askedApart S (inOrder_occurAll S (inOrder_start w) before) hl hreaped hasked

/-- A program starts and ends. -/
def reapedEarly : List (Occurrence Unit) :=
  [.called (.launch "/bin/sh" []), .called .configurationDone, .stepped (.reap 0 0)]

/-- The same with a redirect server. -/
def reapedRedirected : List (Occurrence Unit) := .told .redirectOutput :: reapedEarly

/-- A byte gets into the capture and not out of it, so that the waiter goes on when its time is up.
The list of threads is asked for before that. -/
def heldUp : List (Occurrence Unit) :=
  [.stepped (.read 0 .stdout (.data [0x41])), .stepped (.store 0 .stdout 1),
    .stepped (.read 0 .stdout (.data [])), .stepped (.read 0 .stderr (.data [])),
    .stepped (.await 0), .stepped (.await 0), .called .threads, .stepped (.expire 0)]

/-- A launch whose process is reaped, and nothing else happened to it. -/
def reapedLaunch : Launch := { Launch.new 7 false true with waiter := .reaped 0 }

/-- Pausing and letting go come too late then, and the number is left alone. -/
theorem unsignalled_after_reap_timedOut :
    let s := ({ system := () } : State Unit).occurAll (starting 7) reapedRedirected
    let later := heldUp ++ [.called .pause, .told .release]
    s.launches[0]? = some reapedLaunch ∧ reapedLaunch.waiter ≠ .waiting ∧
      s.AskedApart (starting 7) 0 reapedLaunch.pid later ∧
      ∃ new, (({ system := () } : State Unit).occurAll (starting 7)
          (reapedRedirected ++ later)).signals = s.signals ++ new ∧
        ∀ x ∈ new, x.pid ≠ reapedLaunch.pid := by
  intro s later
  have hl : s.launches[0]? = some reapedLaunch := by decide +kernel
  have hreaped : reapedLaunch.waiter ≠ .waiting := by decide
  have hquiet : ∀ o ∈ heldUp, o.asks = false := by decide
  have hflag : (s.occurAll (starting 7) heldUp).debugee = .launched 7 0 := by decide +kernel
  have hpaused : ((s.occurAll (starting 7) heldUp).occur (starting 7) (.called .pause)).debugee =
      .launched 7 0 := by decide +kernel
  have hpause := State.apart_of_launched hflag (w := .ended 0) (by decide +kernel) id
  have hrelease := State.apart_of_launched hpaused (w := .ended 0) (by decide +kernel) id
  have hflagged : (s.occurAll (starting 7) heldUp).AskedApart (starting 7) 0 7
      [.called .pause, .told .release] :=
    State.askedApart_cons.2 ⟨fun _ => hpause,
      State.askedApart_cons.2 ⟨fun _ => hrelease, State.askedApart_nil⟩⟩
  have hasked : s.AskedApart (starting 7) 0 7 later := State.askedApart_append hquiet hflagged
  exact ⟨hl, hreaped, hasked, unsignalled_after_reap (starting 7) () hl hreaped hasked⟩

/-- Pausing, resuming, killing and letting go all reach the number of a process that is reaped and
may be anybody's by now. -/
theorem signalled_after_reap :
    ([.called .pause, .called .resume, .called (.disconnect true), .told .release] :
        List (Occurrence Unit)).map (fun o =>
          (({ system := () } : State Unit).occurAll (starting 7) (reapedEarly ++ [o])).trace) =
      [.stop, .cont, .kill, .kill].map fun signal => [.reaped 7, .signalled 7 signal true] := by
  decide +kernel

end Supervisor
end DebugSession
