/-
What a request comes to.  Only `initialize` makes the client wait for the engine to be ready, and
only `disconnect` ends the session; a `disconnect` with readable arguments succeeds whatever the
engine says to it.
-/
import DebugSession.Dap.Desk
import DebugSession.Proofs.Scene

namespace DebugSession
namespace Dap

variable {σ : Type}

theorem Command.name_of_ofName? {s : String} {c : Command} (h : ofName? s = some c) :
    c.name = s := by
  have hfound := List.find?_some h
  exact beq_iff_eq.1 hfound

theorem Command.ofName?_name (c : Command) : ofName? c.name = some c := by
  cases c <;> decide

/-- The replies that a command can have. -/
inductive Follows : Command → Reply → Prop where
  | ready (body : Option Json) : Follows .setUp { body, after := .announceReady }
  | left (warning : Option String) : Follows .disconnect { after := .leave, warning }
  | goesOn {c : Command} (body : Option Json) : c ≠ .setUp → c ≠ .disconnect → Follows c { body }

theorem drive_eq (E : Engine σ) (calls : List Call) (reply : Reply) (t : Talk σ) :
    drive E calls reply t =
      match E.tellAll calls t with
      | (.ok _, t') => (.ok reply, t')
      | (.error e, t') => (.error (.engine e), t') := by
  rcases htell : E.tellAll calls t with ⟨_ | _, t'⟩ <;> rw [drive, bind_of_eq htell] <;> rfl

theorem reply_of_drive {E : Engine σ} {calls : List Call} {reply reply' : Reply} {t : Talk σ}
    (h : (drive E calls reply t).1 = .ok reply') : reply' = reply := by
  rw [drive_eq] at h
  generalize E.tellAll calls t = told at h
  obtain ⟨_ | _, t'⟩ := told
  · exact nomatch h
  · exact (Except.ok.inj h).symm

theorem reply_of_driveWith {E : Engine σ} {calls : Except Complaint (List Call)} {reply : Reply}
    {t : Talk σ} (h : (driveWith E calls t).1 = .ok reply) : reply = {} := by
  cases calls with
  | error c => exact nomatch h
  | ok calls => exact reply_of_drive h

theorem reply_of_setBreakpoints {E : Engine σ} {v : Json} {reply : Reply} {t : Talk σ}
    (h : (setBreakpoints E v t).1 = .ok reply) : ∃ body, reply = { body } := by
  unfold setBreakpoints at h
  cases hlines : breakpointLines v with
  | error c =>
    rw [hlines] at h
    exact nomatch h
  | ok target =>
    obtain ⟨file, lines⟩ := target
    rw [hlines] at h
    rcases hask : E.ask (.setBreakpoints file lines) t with ⟨_ | bps, t'⟩
    · simp only [bind_of_eq hask] at h
      exact nomatch h
    · simp only [bind_of_eq hask] at h
      exact ⟨_, (Except.ok.inj h).symm⟩

theorem reply_of_listThreads {E : Engine σ} {reply : Reply} {t : Talk σ}
    (h : (listThreads E t).1 = .ok reply) : ∃ body, reply = { body } := by
  unfold listThreads at h
  rcases hask : E.ask .threads t with ⟨_ | threads, t'⟩
  · rw [bind_of_eq hask] at h
    exact nomatch h
  · rw [bind_of_eq hask] at h
    exact ⟨_, (Except.ok.inj h).symm⟩

/-- Readable arguments are all that `disconnect` needs. -/
theorem disconnect_of_ok (E : Engine σ) {v : Json} {args : DisconnectArguments}
    (h : argumentsOr {} DisconnectArguments.decode v = .ok args) (t : Talk σ) :
    ∃ warning, (disconnect E v t).1 = .ok { after := .leave, warning } := by
  have hargs : arguments {} DisconnectArguments.decode v = .ok args := by
    rw [arguments, h]
    rfl
  unfold disconnect
  rw [hargs]
  rcases htell : E.tell (.disconnect (args.terminate.getD true)) t with ⟨_ | _, t'⟩
  · simp only [bind_of_eq htell]
    exact ⟨_, rfl⟩
  · simp only [bind_of_eq htell]
    exact ⟨_, rfl⟩

theorem ok_of_disconnect {E : Engine σ} {v : Json} {reply : Reply} {t : Talk σ}
    (h : (disconnect E v t).1 = .ok reply) :
    ∃ args, argumentsOr {} DisconnectArguments.decode v = .ok args := by
  cases hargs : argumentsOr {} DisconnectArguments.decode v with
  | ok args => exact ⟨args, rfl⟩
  | error m =>
    have herror : arguments {} DisconnectArguments.decode v = .error (.badArguments m) := by
      rw [arguments, hargs]
      rfl
    unfold disconnect at h
    rw [herror] at h
    exact nomatch h

theorem follows_perform {E : Engine σ} {preset : Option LaunchTarget} {v : Json} {c : Command}
    {t : Talk σ} {reply : Reply} (h : (perform E preset v c t).1 = .ok reply) :
    Follows c reply := by
  cases c with
  | setUp =>
    obtain rfl := reply_of_drive h
    exact .ready _
  | launch =>
    obtain rfl := reply_of_driveWith h
    exact .goesOn none (by decide) (by decide)
  | attach =>
    obtain rfl := reply_of_driveWith h
    exact .goesOn none (by decide) (by decide)
  | setBreakpoints =>
    obtain ⟨body, rfl⟩ := reply_of_setBreakpoints h
    exact .goesOn body (by decide) (by decide)
  | threads =>
    obtain ⟨body, rfl⟩ := reply_of_listThreads h
    exact .goesOn body (by decide) (by decide)
  | disconnect =>
    obtain ⟨args, hargs⟩ := ok_of_disconnect h
    obtain ⟨warning, hreply⟩ := disconnect_of_ok E hargs t
    obtain rfl := Except.ok.inj (hreply.symm.trans h)
    exact .left warning
  | configurationDone | resume | next | stepIn | stepOut | pause | terminate =>
    obtain rfl := reply_of_drive h
    exact .goesOn _ (by decide) (by decide)

/-- A request that succeeds has a reply of its command. -/
theorem follows_handle {E : Engine σ} {preset : Option LaunchTarget} {r : Request} {t : Talk σ}
    {reply : Reply} (h : (handle E preset r t).1 = .ok reply) :
    ∃ c, Command.ofName? r.command = some c ∧ Follows c reply := by
  unfold handle at h
  cases hc : Command.ofName? r.command with
  | none =>
    rw [hc] at h
    exact nomatch h
  | some c =>
    rw [hc] at h
    exact ⟨c, rfl, follows_perform h⟩

/-- The client is told that the engine is ready after `initialize` and nowhere else. -/
theorem after_eq_announceReady_iff {E : Engine σ} {preset : Option LaunchTarget} {r : Request}
    {t : Talk σ} {reply : Reply} (h : (handle E preset r t).1 = .ok reply) :
    reply.after = .announceReady ↔ r.command = "initialize" := by
  obtain ⟨c, hc, hfollows⟩ := follows_handle h
  have hname := Command.name_of_ofName? hc
  cases hfollows with
  | ready body => exact ⟨fun _ => hname.symm, fun _ => rfl⟩
  | left warning =>
    rw [← hname]
    exact ⟨fun hafter => After.noConfusion hafter, fun hcommand => absurd hcommand (by decide)⟩
  | goesOn body hsetUp _ =>
    refine ⟨fun hafter => After.noConfusion hafter, fun hcommand => absurd ?_ hsetUp⟩
    exact Option.some.inj (hc.symm.trans (hcommand ▸ Command.ofName?_name .setUp))

/-- Only `disconnect` ends the session, and it has no body. -/
theorem of_after_eq_leave {E : Engine σ} {preset : Option LaunchTarget} {r : Request}
    {t : Talk σ} {reply : Reply} (h : (handle E preset r t).1 = .ok reply)
    (hleave : reply.after = .leave) : Command.ofName? r.command = some .disconnect ∧
      reply.body = none := by
  obtain ⟨c, hc, hfollows⟩ := follows_handle h
  cases hfollows with
  | ready body => exact After.noConfusion hleave
  | left warning => exact ⟨hc, rfl⟩
  | goesOn body _ _ => exact After.noConfusion hleave

theorem handle_of_disconnect (E : Engine σ) (preset : Option LaunchTarget) {r : Request}
    (h : Command.ofName? r.command = some .disconnect) (t : Talk σ) :
    handle E preset r t = disconnect E r.arguments t := by
  rw [handle, h]
  rfl

/-- The session ends exactly with a `disconnect` whose arguments can be read. -/
theorem leave_iff {E : Engine σ} {preset : Option LaunchTarget} {r : Request} {t : Talk σ} :
    (∃ reply, (handle E preset r t).1 = .ok reply ∧ reply.after = .leave) ↔
      r.command = "disconnect" ∧
        ∃ args, argumentsOr {} DisconnectArguments.decode r.arguments = .ok args := by
  constructor
  · rintro ⟨reply, h, hleave⟩
    obtain ⟨hc, -⟩ := of_after_eq_leave h hleave
    rw [handle_of_disconnect E preset hc] at h
    exact ⟨(Command.name_of_ofName? hc).symm, ok_of_disconnect h⟩
  · rintro ⟨hcommand, args, hargs⟩
    have hc : Command.ofName? r.command = some .disconnect := by
      rw [hcommand]
      exact Command.ofName?_name .disconnect
    obtain ⟨warning, hreply⟩ := disconnect_of_ok E hargs t
    rw [handle_of_disconnect E preset hc]
    exact ⟨_, hreply, rfl⟩

end Dap
end DebugSession
