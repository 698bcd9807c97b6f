/-
Where log records go.  What the switch does can be read off the operations so far: the main backend
and its filter are those of the last replacement, and the route is the last one unless it was given
up since.  The filter of the process follows both, whatever their order.
-/
import DebugSession.Log.Switch
import Mathlib.Data.List.Induction

namespace DebugSession
namespace Log

theorem Filter.not_allows_none (l : Level) : allows none l = false := by
  cases l <;> rfl

theorem isEngineTarget_iff {target : String} :
    isEngineTarget target = true ↔ target = "engine" ∨ "engine::".toList <+: target.toList := by
  rw [isEngineTarget, Bool.or_eq_true, beq_iff_eq, List.isPrefixOf_iff_prefix]
  rfl

namespace Switch

variable {β : Type}

/-! ## The operations so far -/

namespace Operation

/-- The main backend and its filter, if they are set. -/
def main? : Operation β → Option (β × Filter)
  | replaceMain main filter => some (main, filter)
  | _ => none

/-- The route, if it is set or given up. -/
def route? : Operation β → Option (Option β)
  | routeEngine backend => some (some backend)
  | resetRoute => some none
  | _ => none

/-- The backend that comes into use. -/
def backend? : Operation β → Option β
  | replaceMain main _ => some main
  | routeEngine backend => some backend
  | _ => none

end Operation

section History

variable (first : β) (ops : List (Operation β))

def lastMain : β × Filter := (ops.reverse.findSome? Operation.main?).getD (first, none)

def lastRoute : Option β := (ops.reverse.findSome? Operation.route?).join

/-- The filter of the last main backend, raised while a route is set. -/
def level : Filter :=
  if (lastRoute ops).isSome then (lastMain first ops).2.join (some .debug)
  else (lastMain first ops).2

/-- The route for the target of the engine and all below it, the main backend for others. -/
def responsible (target : String) : β :=
  if target = "engine" ∨ "engine::".toList <+: target.toList then
    (lastRoute ops).getD (lastMain first ops).1
  else (lastMain first ops).1

theorem lastMain_concat (op : Operation β) :
    lastMain first (ops ++ [op]) = op.main?.getD (lastMain first ops) := by
  rw [lastMain, List.reverse_append, List.reverse_singleton, List.singleton_append,
    List.findSome?_cons]
  cases op.main? <;> rfl

theorem lastRoute_concat (op : Operation β) :
    lastRoute (ops ++ [op]) = op.route?.getD (lastRoute ops) := by
  rw [lastRoute, List.reverse_append, List.reverse_singleton, List.singleton_append,
    List.findSome?_cons]
  cases op.route? <;> rfl

end History

/-! ## The switch and the operations so far -/

/-- A switch as operations leave it. -/
structure Follows (first : β) (ops : List (Operation β)) (s : Switch β) : Prop where
  main : s.main = (lastMain first ops).1
  filter : s.filter = (lastMain first ops).2
  route : s.route = lastRoute ops
  maxLevel : s.maxLevel = level first ops
  installed : s.installed = true ∨ s.filter = none ∧ s.route = none

namespace Follows

variable {first : β} {ops : List (Operation β)} {s : Switch β}

/-- The filter of the process is set anew from what the other fields have become. -/
theorem updateMaxLevel {ops' : List (Operation β)} (hmain : s.main = (lastMain first ops').1)
    (hfilter : s.filter = (lastMain first ops').2) (hroute : s.route = lastRoute ops')
    (hinstalled : s.installed = true ∨ s.filter = none ∧ s.route = none) :
    Follows first ops' s.updateMaxLevel where
  main := hmain
  filter := hfilter
  route := hroute
  maxLevel := by rw [level, ← hroute, ← hfilter]; rfl
  installed := hinstalled

theorem concat (h : Follows first ops s) {op : Operation β} (hmain : op.main? = none)
    (hroute : op.route? = none) : Follows first (ops ++ [op]) s := by
  have hlast : lastMain first (ops ++ [op]) = lastMain first ops := by
    rw [lastMain_concat, hmain]
    rfl
  have hsame : lastRoute (ops ++ [op]) = lastRoute ops := by
    rw [lastRoute_concat, hroute]
    rfl
  have hlevel : level first (ops ++ [op]) = level first ops := by
    rw [level, hlast, hsame]
    rfl
  exact ⟨hlast ▸ h.main, hlast ▸ h.filter, hsame ▸ h.route, hlevel ▸ h.maxLevel, h.installed⟩

theorem perform (h : Follows first ops s) (op : Operation β) :
    Follows first (ops ++ [op]) (s.perform op).1 := by
  cases op with
  | replaceMain main filter =>
    refine updateMaxLevel ?_ ?_ ?_ (.inl rfl)
    · rw [lastMain_concat]; rfl
    · rw [lastMain_concat]; rfl
    · rw [lastRoute_concat]; exact h.route
  | routeEngine backend =>
    refine updateMaxLevel ?_ ?_ ?_ (.inl rfl)
    · rw [lastMain_concat]; exact h.main
    · rw [lastMain_concat]; exact h.filter
    · rw [lastRoute_concat]; rfl
  | resetRoute =>
    refine updateMaxLevel ?_ ?_ ?_ ?_
    · rw [lastMain_concat]; exact h.main
    · rw [lastMain_concat]; exact h.filter
    · rw [lastRoute_concat]; rfl
    · exact h.installed.imp_right fun hnone => ⟨hnone.1, rfl⟩
  | log | enabled | flush => exact h.concat rfl rfl

theorem backend_eq (h : Follows first ops s) (target : String) :
    s.backend target = responsible first ops target := by
  rw [backend, responsible, ← h.route, ← h.main]
  by_cases htarget : isEngineTarget target = true
  · rw [if_pos (isEngineTarget_iff.1 htarget)]
    cases s.route with
    | none => rfl
    | some engine => exact if_pos htarget
  · rw [if_neg (mt isEngineTarget_iff.2 htarget)]
    cases s.route with
    | none => rfl
    | some engine => exact if_neg htarget

/-- Records that pass the filter of the process come to the switch. -/
theorem recipient_eq (h : Follows first ops s) (r : Record) :
    s.recipient r =
      if s.maxLevel.allows r.level then some (responsible first ops r.target) else none := by
  rw [recipient, h.backend_eq]
  rcases h.installed with hinstalled | ⟨hfilter, hroute⟩
  · rw [hinstalled, Bool.true_and]
  · -- a switch that is not installed yet does not miss anything: the filter lets nothing pass
    have hlevel : s.maxLevel = none := by
      rw [h.maxLevel, level, ← h.route, ← h.filter, hroute, hfilter]
      rfl
    rw [hlevel, Filter.not_allows_none, Bool.and_false]

end Follows

theorem follows_run (first : β) (ops : List (Operation β)) :
    Follows first ops ((idle first).run ops).1 := by
  induction ops using List.reverseRecOn with
  | nil => exact ⟨rfl, rfl, rfl, rfl, .inr ⟨rfl, rfl⟩⟩
  | append_singleton ops op ih =>
    rw [run_concat]
    exact ih.perform op

/-! ## Backends out of use -/

theorem perform_unused {s : Switch β} {b : β} (hmain : s.main ≠ b) (hroute : s.route ≠ some b)
    {op : Operation β} (hop : op.backend? ≠ some b) :
    ((s.perform op).1.main ≠ b ∧ (s.perform op).1.route ≠ some b) ∧
      ∀ d ∈ (s.perform op).2, d.backend ≠ b := by
  have hbackend : ∀ target, s.backend target ≠ b := by
    intro target
    rw [backend]
    split
    · next engine hengine =>
      split
      · rintro rfl
        exact hroute hengine
      · exact hmain
    · exact hmain
  cases op with
  | replaceMain main filter =>
    exact ⟨⟨fun h => hop (congrArg some h), hroute⟩, fun d hd => nomatch hd⟩
  | routeEngine backend => exact ⟨⟨hmain, hop⟩, fun d hd => nomatch hd⟩
  | resetRoute => exact ⟨⟨hmain, nofun⟩, fun d hd => nomatch hd⟩
  | log r =>
    refine ⟨⟨hmain, hroute⟩, fun d hd => ?_⟩
    rw [perform, recipient] at hd
    split at hd
    · obtain rfl := List.mem_singleton.1 hd
      exact hbackend r.target
    · exact nomatch hd
  | enabled target =>
    refine ⟨⟨hmain, hroute⟩, fun d hd => ?_⟩
    obtain rfl := List.mem_singleton.1 hd
    exact hbackend target
  | flush =>
    refine ⟨⟨hmain, hroute⟩, fun d hd => ?_⟩
    obtain ⟨x, hx, rfl⟩ := List.mem_map.1 hd
    rcases List.mem_cons.1 hx with rfl | hx
    · exact hmain
    · rintro rfl
      exact hroute (Option.mem_toList.1 hx)

theorem run_unused {s : Switch β} {b : β} (hmain : s.main ≠ b) (hroute : s.route ≠ some b)
    {ops : List (Operation β)} (hops : ∀ op ∈ ops, op.backend? ≠ some b) :
    ∀ d ∈ (s.run ops).2, d.backend ≠ b := by
  induction ops generalizing s with
  | nil => exact fun d hd => nomatch hd
  | cons op ops ih =>
    obtain ⟨⟨hmain', hroute'⟩, hfirst⟩ := perform_unused hmain hroute (hops op List.mem_cons_self)
    have hmore := ih hmain' hroute' fun o ho => hops o (List.mem_cons_of_mem op ho)
    exact fun d hd => (List.mem_append.1 hd).elim (hfirst d) (hmore d)

/-! ## All operations -/

/-- After any operations the filter of the process is that of the last main backend, raised exactly
while a route is set.  A record that passes goes to one backend, the one that is responsible for its
target and that is asked whether such records are wanted; other records go nowhere.  A flush reaches
the main backend and the route.  A backend that was replaced is not called again. -/
theorem records_routed (first : β) (ops : List (Operation β)) :
    let calls := fun ops => ((idle first).run ops).2
    let maxLevel := ((idle first).run ops).1.maxLevel
    maxLevel = level first ops ∧
      (∀ r, calls (ops ++ [.log r]) = calls ops ++
        if maxLevel.allows r.level then [.record (responsible first ops r.target) r] else []) ∧
      (∀ target, calls (ops ++ [.enabled target]) =
        calls ops ++ [.enabled (responsible first ops target) target]) ∧
      calls (ops ++ [.flush]) = calls ops ++
        .flush (lastMain first ops).1 :: (lastRoute ops).toList.map .flush ∧
      (∀ op : Operation β, op.main?.isSome ∨ op.route?.isSome → calls (ops ++ [op]) = calls ops) ∧
      ∀ b after, (lastMain first ops).1 ≠ b → lastRoute ops ≠ some b →
        (∀ op ∈ after, op.backend? ≠ some b) →
          ∃ more, calls (ops ++ after) = calls ops ++ more ∧ ∀ d ∈ more, d.backend ≠ b := by
  intro calls maxLevel
  have hfollows := follows_run first ops
  refine ⟨hfollows.maxLevel, ?_, ?_, ?_, ?_, ?_⟩
  · intro r
    have hlog := congrArg Prod.snd (run_concat (idle first) ops (.log r))
    refine hlog.trans (congrArg (calls ops ++ ·) ?_)
    rw [perform, hfollows.recipient_eq]
    by_cases hr : ((idle first).run ops).1.maxLevel.allows r.level = true
    · rw [if_pos hr, if_pos hr]
      rfl
    · rw [if_neg hr, if_neg hr]
      rfl
  · intro target
    have hasked := congrArg Prod.snd (run_concat (idle first) ops (.enabled target))
    refine hasked.trans (congrArg (calls ops ++ ·) ?_)
    rw [perform, hfollows.backend_eq]
  · have hflush := congrArg Prod.snd (run_concat (idle first) ops .flush)
    refine hflush.trans (congrArg (calls ops ++ ·) ?_)
    rw [perform, flushed, hfollows.main, hfollows.route]
    rfl
  · intro op hop
    refine (congrArg Prod.snd (run_concat (idle first) ops op)).trans ?_
    cases op with
    | replaceMain | routeEngine | resetRoute => exact List.append_nil _
    | log | enabled | flush => exact nomatch hop
  · intro b after hmain hroute hafter
    refine ⟨_, congrArg Prod.snd (run_append (idle first) ops after), ?_⟩
    exact run_unused (hfollows.main ▸ hmain) (hfollows.route ▸ hroute) hafter

/-- Names that only look like the engine's go to the main backend, and a backend that was replaced
while a route was set gets nothing. -/
theorem records_routed_replaced :
    let ops : List (Operation Nat) :=
      [.routeEngine 1, .replaceMain 2 (some .info), .replaceMain 3 (some .warn)]
    ((idle 0).run (ops ++ [.log { level := .debug, target := "engine2", text := "one" }])).2 =
        [.record 3 { level := .debug, target := "engine2", text := "one" }] ∧
      ∀ d ∈ ((idle 0).run (ops ++ [.resetRoute, .flush])).2, d.backend ≠ 2 := by
  intro ops
  obtain ⟨-, hlog, -, -, -, hunused⟩ := records_routed 0 ops
  constructor
  · exact hlog { level := .debug, target := "engine2", text := "one" }
  · obtain ⟨more, hmore, hnot⟩ := hunused 2 [.resetRoute, .flush] (by decide) (by decide) (by decide)
    intro d hd
    refine hnot d ?_
    have hcalls : ((idle 0).run (ops ++ [.resetRoute, .flush])).2 = more := hmore
    exact hcalls ▸ hd

end Switch
end Log
end DebugSession
