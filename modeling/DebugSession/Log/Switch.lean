/-
The log switch: a main backend that can be replaced, and a route that takes the engine's records
away from it.
-/
import DebugSession.Log.Record

namespace DebugSession
namespace Log

/-- The target of the engine's records. -/
def engineTarget : String := "engine"

/-- The engine's records have its target or one below it. -/
def isEngineTarget (target : String) : Bool :=
  target == engineTarget || "engine::".toList.isPrefixOf target.toList

structure Switch (β : Type) where
  main : β
  /-- The backend of the engine's records while they are routed. -/
  route : Option β := none
  /-- The filter of the main backend. -/
  filter : Filter := none
  /-- The records of the process come here. -/
  installed : Bool := false
  /-- The filter of the process. -/
  maxLevel : Filter := none
deriving Repr, Inhabited

namespace Switch

variable {β : Type}

/-- A switch before it is used. -/
def idle (main : β) : Switch β := { main }

def install (s : Switch β) : Switch β := { s with installed := true }

/-- Sets the filter of the process: while a route is set it lets pass at least what helps
debugging. -/
def updateMaxLevel (s : Switch β) : Switch β :=
  { s with maxLevel := if s.route.isSome then s.filter.join (some .debug) else s.filter }

def replaceMain (s : Switch β) (main : β) (filter : Filter) : Switch β :=
  { s with main, filter }.install.updateMaxLevel

def routeEngine (s : Switch β) (backend : β) : Switch β :=
  { s with route := some backend }.install.updateMaxLevel

def resetRoute (s : Switch β) : Switch β := { s with route := none }.updateMaxLevel

/-- The backend that is responsible for a target. -/
def backend (s : Switch β) (target : String) : β :=
  match s.route with
  | some engine => if isEngineTarget target then engine else s.main
  | none => s.main

/-- The backend that gets a record, none if the level does not pass. -/
def recipient (s : Switch β) (r : Record) : Option β :=
  if s.installed && s.maxLevel.allows r.level then some (s.backend r.target) else none

/-- The backends that a flush reaches, in that order. -/
def flushed (s : Switch β) : List β := s.main :: s.route.toList

inductive Operation (β : Type) where
  | replaceMain (main : β) (filter : Filter)
  | routeEngine (backend : β)
  | resetRoute
  | log (r : Record)
  /-- The question whether records with a target are written. -/
  | enabled (target : String)
  | flush
deriving Repr

/-- What a backend is called for. -/
inductive Delivery (β : Type) where
  | record (backend : β) (r : Record)
  | enabled (backend : β) (target : String)
  | flush (backend : β)
deriving Repr, DecidableEq

def Delivery.backend : Delivery β → β
  | record b _ => b
  | enabled b _ => b
  | flush b => b

def perform (s : Switch β) : Operation β → Switch β × List (Delivery β)
  | .replaceMain main filter => (s.replaceMain main filter, [])
  | .routeEngine backend => (s.routeEngine backend, [])
  | .resetRoute => (s.resetRoute, [])
  | .log r => (s, (s.recipient r).toList.map (.record · r))
  | .enabled target => (s, [.enabled (s.backend target) target])
  | .flush => (s, s.flushed.map .flush)

def run (s : Switch β) : List (Operation β) → Switch β × List (Delivery β)
  | [] => (s, [])
  | op :: ops =>
    let (s, first) := s.perform op
    let (s, more) := s.run ops
    (s, first ++ more)

theorem run_append (s : Switch β) (ops more : List (Operation β)) :
    s.run (ops ++ more) =
      (((s.run ops).1.run more).1, (s.run ops).2 ++ ((s.run ops).1.run more).2) := by
  induction ops generalizing s with
  | nil => rfl
  | cons op ops ih => simp only [List.cons_append, run, ih, List.append_assoc]

theorem run_concat (s : Switch β) (ops : List (Operation β)) (op : Operation β) :
    s.run (ops ++ [op]) =
      (((s.run ops).1.perform op).1, (s.run ops).2 ++ ((s.run ops).1.perform op).2) := by
  simp only [run_append, run, List.append_nil]

end Switch
end Log
end DebugSession
