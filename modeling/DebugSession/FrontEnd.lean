/-
The loop that all front ends share: get ready for a read, take the entries it needs, answer the
message it brings, and go on until the client leaves or the input ends.
-/
import DebugSession.Scene

namespace DebugSession

/-- A front end at work: its own state, the scene and the engine. -/
structure Run (σ D : Type) where
  desk : D
  scene : Scene
  engine : σ

inductive Flow where
  | goOn
  | leave
deriving Repr, DecidableEq, Inhabited

namespace Run

variable {σ D : Type}

def onScene {α : Type} (act : StateM Scene α) : StateM (Run σ D) α := fun r =>
  let (a, scene) := act.run r.scene
  (a, { r with scene })

/-- Talks to the engine, and shows what is exchanged. -/
def converse {α : Type} (talk : D → StateM (Talk σ) (α × D)) : StateM (Run σ D) α := fun r =>
  let ((a, desk), t) := (talk r.desk).run { engine := r.engine }
  let ((), scene) := (t.exchanges.forM Scene.exchange).run r.scene
  (a, { desk, scene, engine := t.engine })

end Run

/-- A front end whose messages are of type `M` and whose own state is of type `D`. -/
structure FrontEnd (σ D M : Type) where
  /-- Comes before each read. -/
  invite : StateM Scene (Except String Unit) := pure (.ok ())
  answer : M → StateM (Run σ D) (Except String Flow)

namespace FrontEnd

variable {σ D M : Type}

/-- Serves the reads up to the one after which nothing is read any more.  An error ends the loop;
it is one of reading or of writing an answer. -/
def serve (F : FrontEnd σ D M) : List (Reading M) → StateM (Run σ D) (Except String Unit)
  | [] => return .ok ()
  | reading :: readings => do
    match ← Run.onScene F.invite with
    | .error e => return .error e
    | .ok _ =>
      Run.onScene (reading.taken.forM Scene.take)
      match reading.outcome with
      | .error e => return .error e
      | .ok none => return .ok ()
      | .ok (some message) =>
        match ← F.answer message with
        | .error e => return .error e
        | .ok .leave => return .ok ()
        | .ok .goOn => F.serve readings

end FrontEnd
end DebugSession
