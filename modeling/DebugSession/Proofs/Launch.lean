/-
Which program a client has started, in all three formats.
-/
import DebugSession.Proofs.Cli.Launch
import DebugSession.Proofs.Dap.Launch
import DebugSession.Proofs.Mi.Launch

namespace DebugSession
namespace CommandLoop

variable {σ : Type}

/-- Whatever a client sends, whatever the engine answers and whichever texts are lost on the way: a
program is launched only for a message that asks for it, and it is the one that the messages so far
and the configuration say. -/
theorem launches_governed (E : Engine σ) (preset : Option LaunchTarget) (input : List Arrival)
    (r : Stage σ) :
    (Mi.starter preset).Governs E Line.framing input r.engine r.scene.trace
        (serve E preset input .mi r).2.scene.trace ∧
      (Cli.starter preset).Governs E Line.framing input r.engine r.scene.trace
        (serve E preset input .cli r).2.scene.trace ∧
      (Dap.starter preset).Governs E Dap.framing input r.engine r.scene.trace
        (serve E preset input .dap r).2.scene.trace :=
  ⟨Mi.loop_governed E input (r := { r with desk := { preset } }) ⟨rfl, rfl, rfl⟩,
    Cli.loop_governed E input (r := { r with desk := { preset } }) ⟨rfl, rfl⟩,
    Dap.loop_governed E input (r := { r with desk := preset }) rfl⟩

end CommandLoop
end DebugSession
