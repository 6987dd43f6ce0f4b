import TypedModules.SourceModule.Contribution
import TypedModules.SourceModule.RuntimeStub

/-! # Calls on modules

A module can be contributed to, and its artifacts can be asked for at any time.
-/

namespace TypedModules

inductive ModuleCall where
  | contribute (contribution : Contribution)
  | typeDefinitions
  | runtimeStub
  | imports
  deriving DecidableEq

inductive ModuleAnswer where
  | nothing
  | text (text : String)
  | lines (lines : List String)
  deriving DecidableEq

namespace SourceModule

def perform (workingDirectory : String) (module : SourceModule) :
    ModuleCall → Attempt ContributionFault SourceModule ModuleAnswer
  | .contribute contribution =>
      (module.contribute workingDirectory contribution).map fun answer =>
        answer.elim .nothing .text
  | .typeDefinitions => (module.typeDefinitions.mapFault .layout).map .text
  | .runtimeStub =>
      ⟨module, (module.runtimeStub.mapError fun fault => .layout (.literal fault)).map .text⟩
  | .imports => ⟨module, .ok (.lines module.importLines)⟩

/-- Perform calls in order. A refused call does not end the run, and the answers
are in the order of the calls. -/
def performAll (workingDirectory : String) (module : SourceModule) :
    List ModuleCall → SourceModule × List (Except ContributionFault ModuleAnswer)
  | [] => (module, [])
  | call :: rest =>
      let attempt := module.perform workingDirectory call
      let (final, answers) := attempt.state.performAll workingDirectory rest
      (final, attempt.answer :: answers)

end SourceModule

end TypedModules
