import TypedModules.Library.Basic
import TypedModules.SourceModule.RuntimeStub

/-! # Sources

What is written to disk comes from an assembled module or from a library. Both
yield a file of type definitions and a runtime stub.
-/

namespace TypedModules

structure Artifacts where
  typeDefinitions : String := ""
  runtimeStub : String := ""
  deriving DecidableEq

inductive Source where
  | assembled (module : SourceModule)
  | library (library : Library)
  deriving DecidableEq

namespace Source

def home : Source → Namespace
  | assembled module => module.home
  | library copied => copied.home

/-- The contents of the files. A library is copied and has nothing at run time. -/
def artifacts : Source → Except LayoutFault Artifacts
  | assembled module => do
      let definitions := module.typeDefinitions
      let typeDefinitions ← definitions.answer
      let runtimeStub ← definitions.state.runtimeStub.mapError .literal
      return { typeDefinitions, runtimeStub }
  | library copied => .ok { typeDefinitions := copied.contents }

end Source

end TypedModules
