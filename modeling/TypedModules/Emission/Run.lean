import TypedModules.Emission.Options
import TypedModules.Emission.Write
import TypedModules.Library.Load
import TypedModules.Library.Search
import TypedModules.SourceModule.BaseDefinitions

/-! # Runs

A run writes the base definitions and all libraries it finds. A library that can
not be loaded ends the run before anything is written. This is what a run does as
long as it stays within the limits of its interpreter.
-/

namespace TypedModules.Emission

inductive RunFault where
  | library (fault : LoadFault)
  | layout (fault : LayoutFault)
  deriving DecidableEq

def RunFault.message : RunFault → String
  | library fault => fault.message
  | layout fault => fault.message

structure RunOutcome where
  tree : FileTree
  log : List LogRecord
  answer : Except RunFault (List String)

def loadedRecord (library : Library) : LogRecord :=
  ⟨.info, "Loaded library '" ++ library.dotted ++ "' from '" ++ library.file ++ "'."⟩

/-- Load libraries in order, up to the first one that fails. Those that have been
loaded are known as referenced. -/
def loadAll (tree : FileTree) : List String → List Library × Except LoadFault Unit
  | [] => ([], .ok ())
  | path :: rest =>
      match Library.load tree path with
      | .error fault => ([], .error fault)
      | .ok library =>
          let (others, answer) := loadAll tree rest
          ({ library with referenced := true } :: others, answer)

def searchFor (options : Options) (root : String) : Library.Search where
  root := root
  patterns := options.libraries
  excludes := options.excludes
  recursive := options.recursive

def run (tree : FileTree) (options : Options) (root : String) : RunOutcome :=
  let (libraries, loading) := loadAll tree ((searchFor options root).paths tree)
  let loaded := libraries.map loadedRecord
  match loading with
  | .error fault => ⟨tree, loaded, .error (.library fault)⟩
  | .ok () =>
      let base :=
        if options.skipBaseDefinitions then []
        else [Source.assembled SourceModule.baseDefinitions]
      match base ++ libraries.map Source.library with
      | [] => ⟨tree, loaded ++ [⟨.warning, "Nothing to write."⟩], .ok []⟩
      | sources =>
          match write tree root (Directory.append root options.outputDirectory) sources with
          | .error fault => ⟨tree, loaded, .error (.layout fault)⟩
          | .ok outcome => ⟨outcome.tree, loaded ++ outcome.log, .ok outcome.directories⟩

end TypedModules.Emission
