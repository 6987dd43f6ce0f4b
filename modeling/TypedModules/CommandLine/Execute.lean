import TypedModules.CommandLine.Parse
import TypedModules.Emission.Interpreter

/-! # Executing a command line

A command line is read and then run in a directory. What happens to the files is
told by the tree that is left behind.
-/

namespace TypedModules.CommandLine

inductive Stop where
  | exit (exit : Exit)
  | failed (fault : Emission.RunFault)
  deriving DecidableEq

structure Execution where
  tree : FileTree
  log : List LogRecord
  answer : Except Stop Unit

def execute (interpreter : Emission.Interpreter) (tree : FileTree) (root : String)
    (arguments : List String) : Execution :=
  let start : LogRecord := ⟨.info, "Working from root directory: " ++ root⟩
  match parse arguments with
  | .error exit => ⟨tree, [start], .error (.exit exit)⟩
  | .ok options =>
      let outcome := interpreter.run tree options root
      ⟨outcome.tree, start :: outcome.log,
        (outcome.answer.mapError .failed).map fun _ => ()⟩

def exitCode : Except Stop Unit → UInt32
  | .ok () | .error (.exit .helpShown) => 0
  | .error (.failed _) => 1
  | .error (.exit (.refused _)) => 2

def consulted (root : String) (arguments : List String) : List String :=
  match parse arguments with
  | .error _ => []
  | .ok options =>
      let searched := (options.libraries ++ options.excludes).map fun pattern =>
        match Pattern.PathPattern.ofPath? (Directory.append root pattern) with
        | some path => path.start
        | none => Directory.append root pattern
      (Directory.append root options.outputDirectory :: searched).map (Directory.absolute root)

end TypedModules.CommandLine
