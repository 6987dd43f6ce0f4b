import TypedModules.Emission.Report
import TypedModules.Emission.Source
import TypedModules.FileTree.Write

/-! # Writing modules

Each module is written to the directory of its namespace below an output
directory. A module that can not be written is recorded, and does not keep the
others from being written.

Modules are written one after the other here, and may as well be written at the
same time. A module only looks at the way to its directory and at the places of
its two files. As long as no two modules have the same directory, and none has a
file on the way of another, all that the others change there is to make directories
which it would make itself, and which it does not mind to find. So each of its steps
does the same whatever steps of other modules come before it or in between. Where
modules share a directory, the files of the last one are left here.
-/

namespace TypedModules.Emission

def definitionsName : String := "index.ts"

def stubName : String := "index.js"

structure Written where
  tree : FileTree
  failures : List String

def writeArtifact (tree : FileTree) (directory name content : String) : Written :=
  match tree.writeFile directory name content.toUTF8 with
  | .ok after => ⟨after, []⟩
  | .error fault =>
      ⟨tree, ["Could not write " ++ name ++ " to " ++ directory ++ ": " ++
        fault.message (Directory.append directory name) ++ "."]⟩

def writeModule (tree : FileTree) (directory : String) (artifacts : Artifacts) : Written :=
  let making := tree.makeDirectories (Directory.rootMark directory) [] (Directory.names directory)
  match making.answer with
  | .error (fault, path) =>
      ⟨making.state, ["Could not create parent directory " ++ directory ++ ": " ++
        fault.message path ++ "."]⟩
  | .ok () =>
      let definitions :=
        writeArtifact making.state directory definitionsName artifacts.typeDefinitions
      let stub := writeArtifact definitions.tree directory stubName artifacts.runtimeStub
      ⟨stub.tree, definitions.failures ++ stub.failures⟩

def writeModules (tree : FileTree) : List (String × Artifacts) → FileTree × List (List String)
  | [] => (tree, [])
  | (directory, artifacts) :: rest =>
      let written := writeModule tree directory artifacts
      let (final, failures) := writeModules written.tree rest
      (final, written.failures :: failures)

structure Outcome where
  tree : FileTree
  /-- The directories of all modules, whether they could be written or not. -/
  directories : List String
  log : List LogRecord

/-- Write all modules below an output directory. Nothing is written unless every
module has its contents. -/
def write (tree : FileTree) (workingDirectory root : String) (sources : List Source) :
    Except LayoutFault Outcome := do
  let directories := sources.map fun source => source.home.outputDirectory workingDirectory root
  let artifacts ← sources.mapM Source.artifacts
  let (final, failures) := writeModules tree (directories.zip artifacts)
  let complete := failures.countP List.isEmpty
  let summary := "Wrote " ++ toString complete ++ " of " ++ toString sources.length ++
    " module(s) to '" ++ root ++ "'."
  return {
    tree := final
    directories
    log := failures.flatten.map (LogRecord.mk .error) ++ [⟨.info, summary⟩] }

end TypedModules.Emission
