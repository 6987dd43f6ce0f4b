import TypedModules.CommandLine.Execute
import TypedModules.CommandLine.Help

/-! # The program

The files that a command line depends on are loaded from disk, the command line
is executed on them, and what has changed is written back.
-/

open TypedModules

namespace TypedModules.Program

def place (tree : FileTree) (path : String) (content : Option ByteArray) : FileTree :=
  let location := Directory.names path
  match content, location.getLast? with
  | some bytes, some name =>
      let parent := (tree.makeDirectories "/" [] location.dropLast).state
      match parent.putFile location.dropLast name bytes with
      | .ok after => after
      | .error _ => parent
  | _, _ => (tree.makeDirectories "/" [] location).state

/-- Load a path with all that is below it. What can not be read is left out. -/
partial def loadPath (tree : FileTree) (path : String) : IO FileTree := do
  let directory := (← IO.currentDir) / path
  if ← directory.isDir then
    let mut loaded := place tree path none
    for entry in ← directory.readDir do
      loaded ← loadPath loaded entry.path.toString
    return loaded
  else if ← directory.pathExists then
    try
      return place tree path (some (← IO.FS.readBinFile directory))
    catch _ => return tree
  else return tree

def store (entry : Location × FileEntry) : IO Unit := do
  let path := (← IO.currentDir) / ("/" ++ "/".intercalate entry.1)
  match entry.2 with
  | .directory => IO.FS.createDirAll path
  | .file content => IO.FS.writeBinFile path content

/-- A run beyond the limits is carried out all the same. -/
def interpreter : Emission.Interpreter where
  nesting := 900
  beyond := Emission.run

end TypedModules.Program

def main (arguments : List String) : IO UInt32 := do
  let root := (← IO.currentDir).toString
  let mut tree := FileTree.empty
  for path in root :: CommandLine.consulted root arguments do
    tree ← Program.loadPath tree path
  let execution := CommandLine.execute Program.interpreter tree root arguments
  for record in execution.log do
    IO.eprintln record.line
  for entry in execution.tree.changesSince tree do
    Program.store entry
  match execution.answer with
  | .ok () => pure ()
  | .error (.exit .helpShown) => IO.print CommandLine.helpText
  | .error (.exit (.refused fault)) => IO.eprintln ("cds-typer-emit: error: " ++ fault.message)
  | .error (.failed fault) => IO.eprintln fault.message
  return CommandLine.exitCode execution.answer
