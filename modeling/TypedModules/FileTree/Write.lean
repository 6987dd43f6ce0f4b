import TypedModules.Attempt
import TypedModules.FileTree.Path

/-! # Writing to a file tree

Missing directories on the way to a file are created one after the other. One
that can not be created ends the attempt, and those above it stay. A directory
with a path that is too long can not be created. There may be any number of missing
directories. How many an interpreter can make at once is a matter of the run.
-/

namespace TypedModules

namespace FileTree

def create (tree : FileTree) (parent : Location) (name : String) (entry : FileEntry) :
    Except FileFault FileTree :=
  if isDirectory : tree.IsDirectory parent then
    if named : IsEntryName name then
      if free : parent ++ [name] ∉ tree.entries.map Prod.fst then
        .ok (tree.insert parent name entry named isDirectory free)
      else .error .taken
    else if longestName < name.utf8ByteSize then .error .nameTooLong
    else .error .taken
  else .error .notDirectory

def spelled (mark : String) (location : Location) : String :=
  mark ++ "/".intercalate location

/-- Make sure that a location below `parent` is a directory, and create what is
missing on the way. A failure comes with the path where it happened. -/
def makeDirectories (tree : FileTree) (mark : String) (parent : Location) :
    List String → Attempt (FileFault × String) FileTree Unit
  | [] => ⟨tree, .ok ()⟩
  | name :: rest =>
      let location := parent ++ [name]
      let path := spelled mark location
      if ¬IsFollowed path then ⟨tree, .error (.nameTooLong, path)⟩
      else
        match tree.lookup location with
        | some .directory => tree.makeDirectories mark location rest
        | some (.file _) =>
            match rest with
            | [] => ⟨tree, .error (.taken, path)⟩
            | next :: _ =>
                let below := spelled mark (location ++ [next])
                ⟨tree, .error (if IsFollowed below then .notDirectory else .nameTooLong, below)⟩
        | none =>
            match tree.create parent name .directory with
            | .ok after => after.makeDirectories mark location rest
            | .error fault => ⟨tree, .error (fault, path)⟩

def putFile (tree : FileTree) (parent : Location) (name : String) (content : ByteArray) :
    Except FileFault FileTree :=
  match tree.lookup (parent ++ [name]) with
  | some .directory => .error .isDirectory
  | some (.file _) => .ok (tree.overwrite (parent ++ [name]) content)
  | none => tree.create parent name (.file content)

def writeFile (tree : FileTree) (directory name : String) (content : ByteArray) :
    Except FileFault FileTree :=
  if IsFollowed (Directory.append directory name) then
    tree.putFile (Directory.names directory) name content
  else .error .nameTooLong

def changesSince (tree earlier : FileTree) : List (Location × FileEntry) :=
  tree.entries.filter fun entry => earlier.lookup entry.1 ≠ some entry.2

end FileTree

end TypedModules
