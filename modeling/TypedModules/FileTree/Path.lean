import TypedModules.Directory
import TypedModules.FileTree.Basic
import TypedModules.FileTree.Fault

/-! # Paths in a file tree

A path is followed name by name from the root directory. Every name but the last
has to be that of a directory, and so has the last one if a slash follows it. A
path that is too long is not followed at all, wherever it leads.
-/

namespace TypedModules

def longestPath : Nat := 4095

def IsFollowed (path : String) : Prop :=
  path.utf8ByteSize ≤ longestPath

instance (path : String) : Decidable (IsFollowed path) :=
  inferInstanceAs (Decidable (_ ≤ _))

namespace FileTree

def follow (tree : FileTree) : Location → List String → Except FileFault Location
  | location, [] => .ok location
  | location, segment :: rest =>
      if ¬tree.IsDirectory location then .error .notDirectory
      else if segment = "" ∨ segment = "." then tree.follow location rest
      else if segment = ".." then tree.follow location.dropLast rest
      else if longestName < segment.utf8ByteSize then .error .nameTooLong
      else if (tree.lookup (location ++ [segment])).isNone then .error .missing
      else tree.follow (location ++ [segment]) rest

def locate (tree : FileTree) (path : String) : Except FileFault Location :=
  if path = "" then .error .missing
  else if ¬IsFollowed path then .error .nameTooLong
  else tree.follow [] (Directory.segments path)

def find? (tree : FileTree) (path : String) : Option FileEntry :=
  match tree.locate path with
  | .ok location => tree.lookup location
  | .error _ => none

def leadsToEntry (tree : FileTree) (path : String) : Bool :=
  (tree.find? path).isSome

def leadsToDirectory (tree : FileTree) (path : String) : Bool :=
  tree.find? path = some .directory

def list (tree : FileTree) (path : String) : List (String × FileEntry) :=
  match tree.locate path with
  | .ok location => tree.children location
  | .error _ => []

def pathBelow (path : String) (names : Location) : String :=
  if names = [] then path else Directory.append path ("/".intercalate names)

/-- The entries below the directory that a path leads to. A directory whose own
path is too long is listed, and nothing below it. -/
def listAll (tree : FileTree) (path : String) : List (Location × FileEntry) :=
  match tree.locate path with
  | .ok location =>
      (tree.below location).filter fun entry => IsFollowed (pathBelow path entry.1.dropLast)
  | .error _ => []

def read (tree : FileTree) (path : String) : Except FileFault ByteArray :=
  match tree.locate path with
  | .error fault => .error fault
  | .ok location =>
      match tree.lookup location with
      | some (.file content) => .ok content
      | some .directory => .error .isDirectory
      | none => .error .missing

end FileTree

end TypedModules
