import TypedModules.FileTree.Path
import TypedModules.Pattern.Wildcard
import TypedModules.Text.Distinct

/-! # Expansion of path patterns

A path pattern stands for the paths of a file tree that it accepts. Its literal
start is kept as it is spelled. The names behind it are looked up one after the
other, in the directories that have been found so far. Hidden names are only
found by patterns that start with a dot.

Where the search is recursive, two stars stand for any number of directories.
-/

namespace TypedModules.Pattern

/-- A path pattern: a literal directory and the names to look up from there. -/
structure PathPattern where
  start : String
  names : List String
  deriving DecidableEq

namespace PathPattern

/-- The literal directory in front of the first pattern. Slashes at its end are
dropped, unless it is made of nothing else. -/
def literalStart (literal : List String) : String :=
  if literal.all (· = "") then String.ofList (List.replicate literal.length '/')
  else "/".intercalate (literal.reverse.dropWhile (· = "")).reverse

/-- The pattern that a path holds, if it holds any. Repeated slashes count as
one, and a slash at the end asks for a directory by an empty name. -/
def ofPath? (path : String) : Option PathPattern :=
  let segments := Directory.segments path
  match segments.dropWhile fun segment => !Wildcard.isPattern segment with
  | [] => none
  | first :: rest =>
      some
        { start := literalStart (segments.takeWhile fun segment => !Wildcard.isPattern segment)
          names := first :: rest.dropLast.filter (· ≠ "") ++ rest.getLast?.toList }

end PathPattern

def isHidden (name : String) : Bool :=
  name.toList.head? = some '.'

structure Lookup where
  tree : FileTree
  recursive : Bool

namespace Lookup

def listed (directory : String) : String :=
  if directory = "" then "." else directory

/-- Everything below a directory that is not hidden, and the directory itself
under an empty name. -/
def namesBelow (lookup : Lookup) (directoriesOnly : Bool) (directory : String) : List String :=
  let found := (lookup.tree.listAll (listed directory)).filter fun entry =>
    !entry.1.any isHidden && (!directoriesOnly || entry.2 = .directory)
  (if directory = "" || lookup.tree.leadsToDirectory directory then [""] else []) ++
    found.map fun entry => "/".intercalate entry.1

def namesMatching (lookup : Lookup) (directoriesOnly : Bool) (directory pattern : String) :
    List String :=
  ((lookup.tree.list (listed directory)).filter fun entry =>
    (isHidden pattern || !isHidden entry.1) && (!directoriesOnly || entry.2 = .directory) &&
      Wildcard.accepts pattern entry.1).map Prod.fst

def names (lookup : Lookup) (directoriesOnly : Bool) (directory name : String) : List String :=
  if Wildcard.isPattern name then
    if lookup.recursive && name = "**" then lookup.namesBelow directoriesOnly directory
    else lookup.namesMatching directoriesOnly directory name
  else if name = "" then
    if lookup.tree.leadsToDirectory directory then [""] else []
  else if lookup.tree.leadsToEntry (Directory.append directory name) then [name]
  else []

def paths (lookup : Lookup) : List String → List String → List String
  | directories, [] => directories
  | directories, name :: rest =>
      lookup.paths
        (Text.distinct (directories.flatMap fun directory =>
          (lookup.names (!rest.isEmpty) directory name).map (Directory.append directory)))
        rest

/-- Whether a path without patterns is found. Slashes at its end ask for a
directory, and that directory is looked up without them. -/
def leadsSomewhere (lookup : Lookup) (path : String) : Bool :=
  if Directory.endsWithSlash path then
    lookup.tree.leadsToDirectory
      (PathPattern.literalStart (Directory.segments path).dropLast)
  else lookup.tree.leadsToEntry path

/-- The paths that a path pattern stands for. A path without patterns stands for
itself if it is found. The present directory itself is not among them. -/
def expand (lookup : Lookup) (path : String) : List String :=
  match PathPattern.ofPath? path with
  | none => if lookup.leadsSomewhere path then [path] else []
  | some pattern => (lookup.paths [pattern.start] pattern.names).filter (· ≠ "")

end Lookup

end TypedModules.Pattern
