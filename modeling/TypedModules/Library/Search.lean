import TypedModules.Pattern.Expansion

/-! # The search for libraries

Library files are asked for by paths, directories and path patterns, and can be
excluded by paths and patterns. What is found is a set of paths, in order of
their code points.
-/

namespace TypedModules.Library

structure Search where
  root : String
  patterns : List String
  excludes : List String
  recursive : Bool

def hasLibraryName (name : String) : Bool :=
  ".ts".toList.isSuffixOf name.toList

namespace Search

def filesIn (tree : FileTree) (directory : String) : List String :=
  (((tree.list directory).filter fun entry =>
    entry.2 ≠ .directory && hasLibraryName entry.1).map fun entry =>
      Directory.append directory entry.1).filter fun path => IsFollowed path

def filesBelow (tree : FileTree) (directory : String) : List String :=
  ((tree.listAll directory).filter fun entry =>
    entry.2 ≠ .directory && entry.1.getLast?.any hasLibraryName).map fun entry =>
      Directory.append directory ("/".intercalate entry.1)

def found (search : Search) (tree : FileTree) (pattern : String) : List String :=
  let path := Directory.append search.root pattern
  if tree.leadsToDirectory path then
    if search.recursive then filesBelow tree path else filesIn tree path
  else (Pattern.Lookup.mk tree search.recursive).expand path

def excluded (search : Search) (tree : FileTree) : List String :=
  search.excludes.flatMap fun pattern =>
    (Pattern.Lookup.mk tree search.recursive).expand (Directory.append search.root pattern)

def paths (search : Search) (tree : FileTree) : List String :=
  let excluded := search.excluded tree
  Text.distinct ((search.patterns.flatMap (search.found tree)).filter fun path =>
    !excluded.contains path)

end Search

end TypedModules.Library
