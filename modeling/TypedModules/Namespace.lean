import TypedModules.Directory

/-! # Namespaces

A namespace is a list of segments and is written with dots between them. It
determines the directory of its module, the identifier under which other
modules import it, and the directory they import it from.
-/

namespace TypedModules

inductive NamespaceFault where
  | separator (segment : String)
  deriving DecidableEq

def NamespaceFault.message : NamespaceFault → String
  | separator segment => "Path part '" ++ segment ++ "' must not contain a path separator."

/-- A list of segments, none of which holds a slash. -/
structure Namespace where
  segments : List String
  slashFree : ∀ segment ∈ segments, '/' ∉ segment.toList
  deriving DecidableEq

namespace Namespace

def ofSegments (segments : List String) : Except NamespaceFault Namespace :=
  match found : segments.find? fun segment => '/' ∈ segment.toList with
  | some segment => .error (.separator segment)
  | none => .ok ⟨segments, by simpa using found⟩

/-- The namespace of a dotted text. The empty text is the empty namespace. -/
def ofDotted (text : String) : Except NamespaceFault Namespace :=
  ofSegments (if text = "" then [] else Text.pieces '.' text)

def parent (module : Namespace) : Namespace where
  segments := module.segments.dropLast
  slashFree segment member := module.slashFree segment (List.dropLast_subset _ member)

def dotted (module : Namespace) : String :=
  ".".intercalate module.segments

def identifier (module : Namespace) : String :=
  "_" ++ "_".intercalate module.segments

/-- The segments as one path, before it is normalized. The empty namespace is
the directory itself. -/
def path (module : Namespace) : String :=
  match module.segments with
  | [] => "."
  | first :: others => Directory.join first others

def withoutDot (directory : String) : String :=
  if directory = "." then "" else directory

def directory (module : Namespace) : String :=
  withoutDot (Directory.normalize module.path)

def localDirectory (module : Namespace) : String :=
  "./" ++ module.directory

/-- The directory of the module as seen from the directory `start`, if one is
given: an empty start is none. -/
def directoryFrom (module : Namespace) (workingDirectory start : String) :
    Except DirectoryFault String :=
  if start = "" then .ok module.directory
  else (Directory.relative workingDirectory module.path start).map withoutDot

def specifier (module : Namespace) (workingDirectory start : String) :
    Except DirectoryFault String :=
  (module.directoryFrom workingDirectory start).map ("./" ++ ·)

/-- Whether the module lies in the directory `start` itself. Without a start, only
the empty namespace does. -/
def isLocatedAt (module : Namespace) (workingDirectory start : String) :
    Except DirectoryFault Bool :=
  if start = "" then .ok module.segments.isEmpty
  else (module.specifier workingDirectory start).map (· = "./")

def outputDirectory (module : Namespace) (workingDirectory root : String) : String :=
  Directory.absolute workingDirectory (Directory.append root module.directory)

theorem ofSegments_eq_ok_iff (segments : List String) (module : Namespace) :
    ofSegments segments = .ok module ↔ module.segments = segments := by
  unfold ofSegments
  split
  · rename_i segment found
    simp only [reduceCtorEq, false_iff]
    intro same
    have member := List.mem_of_find?_eq_some found
    have holdsSlash := List.find?_some found
    exact module.slashFree segment (same ▸ member) (by simpa using holdsSlash)
  · cases module
    simp [eq_comm]

theorem ofSegments_eq_error_iff (segments : List String) (segment : String) :
    ofSegments segments = .error (.separator segment) ↔
      segments.find? (fun candidate => '/' ∈ candidate.toList) = some segment := by
  unfold ofSegments
  split
  · rename_i first found
    simp [found]
  · rename_i found
    simp [found]

end Namespace

end TypedModules
