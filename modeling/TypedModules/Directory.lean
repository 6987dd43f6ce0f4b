import TypedModules.Text.Pieces

/-! # Directories

A directory is written as segments with slashes between them. These operations
work on the text alone: no file system is asked, so a step up always cancels
the segment before it.
-/

namespace TypedModules

inductive DirectoryFault where
  | empty
  deriving DecidableEq

def DirectoryFault.message : DirectoryFault → String
  | empty => "no path specified"

namespace Directory

def isAbsolute (path : String) : Bool :=
  path.toList.head? == some '/'

def endsWithSlash (path : String) : Bool :=
  path.toList.getLast? == some '/'

/-- A path below a directory. An absolute path stands for itself, and a slash is
added unless the directory ends with one or is empty. -/
def append (directory path : String) : String :=
  if isAbsolute path then path
  else if directory = "" ∨ endsWithSlash directory then directory ++ path
  else directory ++ "/" ++ path

def join (first : String) (others : List String) : String :=
  others.foldl append first

def segments (path : String) : List String :=
  Text.pieces '/' path

def names (path : String) : List String :=
  (segments path).filter (· ≠ "")

/-- The slashes at the start that are kept: two are kept apart from one, and
more than two count as one. -/
def rootMark (path : String) : String :=
  match path.toList with
  | '/' :: '/' :: '/' :: _ => "/"
  | '/' :: '/' :: _ => "//"
  | '/' :: _ => "/"
  | _ => ""

/-- Follow one segment from a directory, which is given by its segments with the
last one first. A step up from the root stays there, and one from an unknown
directory is kept. -/
def enter (rooted : Bool) (stack : List String) (segment : String) : List String :=
  if segment = "" ∨ segment = "." then stack
  else if segment ≠ ".." then segment :: stack
  else
    match stack with
    | [] => if rooted then [] else [".."]
    | last :: outer => if last = ".." then ".." :: stack else outer

def resolve (rooted : Bool) (path : List String) : List String :=
  (path.foldl (enter rooted) []).reverse

/-- The shortest text for the same directory. A single dot stands for the
directory that relative paths start from. -/
def normalize (path : String) : String :=
  let mark := rootMark path
  let text := mark ++ "/".intercalate (resolve (mark ≠ "") (segments path))
  if text = "" then "." else text

def absolute (workingDirectory path : String) : String :=
  normalize (append workingDirectory path)

def commonLength : List String → List String → Nat
  | first :: firstRest, second :: secondRest =>
      if first = second then commonLength firstRest secondRest + 1 else 0
  | _, _ => 0

/-- The steps that lead from one place to another: up to the last common
directory, and down from there. -/
def route (start target : List String) : List String :=
  let common := commonLength start target
  List.replicate (start.length - common) ".." ++ target.drop common

def relative (workingDirectory path start : String) : Except DirectoryFault String :=
  if path = "" then .error .empty
  else
    match route (names (absolute workingDirectory start))
        (names (absolute workingDirectory path)) with
    | [] => .ok "."
    | steps => .ok ("/".intercalate steps)

def lastSegment (path : String) : String :=
  String.ofList (Text.afterLast '/' path.toList)

/-- A file name without its extension. Dots at the start of the name do not
begin an extension. -/
def stem (name : String) : String :=
  match Text.cutLast '.' name.toList with
  | some (before, _) => if before.all (· = '.') then name else String.ofList before
  | none => name

theorem slash_notMem_lastSegment (path : String) : '/' ∉ (lastSegment path).toList := by
  simpa [lastSegment] using Text.notMem_afterLast '/' path.toList

theorem mem_of_mem_stem {name : String} {character : Char}
    (inStem : character ∈ (stem name).toList) : character ∈ name.toList := by
  unfold stem at inStem
  split at inStem
  · rename_i before after cut
    split at inStem
    · exact inStem
    · rw [(Text.eq_append_of_cutLast cut).1]
      exact List.mem_append_left _ (by simpa using inStem)
  · exact inStem

@[simp]
theorem enter_empty (rooted : Bool) (stack : List String) : enter rooted stack "" = stack := by
  simp [enter]

@[simp]
theorem enter_dot (rooted : Bool) (stack : List String) : enter rooted stack "." = stack := by
  simp [enter]

theorem enter_of_ordinary (rooted : Bool) (stack : List String) {segment : String}
    (named : segment ≠ "") (notHere : segment ≠ ".") (notUp : segment ≠ "..") :
    enter rooted stack segment = segment :: stack := by
  simp [enter, named, notHere, notUp]

example : normalize "//a/./b/../c/" = "//a/c" ∧ normalize "/.." = "/" ∧
    normalize "a/../.." = ".." ∧ normalize "" = "." := by decide +kernel

example : stem "cap.hana.ts" = "cap.hana" ∧ stem "..ts" = "..ts" ∧ stem "a." = "a" := by
  decide +kernel

end Directory

end TypedModules
