import TypedModules.Library.ClassHeader
import TypedModules.Namespace

/-! # Libraries

A library holds predefined type definitions for a namespace, which is told from
its file name: `cap.hana.ts` is the library of the namespace `cap.hana`.
-/

namespace TypedModules

structure Library where
  file : String
  contents : String
  referenced : Bool := false
  deriving DecidableEq

namespace Library

def dotted (library : Library) : String :=
  Directory.stem (Directory.lastSegment library.file)

/-- The namespace of the library. A file name holds no slash, so it always has one. -/
def home (library : Library) : Namespace where
  segments := if library.dotted = "" then [] else Text.pieces '.' library.dotted
  slashFree := by
    intro segment isSegment holdsSlash
    split at isSegment
    · simp at isSegment
    · exact Directory.slash_notMem_lastSegment library.file
        (Directory.mem_of_mem_stem (Text.mem_of_mem_pieces isSegment holdsSlash))

def entities (library : Library) : List String :=
  declaredClasses library.contents

/-- Whether the library declares a class under a full name. A name without dots
belongs to the empty namespace. -/
def offers (library : Library) (fullName : String) : Bool :=
  match Text.cutLast '.' fullName.toList with
  | some (qualifier, name) =>
      String.ofList qualifier = library.dotted && library.entities.contains (String.ofList name)
  | none => library.dotted = "" && library.entities.contains fullName

theorem ofDotted_dotted (library : Library) :
    Namespace.ofDotted library.dotted = .ok library.home := by
  unfold Namespace.ofDotted
  exact (Namespace.ofSegments_eq_ok_iff _ _).2 (by simp only [home])

end Library

end TypedModules
