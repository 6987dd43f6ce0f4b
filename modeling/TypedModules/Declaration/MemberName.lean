/-! # Member names

A name stands for itself as a member of an object or as a parameter when it is
an identifier. Every other name is written between double quotes.
-/

namespace TypedModules.MemberName

def isStart (character : Char) : Bool :=
  character.isAlpha || character = '_' || character = '$'

def isPart (character : Char) : Bool :=
  character.isAlphanum || character = '_' || character = '$'

/-- Whether the characters form an identifier. A line break at the very end is
let pass. -/
def isIdentifier : List Char → Bool
  | [] => false
  | first :: rest =>
      isStart first && ((rest.dropWhile isPart).isEmpty || rest.dropWhile isPart == ['\n'])

/-- The written form of a name. The empty name is left alone, and a quoted name
is not escaped. -/
def written (name : String) : String :=
  if name = "" ∨ isIdentifier name.toList then name else "\"" ++ name ++ "\""

theorem isPart_of_isStart {character : Char} (start : isStart character = true) :
    isPart character = true := by
  simp only [isStart, isPart, Char.isAlphanum, Bool.or_eq_true] at *
  rcases start with (letter | underscore) | dollar <;> simp [*]

example : written "title" = "title" ∧ written "sap-id" = "\"sap-id\"" := by decide

end TypedModules.MemberName
