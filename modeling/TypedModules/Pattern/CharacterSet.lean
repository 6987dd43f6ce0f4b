/-! # Character sets

A character set stands between brackets. It lists characters and ranges, where a
range is written with a hyphen between its ends. An exclamation mark in front
asks for all other characters.

The text between the brackets is cut at the hyphens that make ranges. A range
goes from the last character of one part to the first character of the next one.
-/

namespace TypedModules.Pattern

inductive CharacterSet where
  | nothing
  | anything
  /-- The listed characters and those between neighbouring parts. -/
  | among (parts : List (List Char))
  | except (parts : List (List Char))
  deriving DecidableEq

namespace CharacterSet

/-- The parts between the hyphens that make ranges. The first `skip` characters
can not be such a hyphen, nor can the first two behind one. -/
def parts (skip : Nat) (content : List Char) : List (List Char) :=
  match _cut : (content.drop skip).dropWhile (· ≠ '-') with
  | [] => [content]
  | _ :: rest =>
      (content.take skip ++ (content.drop skip).takeWhile (· ≠ '-')) :: parts 2 rest
termination_by content.length
decreasing_by
  have shorter := (List.dropWhile_sublist (· ≠ '-') : List.Sublist _ (content.drop skip)).length_le
  rw [_cut] at shorter
  simp only [List.length_cons, List.length_drop] at shorter
  omega

def withFinalHyphen : List (List Char) → List (List Char)
  | [part, []] => [part ++ ['-']]
  | part :: rest => part :: withFinalHyphen rest
  | [] => []

def isReversed (first second : List Char) : Bool :=
  match first.getLast?, second.head? with
  | some start, some stop => stop < start
  | _, _ => false

/-- Reversed ranges are dropped with their ends, and the rest of their parts is
put together. -/
def withoutReversed : List (List Char) → List (List Char)
  | [] => []
  | part :: rest =>
      match withoutReversed rest with
      | [] => [part]
      | next :: others =>
          if isReversed part next then (part.dropLast ++ next.drop 1) :: others
          else part :: next :: others

/-- The set that a text between brackets stands for. Where dropped ranges leave
the exclamation mark in front alone in its part, there is no range for the hyphen
behind it to make, and the hyphen stands for itself. -/
def ofContent (content : List Char) : CharacterSet :=
  let skip := if content.head? = some '!' then 2 else 1
  match withoutReversed (withFinalHyphen (parts skip content)) with
  | [] | [[]] => nothing
  | [['!']] => anything
  | ['!'] :: next :: rest => except (('-' :: next) :: rest)
  | ('!' :: first) :: rest => except (first :: rest)
  | parts => among parts

def isAmong (character : Char) : List (List Char) → Bool
  | [] => false
  | [part] => part.contains character
  | part :: next :: rest =>
      part.contains character || isAmong character (next :: rest) ||
        match part.getLast?, next.head? with
        | some start, some stop => start ≤ character && character ≤ stop
        | _, _ => false

def contains (set : CharacterSet) (character : Char) : Bool :=
  match set with
  | nothing => false
  | anything => true
  | among parts => isAmong character parts
  | except parts => !isAmong character parts

end CharacterSet

end TypedModules.Pattern
