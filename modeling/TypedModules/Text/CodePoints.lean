/-! # Sets of characters

A set of characters is given by the closed ranges of code points that it
consists of, in ascending order.
-/

namespace TypedModules.Text

abbrev CodePoints := List (Nat × Nat)

def CodePoints.contains (ranges : CodePoints) (character : Char) : Bool :=
  ranges.any fun range => range.1 ≤ character.toNat && character.toNat ≤ range.2

theorem CodePoints.contains_iff (ranges : CodePoints) (character : Char) :
    ranges.contains character = true ↔
      ∃ range ∈ ranges, range.1 ≤ character.toNat ∧ character.toNat ≤ range.2 := by
  simp [CodePoints.contains, List.any_eq_true]

end TypedModules.Text
