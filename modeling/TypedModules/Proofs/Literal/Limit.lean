import Mathlib.Algebra.Group.Int.Defs
import Mathlib.Algebra.Group.Nat.Defs
import TypedModules.Literal

/-! # Values without a literal

Of all values, only whole numbers can have too many digits, and they do from a power of
ten on.
-/

namespace TypedModules.Scalar

variable {value : Scalar} {literal : String} {fault : LiteralFault}

theorem literal_eq_ok_iff :
    value.literal = .ok literal ↔ value.IsRenderable ∧ literal = value.fullLiteral := by
  unfold Scalar.literal
  by_cases renderable : value.IsRenderable
  · simp [renderable, eq_comm]
  · simp [renderable]

theorem literal_eq_error_iff : value.literal = .error fault ↔ ¬value.IsRenderable := by
  unfold Scalar.literal
  cases fault
  by_cases renderable : value.IsRenderable <;> simp [renderable]

theorem isRenderable_integer_iff (number : Int) :
    (integer number).IsRenderable ↔ number.natAbs < 10 ^ digitLimit :=
  Nat.length_toDigits_le_iff (by decide) (by decide)

theorem not_isRenderable_iff :
    ¬value.IsRenderable ↔ ∃ number, value = integer number ∧ 10 ^ digitLimit ≤ number.natAbs := by
  cases value with
  | integer number => simp [isRenderable_integer_iff]
  | null | boolean value | real bits | text value => simp [IsRenderable]

theorem not_isRenderable_powerOfTen : ¬(integer (10 ^ digitLimit)).IsRenderable := by
  have size : ((10 : Int) ^ digitLimit).natAbs = 10 ^ digitLimit := by
    simp only [Int.natAbs_pow, Int.reduceAbs]
  rw [isRenderable_integer_iff, size]
  exact Nat.lt_irrefl _

end TypedModules.Scalar
