/-! # Hexadecimal digits

Escapes write a code point with a fixed number of lower case digits.
-/

namespace TypedModules.Text

def hexDigit (value : Nat) : Char :=
  Nat.digitChar (value % 16)

/-- The last `width` hexadecimal digits of a number, with leading zeros. -/
def hexDigits : (width : Nat) → Nat → List Char
  | 0, _ => []
  | width + 1, value => hexDigits width (value / 16) ++ [hexDigit value]

@[simp]
theorem length_hexDigits (width value : Nat) : (hexDigits width value).length = width := by
  induction width generalizing value with
  | zero => rfl
  | succ width induction => simp [hexDigits, induction]

example : hexDigits 4 0xE9 = ['0', '0', 'e', '9'] := by decide

end TypedModules.Text
