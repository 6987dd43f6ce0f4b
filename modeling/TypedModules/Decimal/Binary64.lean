import TypedModules.Decimal.Shortest

/-! # Binary floating point numbers of sixty-four bits

A number is known by its bits: a sign, eleven bits of exponent and fifty-two
bits of fraction.
-/

namespace TypedModules.Decimal

inductive Binary64 where
  | notANumber
  | infinite (negative : Bool)
  | zero (negative : Bool)
  | finite (negative : Bool) (magnitude : Neighbourhood)
  deriving DecidableEq

namespace Binary64

def hiddenBit : Nat := Nat.pow 2 52

def exponentMask : Nat := 2047

/-- The reals that round to `significand * 2 ^ (exponent - 1075)`. Half a unit
below and above it, except that the unit below the smallest significand of an
exponent is half as large. The ends round to an even significand only. -/
def roundingTo (significand exponent : Nat) : Neighbourhood :=
  let numeratorScale := Nat.pow 2 (exponent - 1077)
  let denominator := Nat.pow 2 (1077 - exponent)
  let gapBelow := if significand = hiddenBit ∧ 1 < exponent then 1 else 2
  { lower := (4 * significand - gapBelow) * numeratorScale
    value := 4 * significand * numeratorScale
    upper := (4 * significand + 2) * numeratorScale
    denominator
    closed := significand % 2 = 0 }

def ofBits (bits : UInt64) : Binary64 :=
  let negative := bits.toNat / hiddenBit / (exponentMask + 1) = 1
  let exponent := bits.toNat / hiddenBit % (exponentMask + 1)
  let fraction := bits.toNat % hiddenBit
  if exponent = exponentMask then
    if fraction = 0 then .infinite negative else .notANumber
  else if exponent = 0 then
    if fraction = 0 then .zero negative else .finite negative (roundingTo fraction 1)
  else .finite negative (roundingTo (hiddenBit + fraction) exponent)

end Binary64

end TypedModules.Decimal
