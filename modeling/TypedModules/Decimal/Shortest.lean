/-! # The shortest decimal of a real

A real that stands for all reals around it, up to a lower and an upper end, is
written with the fewest digits that still fall between these ends. On the
coarsest decimal grid that has a point there, the point nearest to the real is
taken, and of two equally near ones the even one.
-/

namespace TypedModules.Decimal

/-- A positive real with the ends of the reals it stands for. All three are
numerators over one denominator. -/
structure Neighbourhood where
  lower : Nat
  value : Nat
  upper : Nat
  denominator : Nat
  closed : Bool
  deriving DecidableEq

/-- A decimal `coefficient * 10 ^ exponent`. -/
structure Scaled where
  coefficient : Nat
  exponent : Int
  deriving DecidableEq

namespace Neighbourhood

def inUnits (reals : Neighbourhood) (exponent : Int) : Neighbourhood :=
  let shrink := Nat.pow 10 exponent.toNat
  let stretch := Nat.pow 10 (-exponent).toNat
  { reals with
    lower := reals.lower * stretch
    value := reals.value * stretch
    upper := reals.upper * stretch
    denominator := reals.denominator * shrink }

def holds (reals : Neighbourhood) (whole : Nat) : Bool :=
  let point := whole * reals.denominator
  if reals.closed then reals.lower ≤ point && point ≤ reals.upper
  else reals.lower < point && point < reals.upper

/-- The whole number between the ends that is nearest to the value, where the
value has one beside it. An exact tie goes to the even one. -/
def nearestWhole? (reals : Neighbourhood) : Option Nat :=
  let below := reals.value / reals.denominator
  let above := below + 1
  match reals.holds below, reals.holds above with
  | false, false => none
  | true, false => some below
  | false, true => some above
  | true, true =>
      let gapBelow := reals.value - below * reals.denominator
      let gapAbove := above * reals.denominator - reals.value
      if gapBelow < gapAbove then some below
      else if gapAbove < gapBelow then some above
      else if below % 2 = 0 then some below
      else some above

/-- The exponent of the leading decimal digit, for values between `10 ^ (-400)`
and `10 ^ 400`. -/
def leadingExponent (reals : Neighbourhood) : Int :=
  if reals.denominator ≤ reals.value then
    ((List.range 400).findIdx fun power =>
      reals.value < reals.denominator * Nat.pow 10 (power + 1) : Nat)
  else
    -((List.range 400).findIdx fun power =>
      reals.denominator ≤ reals.value * Nat.pow 10 power : Nat)

/-- The shortest decimal between the ends: the numbers of digits from one to
seventeen are tried in turn. -/
def shortest (reals : Neighbourhood) : Scaled :=
  let leading := reals.leadingExponent
  let attempt (digits : Nat) : Option Scaled :=
    let exponent := leading + 1 - digits
    (reals.inUnits exponent).nearestWhole?.map fun coefficient => ⟨coefficient, exponent⟩
  let exact : Scaled := ⟨(reals.inUnits (leading - 16)).value, leading - 16⟩
  ((List.range' 1 17).findSome? attempt).getD exact

end Neighbourhood

end TypedModules.Decimal
