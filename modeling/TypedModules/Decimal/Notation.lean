import TypedModules.Decimal.Binary64

/-! # Decimal notation

Whole numbers are written in full. A floating point number is written with its
shortest digits: positionally for exponents from -4 to 15, and with an exponent
of at least two digits otherwise.
-/

namespace TypedModules.Decimal

def naturalDigits (value : Nat) : List Char :=
  Nat.toDigits 10 value

def integerText : Int → String
  | .ofNat value => String.ofList (naturalDigits value)
  | .negSucc value => String.ofList ('-' :: naturalDigits (value + 1))

structure Style where
  leastPositional : Int
  greatestPositional : Int
  exponentWidth : Nat
  infinite : String
  notANumber : String

def positional (digits : List Char) (point : Int) : List Char :=
  if point ≤ 0 then
    '0' :: '.' :: List.replicate (-point).toNat '0' ++ digits
  else
    let whole := digits.take point.toNat
    let fraction := digits.drop point.toNat
    whole ++ List.replicate (point.toNat - whole.length) '0' ++
      '.' :: (if fraction.isEmpty then ['0'] else fraction)

def scientific (style : Style) (digits : List Char) (exponent : Int) : List Char :=
  let fraction := digits.drop 1
  let exponentDigits := naturalDigits exponent.natAbs
  digits.take 1 ++ (if fraction.isEmpty then [] else '.' :: fraction) ++
    'e' :: (if exponent < 0 then '-' else '+') ::
      List.replicate (style.exponentWidth - exponentDigits.length) '0' ++ exponentDigits

def scaledText (style : Style) (scaled : Scaled) : List Char :=
  let written := naturalDigits scaled.coefficient
  let digits := (written.reverse.dropWhile (· = '0')).reverse
  let point := scaled.exponent + written.length
  if style.leastPositional ≤ point - 1 ∧ point - 1 ≤ style.greatestPositional then
    positional digits point
  else
    scientific style digits (point - 1)

def binary64Text (style : Style) : Binary64 → String
  | .notANumber => style.notANumber
  | .infinite negative => signed negative style.infinite
  | .zero negative => signed negative "0.0"
  | .finite negative magnitude =>
      signed negative (String.ofList (scaledText style magnitude.shortest))
where
  signed (negative : Bool) (text : String) : String :=
    if negative then "-" ++ text else text

end TypedModules.Decimal
