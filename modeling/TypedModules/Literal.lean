import TypedModules.Decimal.Notation
import TypedModules.Text.Hexadecimal

/-! # Literals

The members of an enumeration have scalar values. Each is written as a literal
of printable ASCII characters: a text between double quotes, with escapes for
everything else, and all other values by their usual notation. A whole number
with too many digits has no literal.
-/

namespace TypedModules

inductive Scalar where
  | null
  | boolean (value : Bool)
  | integer (value : Int)
  /-- A floating point number, given by its bits. -/
  | real (bits : UInt64)
  | text (value : String)
  deriving DecidableEq

inductive LiteralFault where
  | tooManyDigits
  deriving DecidableEq

namespace Scalar

/-- Floating point literals turn to an exponent below -4 and from 16 on. -/
def realStyle : Decimal.Style where
  leastPositional := -4
  greatestPositional := 15
  exponentWidth := 2
  infinite := "Infinity"
  notANumber := "NaN"

def escapeUnit (unit : Nat) : List Char :=
  '\\' :: 'u' :: Text.hexDigits 4 unit

/-- A character within a quoted literal. Characters beyond the basic plane are
written as a surrogate pair. -/
def escape (character : Char) : List Char :=
  if character = '"' then ['\\', '"']
  else if character = '\\' then ['\\', '\\']
  else if character = '\n' then ['\\', 'n']
  else if character = '\r' then ['\\', 'r']
  else if character = '\t' then ['\\', 't']
  else if character = '\x0c' then ['\\', 'f']
  else if character = '\x08' then ['\\', 'b']
  else if ' ' ≤ character ∧ character ≤ '~' then [character]
  else if character.toNat < 0x10000 then escapeUnit character.toNat
  else
    let beyond := character.toNat - 0x10000
    escapeUnit (0xD800 + beyond / 0x400) ++ escapeUnit (0xDC00 + beyond % 0x400)

def quotedLiteral (value : String) : String :=
  String.ofList ('"' :: value.toList.flatMap escape ++ ['"'])

def fullLiteral : Scalar → String
  | null => "null"
  | boolean true => "true"
  | boolean false => "false"
  | integer value => Decimal.integerText value
  | real bits => Decimal.binary64Text realStyle (.ofBits bits)
  | text value => quotedLiteral value

def digitLimit : Nat := 4300

/-- Only whole numbers with too many digits can not be written. -/
def IsRenderable : Scalar → Prop
  | integer value => (Decimal.naturalDigits value.natAbs).length ≤ digitLimit
  | null | boolean _ | real _ | text _ => True

instance : DecidablePred IsRenderable
  | integer value =>
      inferInstanceAs (Decidable ((Decimal.naturalDigits value.natAbs).length ≤ digitLimit))
  | null | boolean _ | real _ | text _ => isTrue trivial

def literal (value : Scalar) : Except LiteralFault String :=
  if value.IsRenderable then .ok value.fullLiteral else .error .tooManyDigits

end Scalar

def LiteralFault.message : LiteralFault → String
  | tooManyDigits =>
      "Exceeds the limit (" ++ toString Scalar.digitLimit ++ " digits) for integer string " ++
        "conversion; use sys.set_int_max_str_digits() to increase the limit"

end TypedModules
