import TypedModules.CommandLine.Fault
import TypedModules.Text.DecimalDigit

/-! # Arguments

Each argument by itself is a value, an option or unknown. Negative numbers,
texts with spaces, and a dash alone are values although they start with a dash.
A long spelling may be abbreviated and may have a value behind an equals sign. A
short spelling is one letter, and what follows it is told apart later.
-/

namespace TypedModules.CommandLine

inductive Argument where
  | value (text : String)
  | long (key : OptionKey) (value : Option String)
  | short (key : OptionKey) (tail : List Char)
  | unknown (text : String)
  deriving DecidableEq

namespace Argument

/-- Whether a text is a number with a minus sign. A line break at the very end is
let pass. -/
def isNegativeNumber (text : List Char) : Bool :=
  let isEnd (rest : List Char) : Bool := rest.isEmpty || rest = ['\n']
  let isNumber (digits : List Char) : Bool :=
    digits.head?.any Text.isDecimalDigit && isEnd (digits.dropWhile Text.isDecimalDigit)
  match text with
  | '-' :: digits =>
      isNumber digits ||
        match digits.dropWhile Text.isDecimalDigit with
        | '.' :: fraction => isNumber fraction
        | _ => false
  | _ => false

def valueOrUnknown (text : String) : Argument :=
  if isNegativeNumber text.toList || text.toList.contains ' ' then value text
  else unknown text

/-- A long spelling or an abbreviation of it, possibly with a value. A spelling in
full is not mistaken for the start of another one. -/
def ofLong (text : String) : Except ArgumentFault Argument :=
  let name := String.ofList (text.toList.takeWhile (· ≠ '='))
  let attached :=
    match text.toList.dropWhile (· ≠ '=') with
    | [] => none
    | _ :: rest => some (String.ofList rest)
  match OptionKey.ofLong? name with
  | some key => .ok (long key attached)
  | none =>
      match OptionKey.startingWith name with
      | [] => .ok (valueOrUnknown text)
      | [key] => .ok (long key attached)
      | candidates => .error (.ambiguous text candidates)

def ofText (text : String) : Except ArgumentFault Argument :=
  match text.toList with
  | '-' :: '-' :: _ => ofLong text
  | '-' :: letter :: tail =>
      match OptionKey.ofLetter? letter with
      | some key => .ok (short key tail)
      | none => .ok (valueOrUnknown text)
  | _ => .ok (value text)

end Argument

end TypedModules.CommandLine
