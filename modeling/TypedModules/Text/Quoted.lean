import TypedModules.Text.Hexadecimal
import TypedModules.Text.Printable

/-! # Quoted texts

Messages and listings show a text between quotes. Apostrophes are the quotes,
unless the text holds an apostrophe and no double quote. What is not printable
is shown by its code point.
-/

namespace TypedModules.Text

/-- The quote for a text: a double quote only where that saves an escape. -/
def quoteFor (text : List Char) : Char :=
  if '\'' ∈ text ∧ '"' ∉ text then '"' else '\''

def showCharacter (quote character : Char) : List Char :=
  if character = quote ∨ character = '\\' then ['\\', character]
  else if character = '\t' then ['\\', 't']
  else if character = '\n' then ['\\', 'n']
  else if character = '\r' then ['\\', 'r']
  else if isPrintable character then [character]
  else if character.toNat < 0x100 then '\\' :: 'x' :: hexDigits 2 character.toNat
  else if character.toNat < 0x10000 then '\\' :: 'u' :: hexDigits 4 character.toNat
  else '\\' :: 'U' :: hexDigits 8 character.toNat

def quoted (text : String) : String :=
  let characters := text.toList
  let quote := quoteFor characters
  String.ofList (quote :: characters.flatMap (showCharacter quote) ++ [quote])

def quotedList (texts : List String) : String :=
  "[" ++ ", ".intercalate (texts.map quoted) ++ "]"

example : quoted "a" = "'a'" ∧ quoted "it's" = "\"it's\"" ∧
    quoted "'\"" = "'\\'\"'" := by decide +kernel

end TypedModules.Text
