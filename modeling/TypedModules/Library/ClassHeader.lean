import TypedModules.Declaration.MemberName
import TypedModules.Library.Comment
import TypedModules.Text.Blank
import TypedModules.Text.LineBreak
import TypedModules.Text.WordCharacter

/-! # Class headers

A library declares an exported class at the start of a line: the word `export`,
possibly `declare` and `abstract`, the word `class`, and the name.
-/

namespace TypedModules.Library

def afterWord? (word : String) (text : List Char) : Option (List Char) :=
  match word.toList.isPrefixOf? text with
  | some (next :: rest) =>
      if Text.isBlank next then some (rest.dropWhile Text.isBlank) else none
  | _ => none

def afterOptionalWord (word : String) (text : List Char) : List Char :=
  (afterWord? word text).getD text

def isNameCharacter (character : Char) : Bool :=
  Text.isWordCharacter character || character = '$'

/-- The name at the start of a text. It starts as an identifier does and goes on
with letters of every script. It ends with a word character: dollar signs behind
that do not belong to it. -/
def leadingName? (text : List Char) : Option (List Char) :=
  match text with
  | [] => none
  | first :: rest =>
      if MemberName.isStart first then
        let run := first :: rest.takeWhile isNameCharacter
        match (run.reverse.dropWhile (· = '$')).reverse with
        | [] => none
        | name => some name
      else none

def declaredClass? (line : List Char) : Option (List Char) := do
  let afterExport ← afterWord? "export" (Text.trim line)
  let afterModifiers := afterOptionalWord "abstract" (afterOptionalWord "declare" afterExport)
  leadingName? (← afterWord? "class" afterModifiers)

def declaredClasses (contents : String) : List String :=
  ((Text.lines (withoutComments .code contents.toList)).filterMap declaredClass?).map
    String.ofList

example : declaredClasses "export declare abstract class A$ {}\n// export class B" = ["A"] := by
  decide +kernel

end TypedModules.Library
