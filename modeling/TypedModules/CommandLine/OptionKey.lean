/-! # Option keys

Every option has a long spelling, and most have a short one. An option takes no
values, exactly one, or at least one.
-/

namespace TypedModules.CommandLine

inductive OptionKey where
  | help
  | outputDirectory
  | libraries
  | excludes
  | noBaseDefinitions
  | recursive
  deriving DecidableEq

inductive Arity where
  | noValue
  | oneValue
  | someValues
  deriving DecidableEq

namespace OptionKey

def all : List OptionKey :=
  [help, outputDirectory, libraries, excludes, noBaseDefinitions, recursive]

def letter? : OptionKey → Option Char
  | help => some 'h'
  | outputDirectory => some 'o'
  | libraries => some 'l'
  | excludes => some 'e'
  | noBaseDefinitions => none
  | recursive => some 'r'

def long : OptionKey → String
  | help => "--help"
  | outputDirectory => "--output-dir"
  | libraries => "--libraries"
  | excludes => "--excludes"
  | noBaseDefinitions => "--no-base-definitions"
  | recursive => "--recursive"

def arity : OptionKey → Arity
  | outputDirectory => .oneValue
  | libraries | excludes => .someValues
  | help | noBaseDefinitions | recursive => .noValue

def displayName (key : OptionKey) : String :=
  match key.letter? with
  | some letter => "-" ++ String.singleton letter ++ "/" ++ key.long
  | none => key.long

def ofLetter? (letter : Char) : Option OptionKey :=
  all.find? fun key => key.letter? = some letter

def ofLong? (text : String) : Option OptionKey :=
  all.find? fun key => key.long = text

def startingWith (text : String) : List OptionKey :=
  all.filter fun key => text.toList.isPrefixOf key.long.toList

end OptionKey

end TypedModules.CommandLine
