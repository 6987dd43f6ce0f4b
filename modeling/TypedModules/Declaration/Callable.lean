import TypedModules.Declaration.MemberName

/-! # Callables

A callable is not declared by its bare signature but by an object type. Beside
the signature, the object exposes the parameters as an object and the return
type, as calls pass their arguments by name.
-/

namespace TypedModules

structure Parameter where
  name : String
  type : String
  deriving DecidableEq

def Parameter.text (parameter : Parameter) : String :=
  MemberName.written parameter.name ++ ": " ++ parameter.type

def Parameter.listText (parameters : List Parameter) : String :=
  ", ".intercalate (parameters.map Parameter.text)

/-- A callable member. An empty name and an empty initialiser count as absent, and parameters
that are not given are none. -/
structure Callable where
  name : Option String := none
  parameters : List Parameter := []
  returns : String := "any"
  initialiser : Option String := none
  isStatic : Bool := false
  deriving DecidableEq

namespace Callable

def typeText (callable : Callable) : String :=
  let parameters := Parameter.listText callable.parameters
  "\x7b (" ++ parameters ++ "): " ++ callable.returns ++
    ", __parameters: \x7b" ++ parameters ++ "\x7d, __returns: " ++ callable.returns ++ " \x7d"

def label (callable : Callable) : String :=
  match callable.name.getD "" with
  | "" => ""
  | name => (if callable.isStatic then "static " else "") ++ MemberName.written name ++ ": "

def assignment (callable : Callable) : String :=
  match callable.initialiser.getD "" with
  | "" => ""
  | expression => " = " ++ expression

def text (callable : Callable) : String :=
  callable.label ++ callable.typeText ++ callable.assignment

end Callable

end TypedModules
