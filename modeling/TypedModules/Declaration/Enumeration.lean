import TypedModules.Declaration.MemberName
import TypedModules.Layout.LineBuffer
import TypedModules.Literal

/-! # Enumerations

An enumeration is declared as a constant object with a type of the same name,
which is the union of the values. At run time it is an object with the same
members. The texts are those of values that all have a literal. If one of them
has none, the declaration breaks off in front of its member.
-/

namespace TypedModules

structure Enumeration where
  name : String
  members : List (String × Scalar)
  deriving DecidableEq

namespace Enumeration

def memberText (member : String × Scalar) : String :=
  MemberName.written member.1 ++ ": " ++ member.2.fullLiteral

def alternatives (enumeration : Enumeration) : List String :=
  (enumeration.members.map fun member => member.2.fullLiteral).eraseDups

def unionText (enumeration : Enumeration) : String :=
  match enumeration.alternatives with
  | [] => "never"
  | alternatives => " | ".intercalate alternatives

def IsRenderable (enumeration : Enumeration) : Prop :=
  ∀ member ∈ enumeration.members, member.2.IsRenderable

instance : DecidablePred IsRenderable := fun enumeration =>
  inferInstanceAs (Decidable (∀ member ∈ enumeration.members, member.2.IsRenderable))

def memberEdit (member : String × Scalar) : Except LiteralFault Edit :=
  member.2.literal.map fun literal =>
    .add (MemberName.written member.1 ++ ": " ++ literal ++ ",")

/-- The edits that write the declaration. A blank line in front of it separates
it from what is already there. -/
def edits (enumeration : Enumeration) (exported separated : Bool) :
    List (Except LiteralFault Edit) :=
  let modifier := if exported then "export " else ""
  (if separated then [.ok (.add "")] else []) ++
    [.ok (.add "// enum"), .ok (.add (modifier ++ "const " ++ enumeration.name ++ " = \x7b")),
      .ok .indent] ++
    enumeration.members.map memberEdit ++
    [.ok .outdent, .ok (.add "\x7d as const;"),
      .ok (.add (modifier ++ "type " ++ enumeration.name ++ " = " ++ enumeration.unionText ++
        ";"))]

def objectText (enumeration : Enumeration) : String :=
  match enumeration.members with
  | [] => "\x7b\x7d"
  | members => "\x7b " ++ ", ".intercalate (members.map memberText) ++ " \x7d"

def exportText (enumeration : Enumeration) : String :=
  "module.exports." ++ enumeration.name ++ " = " ++ enumeration.objectText

end Enumeration

end TypedModules
