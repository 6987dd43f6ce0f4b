import TypedModules.Literal

/-! # Faults in the layout of generated text
-/

namespace TypedModules

inductive LayoutFault where
  | notIndented
  | closed (name : String)
  /-- The namespace block is closed while its body is not indented by one level. -/
  | unbalanced (name : String)
  | literal (fault : LiteralFault)
  deriving DecidableEq

def LayoutFault.message : LayoutFault → String
  | notIndented => "Can not outdent buffer further. Probably mismatched indent."
  | closed name =>
      "Tried to add content to namespace buffer '" ++ name ++ "' that was already closed."
  | unbalanced name =>
      "Namespace buffer '" ++ name ++ "' is closed with unbalanced indentation."
  | literal fault => fault.message

end TypedModules
