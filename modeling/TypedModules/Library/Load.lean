import TypedModules.FileTree.Path
import TypedModules.Library.Basic

/-! # Loading libraries

A library file is text in UTF-8. Its line breaks are unified when it is read, and
everything else is kept, a byte order mark included.
-/

namespace TypedModules

inductive LoadFault where
  | unreadable (fault : FileFault) (path : String)
  | encoding (path : String)
  deriving DecidableEq

def LoadFault.message : LoadFault → String
  | unreadable fault path => fault.message path
  | encoding path => "The library " ++ Text.quoted path ++ " is not a UTF-8 text."

namespace Library

def textOf? (content : ByteArray) : Option String :=
  (String.fromUTF8? content).map fun text =>
    String.ofList (Text.unifyLineBreaks text.toList)

def load (tree : FileTree) (path : String) : Except LoadFault Library :=
  match tree.read path with
  | .error fault => .error (.unreadable fault path)
  | .ok content =>
      match textOf? content with
      | some contents => .ok { file := path, contents }
      | none => .error (.encoding path)

end Library

end TypedModules
