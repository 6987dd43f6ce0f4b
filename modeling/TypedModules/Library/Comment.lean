/-! # Comments

A block comment may span lines and may lack its end. A line comment goes on to
the end of the line. Removing comments keeps their line feeds, so that the code
around them keeps its line.
-/

namespace TypedModules.Library

inductive CommentScan where
  | code
  | lineComment
  | blockComment
  deriving DecidableEq

def withoutComments : CommentScan → List Char → List Char
  | .code, '/' :: '*' :: rest => withoutComments .blockComment rest
  | .code, '/' :: '/' :: rest => withoutComments .lineComment rest
  | .code, character :: rest => character :: withoutComments .code rest
  | .lineComment, '\n' :: rest => '\n' :: withoutComments .code rest
  | .lineComment, _ :: rest => withoutComments .lineComment rest
  | .blockComment, '*' :: '/' :: rest => withoutComments .code rest
  | .blockComment, '\n' :: rest => '\n' :: withoutComments .blockComment rest
  | .blockComment, _ :: rest => withoutComments .blockComment rest
  | _, [] => []

def scanEnd : CommentScan → List Char → CommentScan
  | .code, '/' :: '*' :: rest => scanEnd .blockComment rest
  | .code, '/' :: '/' :: rest => scanEnd .lineComment rest
  | .code, _ :: rest => scanEnd .code rest
  | .lineComment, '\n' :: rest => scanEnd .code rest
  | .lineComment, _ :: rest => scanEnd .lineComment rest
  | .blockComment, '*' :: '/' :: rest => scanEnd .code rest
  | .blockComment, _ :: rest => scanEnd .blockComment rest
  | state, [] => state

/-! A comment starts behind code with two characters of its own. -/

theorem withoutComments_startBlock (rest : List Char) :
    withoutComments .code ('/' :: '*' :: rest) = withoutComments .blockComment rest := by
  rw [withoutComments]

theorem withoutComments_startLine (rest : List Char) :
    withoutComments .code ('/' :: '/' :: rest) = withoutComments .lineComment rest := by
  rw [withoutComments]

theorem scanEnd_startBlock (rest : List Char) :
    scanEnd .code ('/' :: '*' :: rest) = scanEnd .blockComment rest := by
  rw [scanEnd]

theorem scanEnd_startLine (rest : List Char) :
    scanEnd .code ('/' :: '/' :: rest) = scanEnd .lineComment rest := by
  rw [scanEnd]

def IsClosed (text : List Char) : Prop :=
  scanEnd .code text ≠ .blockComment

instance (text : List Char) : Decidable (IsClosed text) :=
  inferInstanceAs (Decidable (_ ≠ _))

example : withoutComments .code "a/*b\nc*/d//e\nf".toList = "a\nd\nf".toList := by
  decide +kernel

example : withoutComments .code "a/*/b".toList = "a".toList := by decide +kernel

end TypedModules.Library
