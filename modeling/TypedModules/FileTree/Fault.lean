import TypedModules.Text.Quoted

/-! # Faults of file operations
-/

namespace TypedModules

inductive FileFault where
  | missing
  | taken
  | notDirectory
  | isDirectory
  | nameTooLong
  deriving DecidableEq

namespace FileFault

/-- The number under which a reason is known to the operating system. -/
def number : FileFault → Nat
  | missing => 2
  | taken => 17
  | notDirectory => 20
  | isDirectory => 21
  | nameTooLong => 36

def words : FileFault → String
  | missing => "No such file or directory"
  | taken => "File exists"
  | notDirectory => "Not a directory"
  | isDirectory => "Is a directory"
  | nameTooLong => "File name too long"

def message (fault : FileFault) (path : String) : String :=
  "[Errno " ++ toString fault.number ++ "] " ++ fault.words ++ ": " ++ Text.quoted path

end FileFault

end TypedModules
