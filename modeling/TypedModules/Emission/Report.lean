/-! # Reports

While modules are written, what happens is recorded.
-/

namespace TypedModules

inductive Severity where
  | info
  | warning
  | error
  deriving DecidableEq

def Severity.word : Severity → String
  | info => "INFO"
  | warning => "WARNING"
  | error => "ERROR"

structure LogRecord where
  severity : Severity
  text : String
  deriving DecidableEq

def LogRecord.line (entry : LogRecord) : String :=
  entry.severity.word ++ " " ++ entry.text

end TypedModules
