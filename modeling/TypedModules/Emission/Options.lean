/-! # Options

What a run is asked to do.
-/

namespace TypedModules.Emission

structure Options where
  outputDirectory : String := "@cds-models"
  /-- Paths, directories and patterns of library files. -/
  libraries : List String := []
  excludes : List String := []
  /-- Whether directories are searched with all that is below them. -/
  recursive : Bool := false
  skipBaseDefinitions : Bool := false
  deriving DecidableEq

end TypedModules.Emission
