import TypedModules.CommandLine.OptionKey
import TypedModules.Text.Quoted

/-! # Faults of a command line
-/

namespace TypedModules.CommandLine

inductive ArgumentFault where
  | ambiguous (text : String) (candidates : List OptionKey)
  | valueExpected (key : OptionKey)
  | valueIgnored (key : OptionKey) (value : String)
  | unrecognized (arguments : List String)
  deriving DecidableEq

def ArgumentFault.message : ArgumentFault → String
  | ambiguous text candidates =>
      "ambiguous option: " ++ text ++ " could match " ++
        ", ".intercalate (candidates.map OptionKey.long)
  | valueExpected key =>
      let wanted :=
        match key.arity with
        | .someValues => "expected at least one argument"
        | .oneValue | .noValue => "expected one argument"
      "argument " ++ key.displayName ++ ": " ++ wanted
  | valueIgnored key value =>
      "argument " ++ key.displayName ++ ": ignored explicit argument " ++ Text.quoted value
  | unrecognized arguments => "unrecognized arguments: " ++ " ".intercalate arguments

end TypedModules.CommandLine
