import TypedModules.CommandLine.Argument
import TypedModules.Emission.Options

/-! # Reading a command line

The arguments are told apart one by one, and each option is put together with
the values behind it. Short options without values may share one argument. When
an option is given twice, the last time counts. Asking for help ends the reading.
From two dashes alone on, nothing is read any more, and all that is left over is
refused.
-/

namespace TypedModules.CommandLine

open Emission (Options)

inductive Exit where
  | helpShown
  | refused (fault : ArgumentFault)
  deriving DecidableEq

/-- An argument that is no value, with the values behind it. -/
structure Group where
  head : Argument
  values : List String
  deriving DecidableEq

def grouped : List Argument → List String × List Group
  | [] => ([], [])
  | .value text :: rest =>
      let (values, groups) := grouped rest
      (text :: values, groups)
  | head :: rest =>
      let (values, groups) := grouped rest
      ([], ⟨head, values⟩ :: groups)

inductive BundleEnd where
  | attached (key : OptionKey) (value : String)
  | following (key : OptionKey)
  | unknown (text : String)
  deriving DecidableEq

structure Bundle where
  flags : List OptionKey
  last : BundleEnd
  deriving DecidableEq

namespace Bundle

def addFlag (key : OptionKey) (bundle : Bundle) : Bundle :=
  { bundle with flags := key :: bundle.flags }

/-- The options of an argument with a short spelling, for what follows its letter:
the value of the option, possibly behind an equals sign, or further letters. -/
def ofTail (key : OptionKey) : List Char → Except ArgumentFault Bundle
  | [] => .ok ⟨[], .following key⟩
  | '=' :: value =>
      if key.arity = .noValue then .error (.valueIgnored key (String.ofList value))
      else .ok ⟨[], .attached key (String.ofList value)⟩
  | letter :: rest =>
      if key.arity ≠ .noValue then .ok ⟨[], .attached key (String.ofList (letter :: rest))⟩
      else if letter = '-' then .error (.valueIgnored key (String.ofList (letter :: rest)))
      else
        match OptionKey.ofLetter? letter with
        | none => .ok ⟨[key], .unknown (String.ofList ('-' :: letter :: rest))⟩
        | some next => (ofTail next rest).map (addFlag key)

def ofLong (key : OptionKey) : Option String → Except ArgumentFault Bundle
  | none => .ok ⟨[], .following key⟩
  | some value =>
      if key.arity = .noValue then .error (.valueIgnored key value)
      else .ok ⟨[], .attached key value⟩

def ofArgument : Argument → Except ArgumentFault Bundle
  | .long key value => ofLong key value
  | .short key tail => ofTail key tail
  | .value text | .unknown text => .ok ⟨[], .unknown text⟩

end Bundle

def raiseFlag (options : Options) : OptionKey → Except Exit Options
  | .help => .error .helpShown
  | .noBaseDefinitions => .ok { options with skipBaseDefinitions := true }
  | .recursive => .ok { options with recursive := true }
  | .outputDirectory | .libraries | .excludes => .ok options

def raiseFlags (options : Options) : List OptionKey → Except Exit Options
  | [] => .ok options
  | key :: rest => do raiseFlags (← raiseFlag options key) rest

def give (options : Options) (key : OptionKey) (values : List String) : Options :=
  match key with
  | .outputDirectory =>
      { options with outputDirectory := values.headD options.outputDirectory }
  | .libraries => { options with libraries := values }
  | .excludes => { options with excludes := values }
  | .help | .noBaseDefinitions | .recursive => options

def takeBundle (options : Options) (bundle : Bundle) (values : List String) :
    Except Exit (Options × List String) :=
  match bundle.last with
  | .attached key value => do
      let raised ← raiseFlags options bundle.flags
      return (give raised key [value], values)
  | .unknown text => do return (← raiseFlags options bundle.flags, text :: values)
  | .following key =>
      match key.arity, values with
      | .noValue, _ => do return (← raiseFlags options (bundle.flags ++ [key]), values)
      | _, [] => .error (.refused (.valueExpected key))
      | .oneValue, value :: rest => do
          let raised ← raiseFlags options bundle.flags
          return (give raised key [value], rest)
      | .someValues, _ => do
          let raised ← raiseFlags options bundle.flags
          return (give raised key values, [])

def takeGroup (options : Options) (group : Group) : Except Exit (Options × List String) :=
  match Bundle.ofArgument group.head with
  | .error fault => .error (.refused fault)
  | .ok bundle => takeBundle options bundle group.values

def takeAll (options : Options) : List Group → Except Exit (Options × List String)
  | [] => .ok (options, [])
  | group :: rest => do
      let (taken, left) ← takeGroup options group
      let (final, others) ← takeAll taken rest
      return (final, left ++ others)

def parse (arguments : List String) : Except Exit Options := do
  let told ← ((arguments.takeWhile (· ≠ "--")).mapM Argument.ofText).mapError .refused
  let (stray, groups) := grouped told
  let (options, left) ← takeAll {} groups
  match stray ++ left ++ arguments.dropWhile (· ≠ "--") with
  | [] => return options
  | unrecognized => .error (.refused (.unrecognized unrecognized))

end TypedModules.CommandLine
