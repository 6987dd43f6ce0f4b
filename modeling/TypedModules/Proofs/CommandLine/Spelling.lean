import Mathlib.Data.List.Nodup
import Mathlib.Data.List.Perm.Basic
import TypedModules.CommandLine.Parse
import TypedModules.Proofs.Text.Trimming

/-! # How a command line is spelled

An option is spelled by its letter or by any start of its name, with its values behind it.
However the options that are asked for are spelled, and in whatever order they are given,
just these are read, and the others keep their defaults.
-/

namespace TypedModules.CommandLine

open Emission (Options)

/-! ## Options as they are written -/

inductive GivenOption where
  | outputDirectory (value : String)
  | libraries (first : String) (others : List String)
  | excludes (first : String) (others : List String)
  | noBaseDefinitions
  | recursive
  deriving DecidableEq

namespace GivenOption

def key : GivenOption → OptionKey
  | outputDirectory _ => .outputDirectory
  | libraries _ _ => .libraries
  | excludes _ _ => .excludes
  | noBaseDefinitions => .noBaseDefinitions
  | recursive => .recursive

def values : GivenOption → List String
  | outputDirectory value => [value]
  | libraries first others | excludes first others => first :: others
  | noBaseDefinitions | recursive => []

def set (given : GivenOption) (options : Options) : Options :=
  match given with
  | outputDirectory value => { options with outputDirectory := value }
  | libraries first others => { options with libraries := first :: others }
  | excludes first others => { options with excludes := first :: others }
  | noBaseDefinitions => { options with skipBaseDefinitions := true }
  | recursive => { options with recursive := true }

end GivenOption

def IsValue (text : String) : Prop :=
  text.toList.head? ≠ some '-'

instance (text : String) : Decidable (IsValue text) :=
  inferInstanceAs (Decidable (_ ≠ _))

/-- The spellings of an option: its letter, if it has one, and the starts of its name. -/
inductive Spells (key : OptionKey) : String → Prop
  | letter {letter : Char} (listed : key.letter? = some letter) :
      Spells key ("-" ++ String.singleton letter)
  | long {front : String} (filled : front ≠ "")
      (isStart : ("--" ++ front).toList <+: key.long.toList) : Spells key ("--" ++ front)

/-- The arguments that an option is written as. Only a value that is attached by an equals
sign may start like an option. -/
inductive Writes : GivenOption → List String → Prop
  | separate {given : GivenOption} {spelling : String} (spells : Spells given.key spelling)
      (plain : ∀ value ∈ given.values, IsValue value) : Writes given (spelling :: given.values)
  | attached (value : String) : Writes (.outputDirectory value) ["--output-dir=" ++ value]

/-- What a command line is to ask for. An option that is not given is absent, and a list
of values holds at least one. -/
structure Request where
  outputDirectory : Option String
  libraries : Option (String × List String)
  excludes : Option (String × List String)
  noBaseDefinitions : Bool
  recursive : Bool

namespace Request

def given (request : Request) : List GivenOption :=
  (request.outputDirectory.map .outputDirectory).toList ++
    (request.libraries.map fun list => .libraries list.1 list.2).toList ++
    (request.excludes.map fun list => .excludes list.1 list.2).toList ++
    (if request.noBaseDefinitions then [.noBaseDefinitions] else []) ++
    if request.recursive then [.recursive] else []

def options (request : Request) : Options where
  outputDirectory := request.outputDirectory.getD "@cds-models"
  libraries := request.libraries.elim [] fun list => list.1 :: list.2
  excludes := request.excludes.elim [] fun list => list.1 :: list.2
  recursive := request.recursive
  skipBaseDefinitions := request.noBaseDefinitions

end Request

/-! ## Spellings -/

namespace OptionKey

variable {key : OptionKey} {text : String}

theorem ofLetter?_of_letter {letter : Char} (listed : key.letter? = some letter) :
    ofLetter? letter = some key := by
  cases key <;> cases listed <;> decide

theorem ne_dash_of_letter {letter : Char} (listed : key.letter? = some letter) :
    letter ≠ '-' := by
  rintro rfl
  cases key <;> cases listed

theorem ofLong?_long (key : OptionKey) : ofLong? key.long = some key := by
  cases key <;> decide

theorem ne_equals_of_mem_long (key : OptionKey) :
    ∀ character ∈ key.long.toList, decide (character ≠ '=') = true := by
  rw [← List.all_eq_true]
  cases key <;> rfl

theorem eq_of_take_long {first second : OptionKey}
    (same : first.long.toList.take 3 = second.long.toList.take 3) : first = second := by
  cases first <;> cases second <;> first | rfl | exact absurd same (by decide)

theorem isPrefix_long_iff {other : OptionKey} (long : 3 ≤ text.toList.length)
    (isStart : text.toList <+: key.long.toList) :
    text.toList <+: other.long.toList ↔ other = key := by
  have firstThree {name : List Char} (starts : text.toList <+: name) :
      name.take 3 = text.toList.take 3 := by
    rcases starts with ⟨rest, rfl⟩
    exact List.take_append_of_le_length long
  constructor
  · intro starts
    exact eq_of_take_long ((firstThree starts).trans (firstThree isStart).symm)
  · rintro rfl
    exact isStart

theorem startingWith_of_isStart (long : 3 ≤ text.toList.length)
    (isStart : text.toList <+: key.long.toList) : startingWith text = [key] := by
  have only : startingWith text = all.filter (· = key) := by
    apply List.filter_congr
    intro other _
    rw [Bool.eq_iff_iff, List.isPrefixOf_iff_prefix, isPrefix_long_iff long isStart,
      decide_eq_true_iff]
  rw [only]
  cases key <;> rfl

theorem eq_of_ofLong? {found : OptionKey} (long : 3 ≤ text.toList.length)
    (isStart : text.toList <+: key.long.toList) (isFound : ofLong? text = some found) :
    found = key := by
  have spelled : found.long = text := by simpa using List.find?_some isFound
  subst spelled
  exact (isPrefix_long_iff long isStart).mp List.prefix_rfl

end OptionKey

namespace Argument

variable {key : OptionKey} {text : String}

theorem ofText_of_isValue (isValue : IsValue text) : ofText text = .ok (value text) := by
  rw [IsValue] at isValue
  rw [ofText]
  split
  · simp_all
  · simp_all
  · rfl

theorem ofText_of_letter {letter : Char} (listed : key.letter? = some letter) :
    ofText ("-" ++ String.singleton letter) = .ok (short key []) := by
  have characters : ("-" ++ String.singleton letter).toList = ['-', letter] := by simp
  -- This is what tells the letter from a second dash.
  have notDash := OptionKey.ne_dash_of_letter listed
  rw [ofText, characters]
  simp [OptionKey.ofLetter?_of_letter listed]

theorem ofText_of_dashes {rest : List Char} (characters : text.toList = '-' :: '-' :: rest) :
    ofText text = ofLong text := by
  rw [ofText, characters]
  rfl

theorem ofText_of_isStart {front : String} (filled : front ≠ "")
    (isStart : ("--" ++ front).toList <+: key.long.toList) :
    ofText ("--" ++ front) = .ok (long key none) := by
  have named : front.toList ≠ [] := mt String.toList_eq_nil_iff.mp filled
  have characters : ("--" ++ front).toList = '-' :: '-' :: front.toList := by simp
  have length : 3 ≤ ("--" ++ front).toList.length := by
    have nonempty := List.length_pos_iff.mpr named
    rw [characters, List.length_cons, List.length_cons]
    omega
  have unequal : ∀ character ∈ ("--" ++ front).toList, decide (character ≠ '=') = true :=
    fun character member => key.ne_equals_of_mem_long character (isStart.mem member)
  have name := List.takeWhile_eq_self_iff.mpr unequal
  have behind := List.dropWhile_eq_nil_iff.mpr unequal
  rw [ofText_of_dashes characters]
  simp only [ofLong, name, behind, String.ofList_toList]
  cases found : OptionKey.ofLong? ("--" ++ front) with
  | some other => rw [OptionKey.eq_of_ofLong? length isStart found]
  | none => rw [OptionKey.startingWith_of_isStart length isStart]

theorem ofText_attached (key : OptionKey) (value : String) :
    ofText (key.long ++ "=" ++ value) = .ok (long key (some value)) := by
  have characters : (key.long ++ "=" ++ value).toList = key.long.toList ++ '=' :: value.toList := by
    simp
  have stops : ∀ next ∈ ('=' :: value.toList).head?, decide (next ≠ '=') = false := by simp
  have name := Text.takeWhile_append_of_stops key.ne_equals_of_mem_long stops
  have behind := Text.dropWhile_append_of_stops key.ne_equals_of_mem_long stops
  have dashes : ∃ rest, key.long.toList = '-' :: '-' :: rest := by
    cases key <;> exact ⟨_, rfl⟩
  rcases dashes with ⟨rest, dashed⟩
  have whole : (key.long ++ "=" ++ value).toList =
      '-' :: '-' :: (rest ++ '=' :: value.toList) := by
    rw [characters, dashed]
    rfl
  rw [ofText_of_dashes whole]
  rw [← characters] at name behind
  simp only [ofLong, name, behind, String.ofList_toList, OptionKey.ofLong?_long]

end Argument

/-! ## Options with their values -/

theorem exists_head_of_spells {key : OptionKey} {spelling : String} (spells : Spells key spelling) :
    ∃ head, Argument.ofText spelling = .ok head ∧ (∀ text, head ≠ .value text) ∧
      Bundle.ofArgument head = .ok ⟨[], .following key⟩ := by
  cases spells with
  | letter listed => exact ⟨_, Argument.ofText_of_letter listed, nofun, rfl⟩
  | long filled isStart => exact ⟨_, Argument.ofText_of_isStart filled isStart, nofun, rfl⟩

theorem takeBundle_following (given : GivenOption) (options : Options) :
    takeBundle options ⟨[], .following given.key⟩ given.values = .ok (given.set options, []) := by
  cases given <;> rfl

theorem mapM_ofText_of_isValue {values : List String} (plain : ∀ value ∈ values, IsValue value) :
    values.mapM Argument.ofText = .ok (values.map .value) := by
  induction values with
  | nil => rfl
  | cons first rest induction =>
      rw [List.forall_mem_cons] at plain
      rw [List.mapM_cons, Argument.ofText_of_isValue plain.1, induction plain.2]
      rfl

/-- An option is told as one argument that is no value and the values behind it, and these
set the option. -/
theorem exists_group_of_writes {given : GivenOption} {arguments : List String}
    (writes : Writes given arguments) :
    ∃ head values, arguments.mapM Argument.ofText = .ok (head :: values.map .value) ∧
      (∀ text, head ≠ .value text) ∧
      ∀ options, takeGroup options ⟨head, values⟩ = .ok (given.set options, []) := by
  cases writes with
  | separate spells plain =>
      rcases exists_head_of_spells spells with ⟨head, told, isOption, bundle⟩
      refine ⟨head, given.values, ?_, isOption, fun options => ?_⟩
      · rw [List.mapM_cons, told, mapM_ofText_of_isValue plain]
        rfl
      · rw [takeGroup, bundle]
        exact takeBundle_following given options
  | attached value =>
      refine ⟨.long .outputDirectory (some value), [], ?_, nofun, fun options => rfl⟩
      have told : Argument.ofText ("--output-dir=" ++ value) =
          .ok (.long .outputDirectory (some value)) :=
        Argument.ofText_attached .outputDirectory value
      rw [List.mapM_cons, told]
      rfl

theorem ne_dashes_of_writes {given : GivenOption} {arguments : List String}
    (writes : Writes given arguments) : ∀ argument ∈ arguments, argument ≠ "--" := by
  cases writes with
  | separate spells plain =>
      refine List.forall_mem_cons.mpr ⟨?_, fun value isValue => ?_⟩
      · cases spells with
        | letter listed =>
            intro same
            have characters := congrArg String.toList same
            simp only [String.toList_append, String.toList_singleton] at characters
            exact OptionKey.ne_dash_of_letter listed (by simpa using characters)
        | long filled isStart => simpa using filled
      · rintro rfl
        exact plain "--" isValue (by decide)
  | attached value =>
      refine List.forall_mem_singleton.mpr fun same => ?_
      have characters := congrArg String.toList same
      simp at characters

/-! ## Options in a row -/

theorem grouped_append (values : List String) (rest : List Argument) :
    grouped (values.map .value ++ rest) = (values ++ (grouped rest).1, (grouped rest).2) := by
  induction values with
  | nil => rfl
  | cons first others induction =>
      rw [List.map_cons, List.cons_append, grouped, induction]
      rfl

theorem grouped_cons {head : Argument} (isOption : ∀ text, head ≠ .value text)
    (rest : List Argument) :
    grouped (head :: rest) = ([], ⟨head, (grouped rest).1⟩ :: (grouped rest).2) := by
  cases head with
  | value text => exact absurd rfl (isOption text)
  | long key value => rfl
  | short key tail => rfl
  | unknown text => rfl

theorem exists_groups_of_writes {given : List GivenOption} {arguments : List (List String)}
    (written : List.Forall₂ Writes given arguments) :
    ∃ told groups, arguments.flatten.mapM Argument.ofText = .ok told ∧
      grouped told = ([], groups) ∧
      ∀ options, takeAll options groups =
        .ok (given.foldl (fun options option => option.set options) options, []) := by
  induction written with
  | nil => exact ⟨[], [], rfl, rfl, fun options => rfl⟩
  | cons writes others induction =>
      rcases exists_group_of_writes writes with ⟨head, values, told, isOption, takes⟩
      rcases induction with ⟨toldBehind, groups, isToldBehind, cut, takesBehind⟩
      refine ⟨(head :: values.map .value) ++ toldBehind, ⟨head, values⟩ :: groups, ?_, ?_,
        fun options => ?_⟩
      · rw [List.flatten_cons, List.mapM_append, told, isToldBehind]
        rfl
      · rw [List.cons_append, grouped_cons isOption, grouped_append, cut, List.append_nil]
      · rw [takeAll, takes]
        change (takeAll _ groups).bind _ = _
        rw [takesBehind]
        rfl

theorem ne_dashes_of_forall₂ {given : List GivenOption} {arguments : List (List String)}
    (written : List.Forall₂ Writes given arguments) :
    ∀ argument ∈ arguments.flatten, argument ≠ "--" := by
  induction written with
  | nil => exact List.forall_mem_nil _
  | cons writes others induction =>
      rw [List.flatten_cons, List.forall_mem_append]
      exact ⟨ne_dashes_of_writes writes, induction⟩

/-! ## The order of options -/

namespace Request

theorem nodup_keys (request : Request) : (request.given.map GivenOption.key).Nodup := by
  rcases request with ⟨_ | _, _ | _, _ | _, _ | _, _ | _⟩ <;> simp [given, GivenOption.key]

theorem set_comm {request : Request} {first second : GivenOption}
    (isFirst : first ∈ request.given) (isSecond : second ∈ request.given) (options : Options) :
    second.set (first.set options) = first.set (second.set options) := by
  by_cases same : first.key = second.key
  · rw [List.inj_on_of_nodup_map request.nodup_keys isFirst isSecond same]
  · cases first <;> cases second <;> first | rfl | exact absurd rfl same

theorem foldl_given (request : Request) :
    request.given.foldl (fun options option => option.set options) {} = request.options := by
  rcases request with ⟨_ | _, _ | _, _ | _, _ | _, _ | _⟩ <;> rfl

theorem foldl_of_perm {request : Request} {given : List GivenOption}
    (ordered : given.Perm request.given) :
    given.foldl (fun options option => option.set options) {} = request.options := by
  rw [← foldl_given]
  apply ordered.foldl_eq'
  intro first isFirst second isSecond options
  exact set_comm (ordered.subset isFirst) (ordered.subset isSecond) options

end Request

/-- Whatever options are asked for, in whatever order they are given and however they are
spelled, exactly these are read, with the defaults of those that are absent. -/
theorem parse_written {request : Request} {given : List GivenOption}
    {arguments : List (List String)} (ordered : given.Perm request.given)
    (written : List.Forall₂ Writes given arguments) :
    parse arguments.flatten = .ok request.options := by
  rcases exists_groups_of_writes written with ⟨told, groups, isTold, cut, takes⟩
  have taken := takes {}
  rw [Request.foldl_of_perm ordered] at taken
  have read : ∀ argument ∈ arguments.flatten, decide (argument ≠ "--") = true := by
    intro argument member
    rw [decide_eq_true_iff]
    exact ne_dashes_of_forall₂ written argument member
  rw [parse, List.takeWhile_eq_self_iff.mpr read, List.dropWhile_eq_nil_iff.mpr read]
  simp [isTold, cut, taken, Except.mapError, bind, Except.bind, pure, Except.pure]

/-- All spellings in one line. The attached value starts like an option, and others are empty
or hold spaces and equals signs. -/
theorem parse_written_of_mixed :
    let request : Request :=
      { outputDirectory := some "-o=x y", libraries := some ("", ["a b=c"]),
        excludes := some ("=", []), noBaseDefinitions := true, recursive := false }
    let given : List GivenOption :=
      [.excludes "=" [], .noBaseDefinitions, .libraries "" ["a b=c"], .outputDirectory "-o=x y"]
    let arguments :=
      [["--e", "="], ["--no-base-"], ["-l", "", "a b=c"], ["--output-dir=-o=x y"]]
    given.Perm request.given ∧ List.Forall₂ Writes given arguments ∧
      parse ["--e", "=", "--no-base-", "-l", "", "a b=c", "--output-dir=-o=x y"] =
        .ok { outputDirectory := "-o=x y", libraries := ["", "a b=c"], excludes := ["="],
              skipBaseDefinitions := true } := by
  intro request given arguments
  have ordered : given.Perm request.given := by decide
  have excludes : Spells .excludes ("--" ++ "e") := .long (by decide) (by decide)
  have skips : Spells .noBaseDefinitions ("--" ++ "no-base-") := .long (by decide) (by decide)
  have libraries : Spells .libraries ("-" ++ String.singleton 'l') := .letter rfl
  have written : List.Forall₂ Writes given arguments := by
    refine .cons ?_ (.cons ?_ (.cons ?_ (.cons (.attached _) .nil)))
    · exact .separate excludes (by decide)
    · exact .separate skips (by decide)
    · exact .separate libraries (by decide)
  exact ⟨ordered, written, parse_written ordered written⟩

end TypedModules.CommandLine
