import Mathlib.Data.List.DropRight
import TypedModules.Library.Basic

/-! # Names of classes

The name behind a class header is read as far as letters, digits, underscores and dollar
signs go, and then loses the dollar signs at its end. So a catalogued name is never
empty, and holds neither a blank nor a dot.
-/

namespace TypedModules

/-! ## Classes of characters -/

namespace Text

section Decide

variable (Holds : Char → Prop) [DecidablePred Holds]

instance decidableForallMem (text : List Char) : Decidable (∀ character ∈ text, Holds character) :=
  List.decidableBAll Holds text

instance decidableForallMemEnd (end? : Option Char) :
    Decidable (∀ character ∈ end?, Holds character) :=
  Option.decidableForallMem end?

end Decide

theorem isWordCharacter_of_isPart {character : Char} (part : MemberName.isPart character = true)
    (undollared : character ≠ '$') : isWordCharacter character = true := by
  rw [isWordCharacter, CodePoints.contains_iff]
  simp only [MemberName.isPart, Char.isAlphanum, Bool.or_eq_true, decide_eq_true_eq, undollared,
    or_false] at part
  rcases part with (letter | digit) | rfl
  · rcases Bool.or_eq_true_iff.mp letter with upper | lower
    · exact ⟨(0x41, 0x5A), by decide, of_decide_eq_true upper⟩
    · have bounds := Bool.and_eq_true_iff.mp lower
      exact ⟨(0x61, 0x7A), by decide, of_decide_eq_true bounds.1, of_decide_eq_true bounds.2⟩
  · have bounds := Bool.and_eq_true_iff.mp digit
    exact ⟨(0x30, 0x39), by decide, of_decide_eq_true bounds.1, of_decide_eq_true bounds.2⟩
  · exact ⟨(0x5F, 0x5F), by decide, by decide⟩

theorem not_isWordCharacter_of_separator {character : Char}
    (separates : CodePoints.contains ((0x2E, 0x2E) :: blanks) character = true) :
    isWordCharacter character = false := by
  -- There are hundreds of ranges, so that the bounds are compared as numbers.
  have apart : (((0x2E, 0x2E) :: blanks).all fun separator => wordCharacters.all fun word =>
      separator.2.blt word.1 || word.2.blt separator.1) = true := by
    decide +kernel
  rw [Bool.eq_false_iff]
  intro word
  rw [isWordCharacter, CodePoints.contains_iff] at word
  rw [CodePoints.contains_iff] at separates
  rcases separates with ⟨separators, isSeparators, fromSeparator, toSeparator⟩
  rcases word with ⟨words, isWords, fromWord, toWord⟩
  have separate := List.all_eq_true.mp (List.all_eq_true.mp apart separators isSeparators)
    words isWords
  simp only [Bool.or_eq_true, Nat.blt_eq] at separate
  omega

theorem not_isWordCharacter_of_isBlank {character : Char} (blank : isBlank character = true) :
    isWordCharacter character = false := by
  apply not_isWordCharacter_of_separator
  rw [CodePoints.contains, List.any_cons, Bool.or_eq_true]
  exact .inr blank

theorem isBlank_of_isLineBreak {character : Char} (breaks : isLineBreak character = true) :
    isBlank character = true := by
  simp only [isLineBreak, decide_eq_true_eq] at breaks
  revert character
  decide

end Text

namespace Library

theorem isNameCharacter_of_isPart {character : Char}
    (part : MemberName.isPart character = true) : isNameCharacter character = true := by
  rw [isNameCharacter, Bool.or_eq_true, decide_eq_true_eq]
  by_cases dollar : character = '$'
  · exact .inr dollar
  · exact .inl (Text.isWordCharacter_of_isPart part dollar)

theorem not_isNameCharacter_of_isBlank {character : Char}
    (blank : Text.isBlank character = true) : isNameCharacter character = false := by
  rw [isNameCharacter, Text.not_isWordCharacter_of_isBlank blank, Bool.false_or,
    decide_eq_false_iff_not]
  rintro rfl
  exact absurd blank (by decide)

/-! ## Names at the start of a text -/

def withoutDollars (name : List Char) : List Char :=
  name.rdropWhile (· = '$')

theorem eq_dollar_of_withoutDollars_append {name further : List Char}
    (same : withoutDollars (name ++ further) = name) :
    ∀ character ∈ further, character = '$' := by
  have cut : withoutDollars (name ++ further) ++ (name ++ further).rtakeWhile (· = '$') =
      name ++ further :=
    List.rdropWhile_append_rtakeWhile
  rw [same, List.append_cancel_left_eq] at cut
  intro character member
  rw [← cut] at member
  simpa using List.mem_rtakeWhile_imp member

theorem leadingName?_cons {first : Char} (start : MemberName.isStart first = true)
    (rest : List Char) :
    leadingName? (first :: rest) =
      Option.guard (· ≠ []) (withoutDollars (first :: rest.takeWhile isNameCharacter)) := by
  rw [leadingName?, if_pos start, withoutDollars, List.rdropWhile]
  dsimp only
  split
  · rename_i empty
    rw [empty]
    rfl
  · rename_i nonempty
    rw [Option.guard_pos (by simpa using nonempty)]

theorem of_leadingName? {text name : List Char} (found : leadingName? text = some name) :
    name ≠ [] ∧ ∀ character ∈ name, isNameCharacter character = true := by
  cases text with
  | nil => cases found
  | cons first rest =>
      by_cases start : MemberName.isStart first = true
      · rw [leadingName?_cons start, Option.guard_eq_some_iff] at found
        rcases found with ⟨rfl, nonempty⟩
        refine ⟨by simpa using nonempty, fun character member => ?_⟩
        have inRun := (List.rdropWhile_prefix _ _).subset member
        rcases List.mem_cons.mp inRun with rfl | inRest
        · exact isNameCharacter_of_isPart (MemberName.isPart_of_isStart start)
        · exact List.mem_takeWhile_imp inRest
      · rw [leadingName?, if_neg start] at found
        cases found

theorem of_mem_declaredClasses {contents name : String}
    (declared : name ∈ declaredClasses contents) :
    name ≠ "" ∧ ∀ character ∈ name.toList, isNameCharacter character = true := by
  rcases List.mem_map.mp declared with ⟨characters, found, rfl⟩
  rcases List.mem_filterMap.mp found with ⟨line, -, onLine⟩
  simp only [declaredClass?, Option.bind_eq_bind, Option.bind_eq_some_iff] at onLine
  rcases onLine with ⟨_, -, _, -, leading⟩
  simpa using of_leadingName? leading

theorem dot_notMem_of_mem_declaredClasses {contents name : String}
    (declared : name ∈ declaredClasses contents) : '.' ∉ name.toList := by
  intro dotted
  have inName := (of_mem_declaredClasses declared).2 '.' dotted
  rw [isNameCharacter, Text.not_isWordCharacter_of_separator (by decide)] at inName
  cases inName

end Library

end TypedModules
