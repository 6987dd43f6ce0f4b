import Mathlib.Data.List.TakeWhile
import TypedModules.Declaration.MemberName

/-! # Identifiers

What passes for an identifier in names is an identifier in full, apart from a line feed that
may stand at its end. Names that are none are written between quotes.
-/

namespace TypedModules.MemberName

variable {name : String} {text : List Char}

def IsExactIdentifier (text : List Char) : Prop :=
  ∃ first rest, text = first :: rest ∧ isStart first = true ∧ ∀ part ∈ rest, isPart part = true

theorem ne_of_isPart {character other : Char} (part : isPart character = true)
    (notPart : isPart other = false) : character ≠ other := by
  rintro rfl
  rw [part] at notPart
  cases notPart

theorem IsExactIdentifier.isPart (identifier : IsExactIdentifier text) :
    ∀ character ∈ text, isPart character = true := by
  rcases identifier with ⟨first, rest, rfl, start, parts⟩
  exact List.forall_mem_cons.mpr ⟨isPart_of_isStart start, parts⟩

theorem isIdentifier_iff :
    isIdentifier text = true ↔ ∃ identifier, IsExactIdentifier identifier ∧
      (text = identifier ∨ text = identifier ++ ['\n']) := by
  constructor
  · intro identifier
    cases text with
    | nil => cases identifier
    | cons first rest =>
        rw [isIdentifier, Bool.and_eq_true, Bool.or_eq_true, List.isEmpty_iff, beq_iff_eq]
          at identifier
        have split := List.takeWhile_append_dropWhile (p := isPart) (l := rest)
        refine ⟨first :: rest.takeWhile isPart,
          ⟨first, _, rfl, identifier.1, fun part member => List.mem_takeWhile_imp member⟩, ?_⟩
        rcases identifier.2 with ended | broken
        · rw [ended, List.append_nil] at split
          exact .inl (congrArg _ split.symm)
        · rw [broken] at split
          exact .inr (congrArg _ split.symm)
  · rintro ⟨identifier, ⟨first, rest, rfl, start, parts⟩, rfl | rfl⟩
    · rw [isIdentifier, start, List.dropWhile_eq_nil_iff.mpr parts]
      rfl
    · rw [List.cons_append, isIdentifier, start, List.dropWhile_append_of_pos parts]
      rfl

theorem isPart_or_lineFeed_of_mem (passes : isIdentifier text = true) {character : Char}
    (member : character ∈ text) : isPart character = true ∨ character = '\n' := by
  rcases isIdentifier_iff.mp passes with ⟨identifier, isExact, rfl | rfl⟩
  · exact .inl (isExact.isPart character member)
  · rw [List.mem_append, List.mem_singleton] at member
    exact member.imp_left (isExact.isPart character)

/-! ## Written names -/

theorem toList_written_of_not_isIdentifier (nonempty : name ≠ "")
    (other : isIdentifier name.toList = false) :
    (written name).toList = '"' :: (name.toList ++ ['"']) := by
  rw [written, if_neg (by simp [nonempty, other])]
  simp

theorem written_cases (name : String) :
    (written name = name ∧ (name = "" ∨ isIdentifier name.toList = true)) ∨
      (written name).toList = '"' :: (name.toList ++ ['"']) := by
  by_cases bare : name = "" ∨ isIdentifier name.toList = true
  · exact .inl ⟨if_pos bare, bare⟩
  · rw [not_or, Bool.not_eq_true] at bare
    exact .inr (toList_written_of_not_isIdentifier bare.1 bare.2)

end TypedModules.MemberName
