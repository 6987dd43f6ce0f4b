import Mathlib.Data.List.Basic
import TypedModules.Proofs.Text.Joining

/-! # Nested braces

Braces nest in a text if none is closed that is not open, and none is left open. A
scan that keeps the depth of nesting tells so, wherever the text stands in others.
-/

namespace TypedModules.Text

def nest (depth : Nat) (character : Char) : Option Nat :=
  if character = '\x7b' then some (depth + 1)
  else if character ≠ '\x7d' then some depth
  else
    match depth with
    | 0 => none
    | outer + 1 => some outer

def nesting (text : String) (depth : Nat) : Option Nat :=
  text.toList.foldlM nest depth

/-- Every start of the text closes as many braces as it opens, or fewer, and all of it
closes as many as it opens. -/
structure IsBalanced (text : String) : Prop where
  opened : ∀ front, front <+: text.toList → front.count '\x7d' ≤ front.count '\x7b'
  closed : text.toList.count '\x7d' = text.toList.count '\x7b'

variable {text first second glue : String} {texts : List String}

/-! ## The scan -/

theorem nesting_append (first second : String) (depth : Nat) :
    nesting (first ++ second) depth = (nesting first depth).bind (nesting second) := by
  rw [nesting, String.toList_append, List.foldlM_append]
  rfl

private theorem forall_isPrefix_cons_iff {Holds : List Char → Prop} {character : Char}
    {rest : List Char} :
    (∀ front, front <+: character :: rest → Holds front) ↔
      Holds [] ∧ ∀ front, front <+: rest → Holds (character :: front) := by
  constructor
  · intro all
    refine ⟨all [] List.nil_prefix, fun front isFront => ?_⟩
    exact all _ ((List.prefix_cons_inj character).mpr isFront)
  · rintro ⟨none, some⟩ front isFront
    rcases List.prefix_cons_iff.mp isFront with rfl | ⟨others, rfl, isOthers⟩
    · exact none
    · exact some others isOthers

theorem foldlM_nest_eq_some_iff (text : List Char) (depth after : Nat) :
    text.foldlM nest depth = some after ↔
      (∀ front, front <+: text → front.count '\x7d' ≤ depth + front.count '\x7b') ∧
        after + text.count '\x7d' = depth + text.count '\x7b' := by
  induction text generalizing depth with
  | nil => simp [eq_comm]
  | cons character rest induction =>
      rw [List.foldlM_cons, forall_isPrefix_cons_iff]
      by_cases opens : character = '\x7b'
      · subst opens
        have step : nest depth '\x7b' = some (depth + 1) := rfl
        simp only [step, Option.bind_eq_bind, Option.bind_some, induction, List.count_cons]
        grind
      · by_cases closes : character = '\x7d'
        · subst closes
          cases depth with
          | zero =>
              constructor
              · intro scanned
                cases scanned
              · rintro ⟨⟨-, fronts⟩, -⟩
                have tooMany := fronts [] List.nil_prefix
                simp at tooMany
          | succ outer =>
              have step : nest (outer + 1) '\x7d' = some outer := rfl
              simp only [step, Option.bind_eq_bind, Option.bind_some, induction, List.count_cons]
              grind
        · have step : nest depth character = some depth := by simp [nest, opens, closes]
          simp [step, induction, opens, closes]

theorem isBalanced_iff : IsBalanced text ↔ nesting text 0 = some 0 := by
  rw [nesting, foldlM_nest_eq_some_iff]
  simp only [Nat.zero_add]
  exact ⟨fun balanced => ⟨balanced.opened, balanced.closed⟩, fun both => ⟨both.1, both.2⟩⟩

instance (text : String) : Decidable (IsBalanced text) :=
  decidable_of_iff _ isBalanced_iff.symm

/-! ## Balanced texts -/

namespace IsBalanced

theorem nesting (balanced : IsBalanced text) (depth : Nat) :
    nesting text depth = some depth := by
  rw [Text.nesting, foldlM_nest_eq_some_iff]
  refine ⟨fun front isFront => ?_, ?_⟩
  · have opened := balanced.opened front isFront
    omega
  · rw [balanced.closed]

theorem empty : IsBalanced "" :=
  isBalanced_iff.mpr rfl

theorem append (firstBalanced : IsBalanced first) (secondBalanced : IsBalanced second) :
    IsBalanced (first ++ second) := by
  rw [isBalanced_iff, nesting_append, firstBalanced.nesting, Option.bind_some,
    secondBalanced.nesting]

theorem nesting_intercalate (balanced : IsBalanced glue) (texts : List String) (depth : Nat) :
    Text.nesting (glue.intercalate texts) depth = Text.nesting (String.join texts) depth := by
  induction texts generalizing depth with
  | nil => rfl
  | cons text rest induction =>
      cases rest with
      | nil => simp
      | cons next others =>
          rw [String.intercalate_cons_cons, String.join_cons, nesting_append, nesting_append,
            nesting_append]
          cases Text.nesting text depth with
          | none => rfl
          | some inner => simp [balanced.nesting, induction]

theorem nesting_join_map (balanced : IsBalanced glue) (texts : List String) (depth : Nat) :
    Text.nesting (String.join (texts.map (glue ++ ·))) depth =
      Text.nesting (String.join texts) depth := by
  induction texts generalizing depth with
  | nil => rfl
  | cons text rest induction =>
      rw [List.map_cons, String.join_cons, String.join_cons, nesting_append, nesting_append,
        nesting_append, balanced.nesting, Option.bind_some]
      cases Text.nesting text depth with
      | none => rfl
      | some inner => exact induction inner

theorem join (balanced : ∀ text ∈ texts, IsBalanced text) : IsBalanced (String.join texts) := by
  induction texts with
  | nil => exact empty
  | cons text rest induction =>
      rw [List.forall_mem_cons] at balanced
      rw [String.join_cons]
      exact balanced.1.append (induction balanced.2)

theorem ofLines {lines : List String} (balanced : IsBalanced (String.join lines)) :
    IsBalanced ("\n".intercalate lines) := by
  have lineBreak : IsBalanced "\n" := by decide
  rw [isBalanced_iff, lineBreak.nesting_intercalate, balanced.nesting]

end IsBalanced

theorem isComposable_isBalanced : IsComposable IsBalanced where
  bare {text} isBare := by
    have notOpened : '\x7b' ∉ text.toList := fun member => (isBare _ member).2.1 rfl
    have notClosed : '\x7d' ∉ text.toList := fun member => (isBare _ member).2.2 rfl
    constructor
    · intro front isFront
      have none : '\x7d' ∉ front := fun member => notClosed (isFront.subset member)
      rw [List.count_eq_zero_of_not_mem none]
      exact Nat.zero_le _
    · rw [List.count_eq_zero_of_not_mem notClosed, List.count_eq_zero_of_not_mem notOpened]
  append := IsBalanced.append

end TypedModules.Text
