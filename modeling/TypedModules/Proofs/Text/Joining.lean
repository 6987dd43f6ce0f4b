import Mathlib.Data.List.Basic

/-! # Joined texts

Pieces are joined with a glue between them. What holds of all pieces and the glue is
shown piece by piece.
-/

namespace TypedModules.Text

/-! ## Two pieces -/

theorem dropPrefix?_append (front rest : List Char) :
    (front ++ rest).dropPrefix? front = some rest :=
  List.dropPrefix?_append_of_beq rest (by simp)

theorem dropSuffix?_append (rest back : List Char) :
    (rest ++ back).dropSuffix? back = some rest :=
  List.dropSuffix?_eq_some_iff.mpr ⟨back, rfl, by simp⟩

/-- The same text is made of other pieces only where one of them holds the glue, so that the
text can be cut there too. -/
theorem append_cons_eq_append_cons_iff {glue : Char} {front back otherFront otherBack : List Char} :
    front ++ glue :: back = otherFront ++ glue :: otherBack ↔
      (front = otherFront ∧ back = otherBack) ∨
      (∃ middle, otherFront = front ++ glue :: middle ∧ back = middle ++ glue :: otherBack) ∨
      ∃ middle, front = otherFront ++ glue :: middle ∧ otherBack = middle ++ glue :: back := by
  constructor
  · intro same
    rcases List.append_eq_append_iff.mp same with ⟨gap, longer, cut⟩ | ⟨gap, longer, cut⟩
    · cases gap with
      | nil => exact .inl ⟨by rw [longer, List.append_nil], (List.cons.inj cut).2⟩
      | cons first middle =>
          rcases List.cons.inj cut with ⟨rfl, rest⟩
          exact .inr (.inl ⟨middle, longer, rest⟩)
    · cases gap with
      | nil => exact .inl ⟨by rw [longer, List.append_nil], (List.cons.inj cut).2.symm⟩
      | cons first middle =>
          rcases List.cons.inj cut with ⟨rfl, rest⟩
          exact .inr (.inr ⟨middle, longer, rest⟩)
  · rintro (⟨rfl, rfl⟩ | ⟨middle, rfl, rfl⟩ | ⟨middle, rfl, rfl⟩) <;> simp

def cutFirst (separator : Char) : List Char → Option (List Char × List Char)
  | [] => none
  | character :: rest =>
      if character = separator then some ([], rest)
      else (cutFirst separator rest).map (Prod.map (character :: ·) id)

theorem cutFirst_append_cons {separator : Char} {front : List Char} (free : separator ∉ front)
    (back : List Char) : cutFirst separator (front ++ separator :: back) = some (front, back) := by
  induction front with
  | nil => exact if_pos rfl
  | cons first rest induction =>
      rw [List.mem_cons, not_or] at free
      rw [List.cons_append, cutFirst, if_neg (Ne.symm free.1), induction free.2]
      rfl

/-! ## Any number of pieces -/

variable (glue : String) {pieces : List String}

theorem intercalate_isPrefix {longer : List String} (isPrefix : pieces <+: longer) :
    (glue.intercalate pieces).toList <+: (glue.intercalate longer).toList := by
  rcases isPrefix with ⟨further, rfl⟩
  rw [String.toList_intercalate, String.toList_intercalate]
  induction pieces with
  | nil => simp
  | cons first rest induction =>
      cases rest with
      | nil =>
          cases further with
          | nil => exact List.prefix_refl _
          | cons next others => simp [List.intercalate_cons_cons]
      | cons second others =>
          simp only [List.map_cons, List.cons_append, List.intercalate_cons_cons] at induction ⊢
          rwa [List.append_assoc, List.append_assoc, List.prefix_append_right_inj,
            List.prefix_append_right_inj]

theorem append_intercalate_append (glue front : List Char) {pieces : List (List Char)}
    (nonempty : pieces ≠ []) :
    front ++ (glue ++ front).intercalate pieces = glue.intercalate (pieces.map (front ++ ·)) := by
  induction pieces with
  | nil => exact absurd rfl nonempty
  | cons first rest induction =>
      cases rest with
      | nil => simp
      | cons second others =>
          have behind := induction (List.cons_ne_nil second others)
          rw [List.map_cons] at behind
          rw [List.map_cons, List.map_cons, List.intercalate_cons_cons, List.intercalate_cons_cons,
            ← behind]
          simp

theorem intercalate_concat_empty (nonempty : pieces ≠ []) :
    glue.intercalate (pieces ++ [""]) = glue.intercalate pieces ++ glue := by
  apply String.toList_injective
  rw [String.toList_append, String.toList_intercalate, String.toList_intercalate]
  induction pieces with
  | nil => exact absurd rfl nonempty
  | cons first rest induction =>
      cases rest with
      | nil => simp [List.intercalate_cons_cons]
      | cons second others =>
          simp only [List.map_cons, List.cons_append, List.intercalate_cons_cons] at induction ⊢
          rw [induction (by simp)]
          simp

theorem notMem_intercalate {glue : String} {character : Char} (notInGlue : character ∉ glue.toList)
    (free : ∀ piece ∈ pieces, character ∉ piece.toList) :
    character ∉ (glue.intercalate pieces).toList := by
  rw [String.toList_intercalate]
  induction pieces with
  | nil => simp
  | cons first rest induction =>
      rw [List.forall_mem_cons] at free
      have inRest := induction free.2
      cases rest with
      | nil => simpa using free.1
      | cons second others =>
          simp only [List.map_cons, List.intercalate_cons_cons] at inRest ⊢
          simp [free.1, notInGlue, inRest]

def IsBare (text : String) : Prop :=
  ∀ character ∈ text.toList, character ≠ '\n' ∧ character ≠ '\x7b' ∧ character ≠ '\x7d'

instance (text : String) : Decidable (IsBare text) :=
  List.decidableBAll _ text.toList

/-- What holds of bare texts and of two texts together whenever it holds of each. -/
structure IsComposable (Holds : String → Prop) : Prop where
  bare : ∀ {text}, IsBare text → Holds text
  append : ∀ {first second}, Holds first → Holds second → Holds (first ++ second)

namespace IsComposable

variable {Holds : String → Prop} {glue : String}

theorem enclosed (composable : IsComposable Holds) {before text after : String}
    (beforeBare : IsBare before) (holds : Holds text) (afterBare : IsBare after) :
    Holds (before ++ text ++ after) :=
  composable.append (composable.append (composable.bare beforeBare) holds)
    (composable.bare afterBare)

theorem intercalate (composable : IsComposable Holds) (glueBare : IsBare glue)
    (all : ∀ piece ∈ pieces, Holds piece) : Holds (glue.intercalate pieces) := by
  induction pieces with
  | nil =>
      rw [String.intercalate_nil]
      exact composable.bare (by decide)
  | cons first rest induction =>
      rw [List.forall_mem_cons] at all
      cases rest with
      | nil => simpa using all.1
      | cons second others =>
          rw [String.intercalate_cons_cons]
          exact composable.append (composable.append all.1 (composable.bare glueBare))
            (induction all.2)

end IsComposable

end TypedModules.Text
