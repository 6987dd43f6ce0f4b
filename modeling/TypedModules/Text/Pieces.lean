/-! # Cutting a text at a separator

`pieces` cuts a text at every occurrence of a separator, and joining the pieces
with the separator gives the text back. `cutLast` cuts at the last occurrence
only.
-/

namespace TypedModules.Text

/-- The pieces between the occurrences of `separator`. A text without it is one
piece, and so is the empty text. -/
def pieces (separator : Char) (text : String) : List String :=
  (text.toList.splitOn separator).map String.ofList

theorem pieces_ne_nil (separator : Char) (text : String) : pieces separator text ≠ [] := by
  simp [pieces, List.splitOn_ne_nil]

theorem intercalate_pieces (separator : Char) (text : String) :
    (String.singleton separator).intercalate (pieces separator text) = text := by
  apply String.toList_injective
  simp [pieces, String.toList_intercalate, List.map_map, Function.comp_def,
    List.intercalate_splitOn]

theorem pieces_intercalate {separator : Char} {texts : List String}
    (free : ∀ text ∈ texts, separator ∉ text.toList) (nonempty : texts ≠ []) :
    pieces separator ((String.singleton separator).intercalate texts) = texts := by
  have cut : ([separator].intercalate (texts.map String.toList)).splitOn separator =
      texts.map String.toList :=
    List.splitOn_intercalate separator (by simpa using free) (by simpa using nonempty)
  simp [pieces, String.toList_intercalate, cut, List.map_map, Function.comp_def]

theorem pieces_append (separator : Char) (left right : String) :
    pieces separator (left ++ String.singleton separator ++ right) =
      pieces separator left ++ pieces separator right := by
  simp [pieces, List.splitOn_append_cons_self]

private theorem notMem_of_mem_splitOn {separator : Char} :
    ∀ {text piece : List Char}, piece ∈ text.splitOn separator → separator ∉ piece
  | [], piece, isPiece => by
      simp only [List.splitOn_nil, List.mem_singleton] at isPiece
      simp [isPiece]
  | character :: rest, piece, isPiece => by
      rw [List.splitOn_cons_eq_if_modifyHead] at isPiece
      split at isPiece
      · rcases List.mem_cons.1 isPiece with rfl | inRest
        · simp
        · exact notMem_of_mem_splitOn inRest
      · rename_i different
        obtain ⟨first, others, cut⟩ :=
          List.exists_cons_of_ne_nil (List.splitOn_ne_nil separator rest)
        rw [cut, List.modifyHead_cons] at isPiece
        rcases List.mem_cons.1 isPiece with rfl | inOthers
        · have isFirst : first ∈ rest.splitOn separator := cut ▸ List.mem_cons_self
          have notInFirst := notMem_of_mem_splitOn isFirst
          simp only [beq_iff_eq] at different
          simp [notInFirst, Ne.symm different]
        · have isOther : piece ∈ rest.splitOn separator := cut ▸ List.mem_cons_of_mem _ inOthers
          exact notMem_of_mem_splitOn isOther

theorem notMem_of_mem_pieces {separator : Char} {text piece : String}
    (isPiece : piece ∈ pieces separator text) : separator ∉ piece.toList := by
  obtain ⟨characters, inCut, rfl⟩ := List.mem_map.1 isPiece
  simpa using notMem_of_mem_splitOn inCut

private theorem mem_of_mem_splitOn {separator character : Char} :
    ∀ {text piece : List Char}, piece ∈ text.splitOn separator → character ∈ piece →
      character ∈ text
  | [], piece, isPiece, inPiece => by
      simp only [List.splitOn_nil, List.mem_singleton] at isPiece
      simp [isPiece] at inPiece
  | next :: rest, piece, isPiece, inPiece => by
      rw [List.splitOn_cons_eq_if_modifyHead] at isPiece
      split at isPiece
      · rcases List.mem_cons.1 isPiece with rfl | inRest
        · simp at inPiece
        · exact List.mem_cons_of_mem _ (mem_of_mem_splitOn inRest inPiece)
      · obtain ⟨first, others, cut⟩ :=
          List.exists_cons_of_ne_nil (List.splitOn_ne_nil separator rest)
        rw [cut, List.modifyHead_cons] at isPiece
        rcases List.mem_cons.1 isPiece with rfl | inOthers
        · have isFirst : first ∈ rest.splitOn separator := cut ▸ List.mem_cons_self
          rcases List.mem_cons.1 inPiece with same | inFirst
          · exact same ▸ List.mem_cons_self
          · exact List.mem_cons_of_mem _ (mem_of_mem_splitOn isFirst inFirst)
        · have isOther : piece ∈ rest.splitOn separator := cut ▸ List.mem_cons_of_mem _ inOthers
          exact List.mem_cons_of_mem _ (mem_of_mem_splitOn isOther inPiece)

theorem mem_of_mem_pieces {separator character : Char} {text piece : String}
    (isPiece : piece ∈ pieces separator text) (inPiece : character ∈ piece.toList) :
    character ∈ text.toList := by
  obtain ⟨characters, inCut, rfl⟩ := List.mem_map.1 isPiece
  exact mem_of_mem_splitOn inCut (by simpa using inPiece)

def cutLast (separator : Char) : List Char → Option (List Char × List Char)
  | [] => none
  | character :: rest =>
      match cutLast separator rest with
      | some (before, after) => some (character :: before, after)
      | none => if character = separator then some ([], rest) else none

theorem cutLast_eq_none_iff {separator : Char} {text : List Char} :
    cutLast separator text = none ↔ separator ∉ text := by
  induction text with
  | nil => simp [cutLast]
  | cons character rest induction =>
      rw [cutLast]
      cases cut : cutLast separator rest with
      | none =>
          have notInRest := induction.1 cut
          by_cases same : character = separator
          · simp [same]
          · simp [same, notInRest, Ne.symm same]
      | some found =>
          have inRest : separator ∈ rest := by
            apply Classical.byContradiction
            intro notInRest
            simp [induction.2 notInRest] at cut
          simp [inRest]

theorem eq_append_of_cutLast {separator : Char} {text before after : List Char}
    (cut : cutLast separator text = some (before, after)) :
    text = before ++ separator :: after ∧ separator ∉ after := by
  induction text generalizing before with
  | nil => simp [cutLast] at cut
  | cons character rest induction =>
      rw [cutLast] at cut
      cases cutRest : cutLast separator rest with
      | none =>
          rw [cutRest] at cut
          by_cases same : character = separator
          · simp only [same, if_true, Option.some.injEq, Prod.mk.injEq] at cut
            obtain ⟨rfl, rfl⟩ := cut
            exact ⟨by simp [same], cutLast_eq_none_iff.1 cutRest⟩
          · simp [same] at cut
      | some found =>
          obtain ⟨innerBefore, innerAfter⟩ := found
          rw [cutRest] at cut
          simp only [Option.some.injEq, Prod.mk.injEq] at cut
          obtain ⟨rfl, rfl⟩ := cut
          obtain ⟨whole, free⟩ := induction cutRest
          exact ⟨by simp [whole], free⟩

def afterLast (separator : Char) (text : List Char) : List Char :=
  match cutLast separator text with
  | some (_, after) => after
  | none => text

theorem notMem_afterLast (separator : Char) (text : List Char) :
    separator ∉ afterLast separator text := by
  unfold afterLast
  split
  · rename_i cut
    exact (eq_append_of_cutLast cut).2
  · rename_i cut
    exact cutLast_eq_none_iff.1 cut

end TypedModules.Text
