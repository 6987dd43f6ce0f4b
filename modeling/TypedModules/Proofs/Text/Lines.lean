import Mathlib.Data.List.Chain
import TypedModules.Proofs.Text.Joining
import TypedModules.Text.Pieces

/-! # Lines set apart by blank ones

A blank line stands between two others. As long as no line holds a line break, this
can be seen from the text that the lines are joined to.
-/

namespace TypedModules.Text

def ofLines (lines : List String) : String :=
  "\n".intercalate lines

def IsUnbroken (text : String) : Prop :=
  '\n' ∉ text.toList

def IsLine (line : String) : Prop :=
  line ≠ "" ∧ IsUnbroken line

instance (text : String) : Decidable (IsUnbroken text) :=
  inferInstanceAs (Decidable (_ ∉ _))

instance (line : String) : Decidable (IsLine line) :=
  inferInstanceAs (Decidable (_ ∧ _))

@[simp]
theorem isUnbroken_append_iff {first second : String} :
    IsUnbroken (first ++ second) ↔ IsUnbroken first ∧ IsUnbroken second := by
  simp [IsUnbroken]

theorem isComposable_isUnbroken : IsComposable IsUnbroken where
  bare isBare broken := (isBare _ broken).1 rfl
  append firstUnbroken secondUnbroken :=
    isUnbroken_append_iff.mpr ⟨firstUnbroken, secondUnbroken⟩

theorem IsUnbroken.appendLine {first second : String} (unbroken : IsUnbroken first)
    (isLine : IsLine second) : IsLine (first ++ second) :=
  ⟨by simp [isLine.1], isUnbroken_append_iff.mpr ⟨unbroken, isLine.2⟩⟩

/-- Lines without line breaks. None that is blank is the first or the last one or
follows another one. -/
structure IsTidy (lines : List String) : Prop where
  unbroken : ∀ line ∈ lines, IsUnbroken line
  first : lines.head? ≠ some ""
  last : lines.getLast? ≠ some ""
  single : lines.IsChain fun line next => line ≠ "" ∨ next ≠ ""

theorem intercalate_ne_nil {separator part : List String} {rest : List (List String)}
    (filled : part ≠ []) : separator.intercalate (part :: rest) ≠ [] := by
  cases rest <;> simp [List.intercalate_cons_cons, filled]

namespace IsTidy

variable {lines first second : List String} {parts : List (List String)}

theorem nil : IsTidy [] := by
  constructor <;> simp

theorem of_isLine (filled : ∀ line ∈ lines, IsLine line) : IsTidy lines where
  unbroken line member := (filled line member).2
  first isBlank := (filled "" (List.mem_of_mem_head? isBlank)).1 rfl
  last isBlank := (filled "" (List.mem_of_mem_getLast? isBlank)).1 rfl
  single := by
    apply List.Pairwise.isChain
    apply List.pairwise_of_forall_mem_list
    intro line member next _
    exact .inl (filled line member).1

theorem append (firstTidy : IsTidy first) (secondTidy : IsTidy second) :
    IsTidy (first ++ second) where
  unbroken line member := by
    rcases List.mem_append.mp member with inFirst | inSecond
    · exact firstTidy.unbroken line inFirst
    · exact secondTidy.unbroken line inSecond
  first := by
    cases first with
    | nil => exact secondTidy.first
    | cons line rest => exact firstTidy.first
  last := by
    rw [List.getLast?_append]
    cases ending : second.getLast? with
    | none => simpa using firstTidy.last
    | some line => simpa [ending] using secondTidy.last
  single := by
    apply firstTidy.single.append secondTidy.single
    intro line isLast next _
    refine .inl ?_
    rintro rfl
    exact firstTidy.last isLast

theorem append_separated (firstTidy : IsTidy first) (secondTidy : IsTidy second)
    (firstFilled : first ≠ []) (secondFilled : second ≠ []) {separator : String}
    (unbroken : IsUnbroken separator) : IsTidy (first ++ separator :: second) where
  unbroken line member := by
    rcases List.mem_append.mp member with inFirst | inRest
    · exact firstTidy.unbroken line inFirst
    · rcases List.mem_cons.mp inRest with rfl | inSecond
      · exact unbroken
      · exact secondTidy.unbroken line inSecond
  first := by
    cases first with
    | nil => exact absurd rfl firstFilled
    | cons line rest => exact firstTidy.first
  last := by
    cases second with
    | nil => exact absurd rfl secondFilled
    | cons line rest =>
        have ending := secondTidy.last
        rwa [List.getLast?_append, List.getLast?_cons_cons, Option.or_of_isSome (by simp)]
  single := by
    apply firstTidy.single.append
    · cases second with
      | nil => exact .singleton separator
      | cons line rest =>
          refine .cons_cons (.inr ?_) secondTidy.single
          rintro rfl
          exact secondTidy.first rfl
    · intro line isLast next _
      refine .inl ?_
      rintro rfl
      exact firstTidy.last isLast

theorem flatten (tidy : ∀ part ∈ parts, IsTidy part) : IsTidy parts.flatten := by
  induction parts with
  | nil => exact nil
  | cons part rest induction =>
      rw [List.forall_mem_cons] at tidy
      exact tidy.1.append (induction tidy.2)

theorem separated (tidy : ∀ part ∈ parts, IsTidy part) (filled : ∀ part ∈ parts, part ≠ []) :
    IsTidy ([""].intercalate parts) := by
  induction parts with
  | nil => exact nil
  | cons part rest induction =>
      rw [List.forall_mem_cons] at tidy filled
      cases rest with
      | nil => simpa using tidy.1
      | cons next others =>
          have further := induction tidy.2 filled.2
          have nextFilled := filled.2 next List.mem_cons_self
          rw [List.intercalate_cons_cons, List.append_assoc, List.singleton_append]
          exact tidy.1.append_separated further filled.1 (intercalate_ne_nil nextFilled) (by decide)

/-! ## The text of tidy lines -/

theorem pieces_ofLines (tidy : IsTidy lines) (filled : lines ≠ []) :
    pieces '\n' (ofLines lines) = lines :=
  pieces_intercalate tidy.unbroken filled

theorem ofLines_eq_empty_iff (tidy : IsTidy lines) : ofLines lines = "" ↔ lines = [] := by
  constructor
  · intro empty
    by_contra filled
    have cut := tidy.pieces_ofLines filled
    rw [empty] at cut
    exact tidy.first (cut ▸ rfl)
  · rintro rfl
    rfl

theorem getLast?_ofLines (tidy : IsTidy lines) : (ofLines lines).toList.getLast? ≠ some '\n' := by
  intro ending
  rcases List.getLast?_eq_some_iff.mp ending with ⟨before, split⟩
  have filled : lines ≠ [] := by
    rintro rfl
    simp [ofLines] at split
  have cut := tidy.pieces_ofLines filled
  rw [pieces, split, List.splitOn_append_cons_self] at cut
  apply tidy.last
  rw [← cut]
  simp

/-- There is at most one blank line, and so at most two line breaks, at any place. -/
theorem not_isInfix_ofLines (tidy : IsTidy lines) :
    ¬['\n', '\n', '\n'] <:+: (ofLines lines).toList := by
  rintro ⟨before, after, split⟩
  have filled : lines ≠ [] := by
    rintro rfl
    simp [ofLines] at split
  -- Two blank lines stand between the three line breaks.
  have cuts : (before ++ ['\n', '\n', '\n'] ++ after).splitOn '\n' =
      before.splitOn '\n' ++ [[], []] ++ after.splitOn '\n' := by
    rw [List.append_assoc, List.cons_append, List.splitOn_append_cons_self]
    simp [List.splitOn_cons_eq_if_modifyHead]
  have cut := tidy.pieces_ofLines filled
  rw [pieces, ← split, cuts, List.map_append, List.map_append] at cut
  have blanks : ["", ""] <:+: lines := ⟨_, _, cut⟩
  simpa using tidy.single.infix blanks

end IsTidy

/-! ## Parts and their texts -/

variable {parts : List (List String)}

theorem ofLines_append {first second : List String} (firstFilled : first ≠ [])
    (secondFilled : second ≠ []) :
    ofLines (first ++ second) = ofLines first ++ "\n" ++ ofLines second :=
  String.intercalate_append_of_ne_nil firstFilled secondFilled

theorem ofLines_flatten (filled : ∀ part ∈ parts, part ≠ []) :
    ofLines (parts.map ofLines) = ofLines parts.flatten := by
  induction parts with
  | nil => rfl
  | cons part rest induction =>
      rw [List.forall_mem_cons] at filled
      cases rest with
      | nil => simp [ofLines]
      | cons next others =>
          have further : (next :: others).flatten ≠ [] := by
            simp [filled.2 next List.mem_cons_self]
          calc
            ofLines ((part :: next :: others).map ofLines)
            _ = ofLines part ++ "\n" ++ ofLines ((next :: others).map ofLines) :=
              String.intercalate_cons_of_ne_nil (List.cons_ne_nil _ _)
            _ = ofLines part ++ "\n" ++ ofLines (next :: others).flatten := by
              rw [induction filled.2]
            _ = ofLines (part :: next :: others).flatten :=
              (ofLines_append filled.1 further).symm

theorem intercalate_ofLines (filled : ∀ part ∈ parts, part ≠ []) :
    "\n\n".intercalate (parts.map ofLines) = ofLines ([""].intercalate parts) := by
  induction parts with
  | nil => rfl
  | cons part rest induction =>
      rw [List.forall_mem_cons] at filled
      cases rest with
      | nil => simp
      | cons next others =>
          have further : [""].intercalate (next :: others) ≠ [] :=
            intercalate_ne_nil (filled.2 next List.mem_cons_self)
          have breaks : "\n\n" = "\n" ++ (ofLines [""] ++ "\n") := by decide
          calc
            "\n\n".intercalate ((part :: next :: others).map ofLines)
            _ = ofLines part ++ "\n\n" ++ "\n\n".intercalate ((next :: others).map ofLines) :=
              String.intercalate_cons_of_ne_nil (List.cons_ne_nil _ _)
            _ = ofLines part ++ "\n" ++
                (ofLines [""] ++ "\n" ++ ofLines ([""].intercalate (next :: others))) := by
              rw [induction filled.2, breaks]
              simp only [String.append_assoc]
            _ = ofLines (part ++ ([""] ++ [""].intercalate (next :: others))) := by
              rw [ofLines_append filled.1 (by simp), ofLines_append (by simp) further]
            _ = ofLines ([""].intercalate (part :: next :: others)) := by
              rw [List.intercalate_cons_cons, List.append_assoc]

end TypedModules.Text
