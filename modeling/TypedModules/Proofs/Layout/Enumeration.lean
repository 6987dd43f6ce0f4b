import Mathlib.Data.List.TakeWhile
import TypedModules.Layout.Call

/-! # Printed enumerations

An enumeration is printed as one block of lines, up to the first value that has no
literal. Blocks that are printed one after the other have single empty lines between
them.
-/

namespace TypedModules

namespace Enumeration

/-- The members as they are written both in the declaration and at run time. -/
def memberTexts (enumeration : Enumeration) : List String :=
  enumeration.members.map memberText

def declarationLines (enumeration : Enumeration) (exported : Bool) (unit : String) :
    List String :=
  let modifier := if exported then "export " else ""
  ["// enum", modifier ++ "const " ++ enumeration.name ++ " = \x7b"] ++
    enumeration.memberTexts.map (fun text => unit ++ text ++ ",") ++
    ["\x7d as const;",
      modifier ++ "type " ++ enumeration.name ++ " = " ++ enumeration.unionText ++ ";"]

def openingLines (enumeration : Enumeration) (exported : Bool) : List String :=
  ["// enum", (if exported then "export " else "") ++ "const " ++ enumeration.name ++ " = \x7b"]

def closingLines (enumeration : Enumeration) (exported : Bool) : List String :=
  ["\x7d as const;",
    (if exported then "export " else "") ++ "type " ++ enumeration.name ++ " = " ++
      enumeration.unionText ++ ";"]

theorem declarationLines_eq (enumeration : Enumeration) (exported : Bool) (unit : String) :
    enumeration.declarationLines exported unit =
      enumeration.openingLines exported ++
        enumeration.memberTexts.map (fun text => unit ++ text ++ ",") ++
          enumeration.closingLines exported := rfl

theorem edits_eq (enumeration : Enumeration) (exported separated : Bool) :
    enumeration.edits exported separated =
      ((if separated then [""] else []) ++ enumeration.openingLines exported).map
          (fun line => .ok (.add line)) ++
        .ok .indent :: (enumeration.members.map memberEdit ++
          .ok .outdent :: (enumeration.closingLines exported).map fun line => .ok (.add line)) := by
  cases separated <;> simp [edits, openingLines, closingLines]

/-! ## Members up to a value without a literal -/

variable {enumeration : Enumeration} {member : String × Scalar}

theorem memberEdit_of_isRenderable (renderable : member.2.IsRenderable) :
    memberEdit member = .ok (.add (memberText member ++ ",")) := by
  rw [memberEdit, Scalar.literal, if_pos renderable]
  rfl

theorem memberEdit_of_not_isRenderable (unrenderable : ¬member.2.IsRenderable) :
    memberEdit member = .error .tooManyDigits := by
  rw [memberEdit, Scalar.literal, if_neg unrenderable]
  rfl

def renderedMembers (enumeration : Enumeration) : List (String × Scalar) :=
  enumeration.members.takeWhile fun member => member.2.IsRenderable

def renderedTexts (enumeration : Enumeration) : List String :=
  enumeration.renderedMembers.map memberText

theorem isRenderable_of_mem_renderedMembers (rendered : member ∈ enumeration.renderedMembers) :
    member.2.IsRenderable := by
  simpa using List.mem_takeWhile_imp rendered

theorem mem_of_mem_renderedMembers (rendered : member ∈ enumeration.renderedMembers) :
    member ∈ enumeration.members :=
  List.takeWhile_subset _ rendered

theorem renderedMembers_of_isRenderable (renderable : enumeration.IsRenderable) :
    enumeration.renderedMembers = enumeration.members := by
  rw [renderedMembers, List.takeWhile_eq_self_iff]
  exact fun member isMember => decide_eq_true (renderable member isMember)

theorem renderedTexts_of_isRenderable (renderable : enumeration.IsRenderable) :
    enumeration.renderedTexts = enumeration.memberTexts := by
  rw [renderedTexts, renderedMembers_of_isRenderable renderable, memberTexts]

theorem renderedMembers_of_first {name key : String} {value : Scalar}
    (unrenderable : ¬value.IsRenderable) (rest : List (String × Scalar)) :
    (⟨name, (key, value) :: rest⟩ : Enumeration).renderedMembers = [] :=
  List.takeWhile_cons_of_neg (by simp [unrenderable])

theorem exists_unrenderable (unrenderable : ¬enumeration.IsRenderable) :
    ∃ member rest, enumeration.members = enumeration.renderedMembers ++ member :: rest ∧
      ¬member.2.IsRenderable := by
  let isRenderable (member : String × Scalar) : Bool := member.2.IsRenderable
  have split : enumeration.members =
      enumeration.renderedMembers ++ enumeration.members.dropWhile isRenderable :=
    List.takeWhile_append_dropWhile.symm
  cases behind : enumeration.members.dropWhile isRenderable with
  | nil =>
      rw [behind, List.append_nil] at split
      refine absurd (fun member isMember => ?_) unrenderable
      exact isRenderable_of_mem_renderedMembers (split ▸ isMember)
  | cons member rest =>
      rw [behind] at split
      have first := List.head?_dropWhile_not isRenderable enumeration.members
      rw [behind, List.head?_cons] at first
      exact ⟨member, rest, split, by simpa [isRenderable] using first⟩

/-- The lines that are printed: all those of the declaration, or just those in front of
the first value without a literal. -/
def printedLines (enumeration : Enumeration) (exported : Bool) (unit : String) : List String :=
  enumeration.openingLines exported ++
    enumeration.renderedTexts.map (fun text => unit ++ text ++ ",") ++
      if enumeration.IsRenderable then enumeration.closingLines exported else []

theorem printedLines_of_isRenderable (renderable : enumeration.IsRenderable) (exported : Bool)
    (unit : String) :
    enumeration.printedLines exported unit = enumeration.declarationLines exported unit := by
  rw [printedLines, if_pos renderable, renderedTexts_of_isRenderable renderable,
    declarationLines_eq]

/-! ## At run time -/

def objectOf : List String → String
  | [] => "\x7b\x7d"
  | texts => "\x7b " ++ ", ".intercalate texts ++ " \x7d"

theorem exportText_eq (enumeration : Enumeration) :
    enumeration.exportText =
      "module.exports." ++ enumeration.name ++ " = " ++ objectOf enumeration.memberTexts := by
  have object : enumeration.objectText = objectOf enumeration.memberTexts := by
    unfold objectText memberTexts
    cases enumeration.members <;> rfl
  rw [← object]
  rfl

end Enumeration

namespace LineBuffer

def addAll (buffer : LineBuffer) (lines : List String) : LineBuffer :=
  { buffer with lines := buffer.lines ++ lines.map (buffer.indentation ++ ·) }

theorem runAll_add (buffer : LineBuffer) (lines : List String) :
    Attempt.runAll editIfAny buffer (lines.map fun line => .ok (.add line)) =
      ⟨buffer.addAll lines, .ok ()⟩ := by
  induction lines generalizing buffer with
  | nil => simp [addAll]
  | cons line rest induction =>
      have added : buffer.editIfAny (.ok (.add line)) = .ok (buffer.add line) := rfl
      rw [List.map_cons, Attempt.runAll_cons_of_ok _ added, induction]
      simp [addAll, add]

theorem runAll_memberEdit (buffer : LineBuffer) {members : List (String × Scalar)}
    (renderable : ∀ member ∈ members, member.2.IsRenderable) :
    Attempt.runAll editIfAny buffer (members.map Enumeration.memberEdit) =
      ⟨buffer.addAll (members.map fun member => Enumeration.memberText member ++ ","),
        .ok ()⟩ := by
  have edits : members.map Enumeration.memberEdit =
      (members.map fun member => Enumeration.memberText member ++ ",").map
        fun line => .ok (.add line) := by
    rw [List.map_map]
    exact List.map_congr_left fun member isMember =>
      Enumeration.memberEdit_of_isRenderable (renderable member isMember)
  rw [edits, runAll_add]

theorem outdent_of_append {buffer : LineBuffer} {outer : String} (visible : buffer.unit ≠ "")
    (nested : buffer.indentation = outer ++ buffer.unit) :
    buffer.outdent = .ok { buffer with indentation := outer } := by
  have indented : buffer.indentation ≠ "" := by
    rw [nested]
    simp [visible]
  rw [outdent, if_neg indented, nested, shortened_append outer visible]

def separator (buffer : LineBuffer) : List String :=
  if buffer.lines = [] then [] else [""]

def unfinished (buffer : LineBuffer) (enumeration : Enumeration) (exported : Bool) : LineBuffer :=
  (buffer.addAll (buffer.separator ++ enumeration.openingLines exported)).indent.addAll
    (enumeration.renderedTexts.map (· ++ ","))

/-- An enumeration is printed up to the first value without a literal. If there is none,
it is printed completely, as long as the level of the members can be taken away again. -/
theorem writeEnumeration_eq_outdent (buffer : LineBuffer) (enumeration : Enumeration)
    (exported : Bool) :
    buffer.writeEnumeration enumeration exported =
      if enumeration.IsRenderable then
        match (buffer.unfinished enumeration exported).outdent with
        | .ok level => ⟨level.addAll (enumeration.closingLines exported), .ok ()⟩
        | .error fault => ⟨buffer.unfinished enumeration exported, .error fault⟩
      else ⟨buffer.unfinished enumeration exported, .error (.literal .tooManyDigits)⟩ := by
  let heading := buffer.separator ++ enumeration.openingLines exported
  let opened := (buffer.addAll heading).indent
  have separated : (if !buffer.lines.isEmpty then [""] else []) = buffer.separator := by
    cases lines : buffer.lines <;> simp [separator, lines]
  have indented : (buffer.addAll heading).editIfAny (.ok .indent) = .ok opened := rfl
  have reached : Attempt.runAll editIfAny opened
      (enumeration.renderedMembers.map Enumeration.memberEdit) =
        ⟨buffer.unfinished enumeration exported, .ok ()⟩ := by
    rw [runAll_memberEdit opened fun _ => Enumeration.isRenderable_of_mem_renderedMembers,
      unfinished, Enumeration.renderedTexts, List.map_map]
    rfl
  rw [writeEnumeration, Enumeration.edits_eq, separated,
    Attempt.runAll_append_of_ok _ (runAll_add buffer heading),
    Attempt.runAll_cons_of_ok _ indented]
  by_cases renderable : enumeration.IsRenderable
  · have outdented : (buffer.unfinished enumeration exported).editIfAny (.ok .outdent) =
        (buffer.unfinished enumeration exported).outdent := rfl
    rw [if_pos renderable, ← Enumeration.renderedMembers_of_isRenderable renderable,
      Attempt.runAll_append_of_ok _ reached]
    cases outcome : (buffer.unfinished enumeration exported).outdent with
    | ok level => rw [Attempt.runAll_cons_of_ok _ (outdented.trans outcome), runAll_add]
    | error fault => rw [Attempt.runAll_cons_of_error _ (outdented.trans outcome)]
  · rcases Enumeration.exists_unrenderable renderable with ⟨member, rest, split, unrenderable⟩
    have failed : (buffer.unfinished enumeration exported).editIfAny
        (Enumeration.memberEdit member) = .error (.literal .tooManyDigits) := by
      rw [Enumeration.memberEdit_of_not_isRenderable unrenderable]
      rfl
    rw [if_neg renderable, split, List.map_append, List.map_cons, List.append_assoc,
      List.cons_append, Attempt.runAll_append_of_ok _ reached,
      Attempt.runAll_cons_of_error _ failed]

theorem writeEnumeration_of_not_isRenderable (buffer : LineBuffer) {enumeration : Enumeration}
    (unrenderable : ¬enumeration.IsRenderable) (exported : Bool) :
    buffer.writeEnumeration enumeration exported =
      ⟨buffer.unfinished enumeration exported, .error (.literal .tooManyDigits)⟩ := by
  rw [writeEnumeration_eq_outdent, if_neg unrenderable]

theorem writeEnumeration_eq (buffer : LineBuffer) (visible : buffer.unit ≠ "")
    {enumeration : Enumeration} (renderable : enumeration.IsRenderable) (exported : Bool) :
    buffer.writeEnumeration enumeration exported =
      ⟨buffer.addAll
        (buffer.separator ++ enumeration.declarationLines exported buffer.unit), .ok ()⟩ := by
  have closed : (buffer.unfinished enumeration exported).outdent =
      .ok { buffer.unfinished enumeration exported with indentation := buffer.indentation } :=
    outdent_of_append visible rfl
  rw [writeEnumeration_eq_outdent, if_pos renderable, closed, Enumeration.declarationLines_eq,
    ← Enumeration.renderedTexts_of_isRenderable renderable]
  simp [unfinished, addAll, indent, Function.comp_def, String.append_assoc]

theorem lines_writeEnumeration (buffer : LineBuffer) (visible : buffer.unit ≠ "")
    (enumeration : Enumeration) (exported : Bool) :
    (buffer.writeEnumeration enumeration exported).state.lines =
      buffer.lines ++ (buffer.separator ++ enumeration.printedLines exported buffer.unit).map
        (buffer.indentation ++ ·) := by
  by_cases renderable : enumeration.IsRenderable
  · rw [writeEnumeration_eq buffer visible renderable,
      Enumeration.printedLines_of_isRenderable renderable]
    rfl
  · rw [writeEnumeration_of_not_isRenderable buffer renderable, Enumeration.printedLines,
      if_neg renderable]
    simp [unfinished, addAll, indent, Function.comp_def, String.append_assoc]

def printNext (exported : Bool) (buffer : LineBuffer) (enumeration : Enumeration) : LineBuffer :=
  (buffer.writeEnumeration enumeration exported).state

/-- Enumerations printed one after the other into an empty buffer. -/
def printed (exported : Bool) (enumerations : List Enumeration) : LineBuffer :=
  enumerations.foldl (printNext exported) {}

theorem printed_append (exported : Bool) (enumerations : List Enumeration)
    (next : Enumeration) :
    printed exported (enumerations ++ [next]) =
      ((printed exported enumerations).writeEnumeration next exported).state := by
  simp [printed, printNext]

theorem foldl_printNext (exported : Bool) {enumerations : List Enumeration}
    (renderable : ∀ enumeration ∈ enumerations, enumeration.IsRenderable) :
    ∀ lines : List String, lines ≠ [] →
      enumerations.foldl (printNext exported) { lines } =
        { lines := lines ++ enumerations.flatMap
            fun enumeration => "" :: enumeration.declarationLines exported defaultUnit } := by
  induction enumerations with
  | nil => intro lines _; simp
  | cons first rest induction =>
      intro lines filled
      have visible : defaultUnit ≠ "" := by decide
      rw [List.forall_mem_cons] at renderable
      rw [List.foldl_cons, printNext, writeEnumeration_eq { lines } visible renderable.1]
      simp only [addAll, separator, if_neg filled, String.empty_append, List.map_id']
      rw [induction renderable.2 _ (by simp [filled])]
      simp

theorem intercalate_cons_eq_flatMap (line : String) (first : List String)
    (rest : List (List String)) :
    [line].intercalate (first :: rest) = first ++ rest.flatMap (line :: ·) := by
  induction rest generalizing first with
  | nil => simp
  | cons second others induction =>
      rw [List.intercalate_cons_cons, induction]
      simp

/-- Single empty lines separate complete blocks, and none precedes or follows them. -/
theorem printed_eq (exported : Bool) {enumerations : List Enumeration}
    (renderable : ∀ enumeration ∈ enumerations, enumeration.IsRenderable) :
    printed exported enumerations =
      { lines := [""].intercalate
          (enumerations.map (·.declarationLines exported defaultUnit)) } := by
  cases enumerations with
  | nil => rfl
  | cons first rest =>
      have visible : defaultUnit ≠ "" := by decide
      have nonempty : first.declarationLines exported defaultUnit ≠ [] := by
        simp [Enumeration.declarationLines]
      rw [List.forall_mem_cons] at renderable
      rw [printed, List.foldl_cons, printNext, writeEnumeration_eq {} visible renderable.1]
      simp only [addAll, separator, if_true, String.empty_append, List.map_id', List.nil_append]
      rw [foldl_printNext exported renderable.2 _ nonempty, List.map_cons,
        intercalate_cons_eq_flatMap, List.flatMap_map]

end LineBuffer

end TypedModules
