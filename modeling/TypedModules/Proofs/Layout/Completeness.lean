import TypedModules.Proofs.Layout.Step
import TypedModules.Proofs.Literal.Limit

/-! # Printed completely or not at all

Printing an enumeration takes several edits, and the one that takes the level of the
members away again may be refused, as may one that needs the literal of a value. Whether all of
it is printed, or nothing, depends only on the unit of indentation, on the values and on
whether the block is closed.
-/

namespace TypedModules

namespace Attempt

variable {Fault State Whole : Type} {attempt : Attempt Fault State Unit} {before done : State}

/-- Either everything has been done, or the attempt was refused and nothing was done. -/
def IsWhole (attempt : Attempt Fault State Unit) (before done : State) : Prop :=
  attempt = ⟨done, .ok ()⟩ ∨ ∃ fault, attempt = ⟨before, .error fault⟩

theorem isWhole_embed_iff {replace : State → Whole} (injective : Function.Injective replace) :
    (attempt.embed replace).IsWhole (replace before) (replace done) ↔
      attempt.IsWhole before done := by
  rcases attempt with ⟨state, answer⟩
  simp [IsWhole, embed, injective.eq_iff]

end Attempt

namespace LineBuffer

variable (buffer : LineBuffer) (enumeration : Enumeration) (exported : Bool)

def declared : LineBuffer :=
  buffer.addAll (buffer.separator ++ enumeration.declarationLines exported buffer.unit)

/-- Without a unit, the members stand at the indentation of the buffer. Then either
there is no level to take away, or all levels are taken away at once. -/
theorem writeEnumeration_of_empty_unit (buffer : LineBuffer) (invisible : buffer.unit = "")
    {enumeration : Enumeration} (renderable : enumeration.IsRenderable) (exported : Bool) :
    buffer.writeEnumeration enumeration exported =
      if buffer.indentation = "" then
        ⟨buffer.unfinished enumeration exported, .error .notIndented⟩
      else
        ⟨{ buffer.unfinished enumeration exported with indentation := "" }.addAll
          (enumeration.closingLines exported), .ok ()⟩ := by
  have level : (buffer.unfinished enumeration exported).indentation = buffer.indentation := by
    simp [unfinished, addAll, invisible]
  have unit : (buffer.unfinished enumeration exported).unit = "" := invisible
  rw [writeEnumeration_eq_outdent, if_pos renderable, outdent, level]
  by_cases flat : buffer.indentation = ""
  · rw [if_pos flat, if_pos flat]
  · rw [if_neg flat, if_neg flat, shortened, if_pos unit]

theorem unfinished_ne : buffer.unfinished enumeration exported ≠ buffer := by
  intro same
  have lengths := congrArg (·.lines.length) same
  simp [unfinished, addAll, Enumeration.openingLines] at lengths

theorem not_isWhole_of_unfinished {attempt : Attempt LayoutFault LineBuffer Unit}
    {fault : LayoutFault}
    (brokenOff : attempt = ⟨buffer.unfinished enumeration exported, .error fault⟩) :
    ¬attempt.IsWhole buffer (buffer.declared enumeration exported) := by
  rintro (printed | ⟨reason, refused⟩)
  · rw [brokenOff] at printed
    cases congrArg Attempt.answer printed
  · rw [brokenOff] at refused
    exact unfinished_ne buffer enumeration exported (congrArg Attempt.state refused)

theorem isWhole_writeEnumeration_iff :
    (buffer.writeEnumeration enumeration exported).IsWhole buffer
        (buffer.declared enumeration exported) ↔
      buffer.unit ≠ "" ∧ enumeration.IsRenderable := by
  constructor
  · intro whole
    by_cases renderable : enumeration.IsRenderable
    · refine ⟨fun invisible => ?_, renderable⟩
      have attempted := writeEnumeration_of_empty_unit buffer invisible renderable exported
      by_cases flat : buffer.indentation = ""
      · rw [if_pos flat] at attempted
        exact not_isWhole_of_unfinished buffer enumeration exported attempted whole
      · rw [attempted, if_neg flat] at whole
        rcases whole with printed | ⟨fault, refused⟩
        · exact flat (congrArg (·.state.indentation) printed).symm
        · cases congrArg Attempt.answer refused
    · have brokenOff := writeEnumeration_of_not_isRenderable buffer renderable exported
      exact absurd whole (not_isWhole_of_unfinished buffer enumeration exported brokenOff)
  · rintro ⟨visible, renderable⟩
    exact .inl (writeEnumeration_eq buffer visible renderable exported)

end LineBuffer

namespace NamespaceBlock

theorem isWhole_writeEnumeration_iff (block : NamespaceBlock) (enumeration : Enumeration)
    (exported : Bool) :
    (block.writeEnumeration enumeration exported).IsWhole block
        { block with buffer := block.buffer.declared enumeration exported } ↔
      block.closed = true ∨ block.buffer.unit ≠ "" ∧ enumeration.IsRenderable := by
  cases state : block.closed with
  | true =>
      have refused := writeEnumeration_of_closed state enumeration exported
      exact iff_of_true (.inr ⟨_, refused⟩) (.inl rfl)
  | false =>
      have injective : Function.Injective fun buffer => { block with buffer } := by
        intro first second same
        exact congrArg NamespaceBlock.buffer same
      rw [writeEnumeration_of_open state, or_iff_right Bool.false_ne_true,
        ← LineBuffer.isWhole_writeEnumeration_iff block.buffer enumeration exported]
      rw [← state]
      exact Attempt.isWhole_embed_iff injective

end NamespaceBlock

/-- An enumeration is printed completely, at the indentation that the buffer keeps, or
refused without a trace, exactly if levels of indentation can be told apart and all its
values have literals, or it is refused by a closed block. In front of a value without a
literal the declaration breaks off, and the level of the members stays. Without a unit
the declaration is printed up to its members and then refused, or its last lines, and all
further ones, lose the indentation. -/
theorem writeEnumeration_isWhole_iff (enumeration : Enumeration) (exported : Bool) :
    (∀ buffer : LineBuffer,
      let attempt := buffer.writeEnumeration enumeration exported
      (attempt.IsWhole buffer (buffer.declared enumeration exported) ↔
          buffer.unit ≠ "" ∧ enumeration.IsRenderable) ∧
        (buffer.unit ≠ "" → enumeration.IsRenderable →
          attempt = ⟨buffer.declared enumeration exported, .ok ()⟩) ∧
        (¬enumeration.IsRenderable →
          attempt = ⟨buffer.unfinished enumeration exported,
            .error (.literal .tooManyDigits)⟩) ∧
        (buffer.unit = "" → enumeration.IsRenderable → attempt =
          if buffer.indentation = "" then
            ⟨buffer.unfinished enumeration exported, .error .notIndented⟩
          else
            ⟨{ buffer.unfinished enumeration exported with indentation := "" }.addAll
              (enumeration.closingLines exported), .ok ()⟩)) ∧
    ∀ block : NamespaceBlock,
      let attempt := block.writeEnumeration enumeration exported
      (attempt.IsWhole block
          { block with buffer := block.buffer.declared enumeration exported } ↔
        block.closed = true ∨ block.buffer.unit ≠ "" ∧ enumeration.IsRenderable) ∧
        (block.closed = true → attempt = ⟨block, .error (.closed block.name)⟩) ∧
        (block.closed = false → attempt =
          (block.buffer.writeEnumeration enumeration exported).embed fun buffer =>
            { block with buffer }) := by
  refine ⟨fun buffer => ⟨?_, fun visible renderable => ?_, fun unrenderable => ?_,
    fun invisible renderable => ?_⟩, fun block => ⟨?_, fun isClosed => ?_, fun isOpen => ?_⟩⟩
  · exact LineBuffer.isWhole_writeEnumeration_iff buffer enumeration exported
  · exact LineBuffer.writeEnumeration_eq buffer visible renderable exported
  · exact LineBuffer.writeEnumeration_of_not_isRenderable buffer unrenderable exported
  · exact LineBuffer.writeEnumeration_of_empty_unit buffer invisible renderable exported
  · exact NamespaceBlock.isWhole_writeEnumeration_iff block enumeration exported
  · exact NamespaceBlock.writeEnumeration_of_closed isClosed enumeration exported
  · exact NamespaceBlock.writeEnumeration_of_open isOpen enumeration exported

/-- An indented buffer with a line, a closed block, and a value with too many digits. -/
theorem writeEnumeration_isWhole_of_level :
    let enumeration : Enumeration := ⟨"Level", [("low", .integer 1), ("sap-high", .integer 3)]⟩
    let endless : Enumeration :=
      ⟨"Big", [("a", .integer 1), ("b", .integer (10 ^ Scalar.digitLimit)), ("c", .integer 3)]⟩
    let buffer : LineBuffer := { unit := "\t", lines := ["x"], indentation := "  " }
    let block : NamespaceBlock := { name := "Books", buffer := {}, closed := true }
    (buffer.unit ≠ "" ∧ enumeration.IsRenderable ∧ ¬endless.IsRenderable ∧
        block.closed = true) ∧
      buffer.writeEnumeration enumeration false = ⟨{ buffer with
        lines := ["x", "  ", "  // enum", "  const Level = \x7b", "  \tlow: 1,",
          "  \t\"sap-high\": 3,", "  \x7d as const;", "  type Level = 1 | 3;"] }, .ok ()⟩ ∧
      buffer.writeEnumeration endless false = ⟨{ buffer with
        lines := ["x", "  ", "  // enum", "  const Big = \x7b", "  \ta: 1,"]
        indentation := "  \t" }, .error (.literal .tooManyDigits)⟩ ∧
      block.writeEnumeration enumeration false = ⟨block, .error (.closed "Books")⟩ := by
  intro enumeration endless buffer block
  have visible : buffer.unit ≠ "" := by decide
  have renderable : enumeration.IsRenderable := by decide
  have unrenderable : ¬endless.IsRenderable := fun all =>
    Scalar.not_isRenderable_powerOfTen (all ("b", _) (by simp [endless]))
  have first : (Scalar.integer 1).IsRenderable := by decide
  have rendered : endless.renderedMembers = [("a", .integer 1)] := by
    simp [Enumeration.renderedMembers, endless, first, Scalar.not_isRenderable_powerOfTen]
  refine ⟨⟨visible, renderable, unrenderable, rfl⟩, ?_, ?_, ?_⟩
  · rw [((writeEnumeration_isWhole_iff enumeration false).1 buffer).2.1 visible renderable]
    rfl
  · rw [((writeEnumeration_isWhole_iff endless false).1 buffer).2.2.1 unrenderable,
      LineBuffer.unfinished, Enumeration.renderedTexts, rendered]
    rfl
  · exact ((writeEnumeration_isWhole_iff enumeration false).2 block).2.1 rfl

/-- A buffer that does not indent keeps half a declaration, and one that has ceased to
indent loses its indentation. -/
theorem not_whole_of_empty_unit :
    let enumeration : Enumeration := ⟨"E", [("a", .integer 1)]⟩
    let flat : LineBuffer := { unit := "" }
    let indented : LineBuffer := { unit := "", indentation := "  " }
    flat.writeEnumeration enumeration true =
        ⟨{ flat with lines := ["// enum", "export const E = \x7b", "a: 1,"] },
          .error .notIndented⟩ ∧
      ¬(flat.writeEnumeration enumeration true).IsWhole flat (flat.declared enumeration true) ∧
      indented.writeEnumeration enumeration true =
        ⟨{ indented with
            lines := ["  // enum", "  export const E = \x7b", "  a: 1,", "\x7d as const;",
              "export type E = 1;"]
            indentation := "" }, .ok ()⟩ ∧
      ¬(indented.writeEnumeration enumeration true).IsWhole indented
        (indented.declared enumeration true) := by
  intro enumeration flat indented
  refine ⟨rfl, ?_, rfl, ?_⟩
  · rw [LineBuffer.isWhole_writeEnumeration_iff]
    exact fun whole => whole.1 rfl
  · rw [LineBuffer.isWhole_writeEnumeration_iff]
    exact fun whole => whole.1 rfl

end TypedModules
