import TypedModules.Proofs.Declaration.Composition
import TypedModules.Proofs.Layout.Content
import TypedModules.Proofs.Text.Lines

/-! # Spacing of buffers

A blank line is only written between two enumerations or behind other lines, so the
lines of a buffer are tidy as long as what calls are given holds no line breaks and
nobody adds a blank line.
-/

namespace TypedModules

open Text

variable {margin : String}

theorem IsMargin.isUnbroken (isMargin : IsMargin margin) : IsUnbroken margin :=
  fun member => absurd (isMargin '\n' member) (by decide)

namespace Enumeration

variable {enumeration : Enumeration}

theorem isLine_of_mem_printedLines (unbroken : ∀ text ∈ enumeration.texts, IsUnbroken text)
    (exported : Bool) : ∀ line ∈ enumeration.printedLines exported defaultUnit, IsLine line := by
  rcases List.forall_mem_cons.mp unbroken with ⟨name, textsUnbroken⟩
  have members := forall_mem_textsOf_iff.mp textsUnbroken
  have union : IsUnbroken enumeration.unionText :=
    unionText_of_composable isComposable_isUnbroken fun member isMember =>
      (members member isMember).2
  have modifier : IsUnbroken (if exported then "export " else "") := by
    cases exported <;> decide
  have opening : ∀ line ∈ enumeration.openingLines exported, IsLine line := by
    simp only [openingLines, List.forall_mem_cons]
    exact ⟨by decide, ⟨by simp, by simp +decide [modifier, name]⟩, List.forall_mem_nil _⟩
  have closing : ∀ line ∈ enumeration.closingLines exported, IsLine line := by
    simp only [closingLines, List.forall_mem_cons]
    exact ⟨by decide, ⟨by simp, by simp +decide [modifier, name, union]⟩, List.forall_mem_nil _⟩
  have rendered : ∀ line ∈ enumeration.renderedTexts.map (fun text => defaultUnit ++ text ++ ","),
      IsLine line := by
    intro line isLine
    rcases List.mem_map.mp isLine with ⟨text, isText, rfl⟩
    rcases List.mem_map.mp isText with ⟨member, isRendered, rfl⟩
    rcases members member (mem_of_mem_renderedMembers isRendered) with ⟨key, value⟩
    have written := memberText_of_composable isComposable_isUnbroken key value
    exact ⟨by simp, by simp +decide [written]⟩
  rw [printedLines, List.forall_mem_append, List.forall_mem_append]
  refine ⟨⟨opening, rendered⟩, ?_⟩
  split
  · exact closing
  · exact List.forall_mem_nil _

end Enumeration

structure BufferCall.IsPlain (call : BufferCall) : Prop where
  line : ∀ line, call.line? = some line → IsLine line
  texts : ∀ text ∈ call.texts, IsUnbroken text

theorem BufferCall.IsPlain.isTidy_written {call : BufferCall} (plain : call.IsPlain)
    (isMargin : IsMargin margin) {lines : List String} (tidy : IsTidy lines) :
    IsTidy (lines ++ (call.written lines).map (margin ++ ·)) := by
  have indented : ∀ {others : List String}, (∀ line ∈ others, IsLine line) →
      IsTidy (others.map (margin ++ ·)) := by
    intro others filled
    apply IsTidy.of_isLine
    intro line member
    rcases List.mem_map.mp member with ⟨other, isOther, rfl⟩
    exact isMargin.isUnbroken.appendLine (filled other isOther)
  cases call with
  | edit edit =>
      cases edit with
      | add line =>
          exact tidy.append (indented (List.forall_mem_singleton.mpr (plain.line line rfl)))
      | indent | outdent => exact tidy.append (indented (List.forall_mem_nil _))
  | enumeration declared exported =>
      have printed := indented (Enumeration.isLine_of_mem_printedLines plain.texts exported)
      by_cases empty : lines = []
      · simpa [written, empty] using printed
      · rw [written, if_neg empty, List.singleton_append, List.map_cons]
        have visible : (declared.printedLines exported defaultUnit).map (margin ++ ·) ≠ [] := by
          simp [Enumeration.printedLines, Enumeration.openingLines]
        exact tidy.append_separated printed empty visible (by simpa using isMargin.isUnbroken)
  | join glue | clear | setUnit unit => exact tidy.append (indented (List.forall_mem_nil _))

theorem LineBuffer.isTidy_afterCalls {buffer : LineBuffer} (regular : buffer.IsRegular)
    (tidy : IsTidy buffer.lines) {calls : List BufferCall}
    (additive : ∀ call ∈ calls, call.IsAdditive) (plain : ∀ call ∈ calls, call.IsPlain) :
    IsTidy (buffer.afterCalls calls).lines := by
  let Holds (lines : List String) (_ : List BufferCall) : Prop := IsTidy lines
  have start : Holds buffer.lines [] := tidy
  refine lines_afterCalls_induction regular start ?_ additive plain
  intro lines past call margin isPlain isMargin held
  exact isPlain.isTidy_written isMargin held

end TypedModules
