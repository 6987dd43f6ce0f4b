import TypedModules.Proofs.Layout.Content

/-! # Closed blocks

A closed block refuses whatever would add to it or close it again. Only dropping its
lines is let pass, and that is final too: nothing is written to it any more.
-/

namespace TypedModules

namespace NamespaceBlock

variable {name unit indentation : String} {lines : List String} {block : NamespaceBlock}

def afterCalls (block : NamespaceBlock) (calls : List BlockCall) : NamespaceBlock :=
  calls.foldl (fun reached call => (reached.perform call).state) block

theorem afterCalls_cons (block : NamespaceBlock) (call : BlockCall) (rest : List BlockCall) :
    block.afterCalls (call :: rest) = (block.perform call).state.afterCalls rest := rfl

theorem result_of_close {after : NamespaceBlock} (accepted : block.close = .ok after) :
    after.closed = true ∧ after.name = block.name ∧
      after.buffer.lines = block.buffer.lines ++ ["\x7d"] := by
  rcases close_eq_ok_iff.mp accepted with ⟨-, level, buffer, outdented, rfl⟩
  refine ⟨rfl, rfl, ?_⟩
  rw [LineBuffer.lines_add, LineBuffer.lines_of_outdent outdented,
    LineBuffer.indentation_of_outdent level outdented]
  rfl

theorem name_perform (block : NamespaceBlock) (call : BlockCall) :
    (block.perform call).state.name = block.name := by
  let Same (after : NamespaceBlock) : Prop := after.name = block.name
  have edited : ∀ {before edit after}, NamespaceBlock.edit before edit = .ok after →
      Same before → Same after :=
    fun accepted same => (closed_and_name_of_edit accepted).2.2.trans same
  change Same (block.perform call).state
  cases call with
  | close =>
      exact Attempt.state_ofExcept_of_forall rfl fun _ accepted => (result_of_close accepted).2.1
  | content call =>
      cases call with
      | edit edit =>
          exact Attempt.state_ofExcept_of_forall rfl fun _ accepted => edited accepted rfl
      | join glue | clear | setUnit unit => rfl
      | enumeration enumeration exported =>
          exact state_writeEnumeration_of_forall edited rfl enumeration exported

theorem name_afterCalls (block : NamespaceBlock) (calls : List BlockCall) :
    (block.afterCalls calls).name = block.name :=
  List.foldlRecOn calls (fun reached call => (reached.perform call).state)
    (motive := fun reached => reached.name = block.name) rfl
    fun reached same call _ => (name_perform reached call).trans same

/-! ## Once a block is closed -/

structure HasEnded (block : NamespaceBlock) (name indentation : String) (lines : List String) :
    Prop where
  closed : block.closed = true
  name : block.name = name
  indentation : block.buffer.indentation = indentation
  lines : block.buffer.lines = lines

namespace HasEnded

theorem of_closed (isClosed : block.closed = true) :
    block.HasEnded block.name block.buffer.indentation block.buffer.lines :=
  ⟨isClosed, rfl, rfl, rfl⟩

/-- Of all operations, one changes the lines of a closed block, and none anything else
but the unit. -/
theorem perform (ended : block.HasEnded name indentation lines) (call : BlockCall) :
    (block.perform call).state.HasEnded name indentation
      (if call = .content .clear then [] else lines) := by
  by_cases isContent : call.IsContent
  · have differs : call ≠ .content .clear := by
      rintro rfl
      exact isContent
    rw [perform_of_closed ended.closed isContent, if_neg differs]
    exact ended
  · rcases BlockCall.eq_of_not_isContent isContent with ⟨glue, rfl⟩ | rfl | ⟨unit, rfl⟩
    · exact ended
    · exact { ended with lines := rfl }
    · exact { ended with }

theorem afterCalls (ended : block.HasEnded name indentation lines) (calls : List BlockCall) :
    (block.afterCalls calls).HasEnded name indentation
      (if .content .clear ∈ calls then [] else lines) := by
  induction calls generalizing block lines with
  | nil => exact ended
  | cons call rest induction =>
      have later := induction (ended.perform call)
      rw [afterCalls_cons]
      by_cases dropped : call = .content .clear
      · subst dropped
        simpa using later
      · simpa [dropped, Ne.symm dropped] using later

end HasEnded

/-! ## Until a block is closed -/

def IsHeaded (name : String) (block : NamespaceBlock) : Prop :=
  block.closed = false → ∃ inner, block.buffer.lines = heading name :: inner

namespace IsHeaded

theorem opened (name unit : String) : (NamespaceBlock.opened name unit).IsHeaded name :=
  fun _ => ⟨[], rfl⟩

theorem of_closed (isClosed : block.closed = true) : block.IsHeaded name := by
  intro isOpen
  rw [isClosed] at isOpen
  cases isOpen

theorem perform_content (headed : block.IsHeaded name) (isOpen : block.closed = false)
    {call : BufferCall} (kept : call ≠ .clear) :
    (block.perform (.content call)).state.IsHeaded name := by
  have grown : block.buffer.GrowsTo (block.buffer.perform call).state := by
    cases call with
    | clear => exact absurd rfl kept
    | setUnit unit => exact .refl block.buffer
    | edit edit | join glue | enumeration enumeration exported => exact .perform _ trivial
  rcases headed isOpen with ⟨inner, lines⟩
  rcases grown with ⟨further, continued⟩
  rw [perform_content_of_open isOpen, Attempt.embed]
  intro _
  exact ⟨inner ++ further, by rw [← continued, lines, List.cons_append]⟩

theorem perform (headed : block.IsHeaded name) {call : BlockCall}
    (kept : call ≠ .content .clear) : (block.perform call).state.IsHeaded name := by
  cases state : block.closed with
  | true => exact of_closed ((HasEnded.of_closed state).perform call).closed
  | false =>
      cases call with
      | close =>
          exact Attempt.state_ofExcept_of_forall headed fun after accepted =>
            of_closed (result_of_close accepted).1
      | content call =>
          exact headed.perform_content state fun dropped => kept (dropped ▸ rfl)

theorem afterCalls (headed : block.IsHeaded name) {calls : List BlockCall}
    (kept : .content .clear ∉ calls) : (block.afterCalls calls).IsHeaded name :=
  List.foldlRecOn calls (fun reached call => (reached.perform call).state) headed
    fun _ held _ member => held.perform fun dropped => kept (dropped ▸ member)

end IsHeaded

end NamespaceBlock

end TypedModules
