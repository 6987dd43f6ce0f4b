import TypedModules.Proofs.Layout.Step

/-! # The unit of indentation

Only one operation changes the unit of a buffer or a block. All others keep it,
also when they are refused.
-/

namespace TypedModules

def BufferCall.KeepsUnit : BufferCall → Prop
  | setUnit _ => False
  | _ => True

def BlockCall.KeepsUnit : BlockCall → Prop
  | content call => call.KeepsUnit
  | close => True

namespace LineBuffer

theorem unit_of_outdent {before after : LineBuffer} (accepted : before.outdent = .ok after) :
    after.unit = before.unit := by
  unfold outdent at accepted
  split at accepted <;> cases accepted
  rfl

theorem unit_of_edit {before after : LineBuffer} {edit : Edit}
    (accepted : before.edit edit = .ok after) : after.unit = before.unit := by
  cases edit with
  | add line | indent =>
      cases accepted
      rfl
  | outdent => exact unit_of_outdent accepted

theorem unit_perform (buffer : LineBuffer) {call : BufferCall} (keeps : call.KeepsUnit) :
    (buffer.perform call).state.unit = buffer.unit := by
  let Same (after : LineBuffer) : Prop := after.unit = buffer.unit
  have edited : ∀ {before edit after}, LineBuffer.edit before edit = .ok after →
      Same before → Same after :=
    fun accepted same => (unit_of_edit accepted).trans same
  change Same (buffer.perform call).state
  cases call with
  | edit edit => exact Attempt.state_ofExcept_of_forall rfl fun _ accepted => edited accepted rfl
  | join glue | clear => rfl
  | setUnit unit => cases keeps
  | enumeration enumeration exported =>
      exact state_writeEnumeration_of_forall edited rfl enumeration exported

end LineBuffer

namespace NamespaceBlock

structure IsRegular (name : String) (block : NamespaceBlock) : Prop where
  name : block.name = name
  unit : block.buffer.unit = defaultUnit

namespace IsRegular

variable {name : String} {before after block : NamespaceBlock}

theorem visible (regular : block.IsRegular name) : block.buffer.unit ≠ "" := by
  rw [regular.unit]
  decide

theorem opened (name : String) : (NamespaceBlock.opened name defaultUnit).IsRegular name :=
  ⟨rfl, rfl⟩

theorem of_edit {edit : Edit} (regular : before.IsRegular name)
    (accepted : before.edit edit = .ok after) : after.IsRegular name := by
  rcases edit_eq_ok_iff.mp accepted with ⟨-, buffer, edited, rfl⟩
  exact ⟨regular.name, (LineBuffer.unit_of_edit edited).trans regular.unit⟩

theorem of_close (regular : before.IsRegular name) (accepted : before.close = .ok after) :
    after.IsRegular name := by
  rcases close_eq_ok_iff.mp accepted with ⟨-, -, buffer, outdented, rfl⟩
  exact ⟨regular.name, (LineBuffer.unit_of_outdent outdented).trans regular.unit⟩

theorem perform (regular : block.IsRegular name) {call : BlockCall} (keeps : call.KeepsUnit) :
    (block.perform call).state.IsRegular name := by
  cases call with
  | close => exact Attempt.state_ofExcept_of_forall regular fun _ => regular.of_close
  | content call =>
      cases call with
      | edit edit => exact Attempt.state_ofExcept_of_forall regular fun _ => regular.of_edit
      | join glue => exact regular
      | clear => exact ⟨regular.name, regular.unit⟩
      | setUnit unit => cases keeps
      | enumeration enumeration exported =>
          exact state_writeEnumeration_of_forall (fun accepted held => held.of_edit accepted)
            regular enumeration exported

end IsRegular

end NamespaceBlock

end TypedModules
