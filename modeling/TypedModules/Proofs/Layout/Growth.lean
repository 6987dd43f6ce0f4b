import TypedModules.Proofs.Layout.Step
import TypedModules.Proofs.Text.Joining

/-! # Buffers that only grow

All operations keep the lines that are there, except the one that drops them. As
long as the unit of indentation is left alone too, a closed block does not change
at all.
-/

namespace TypedModules

def BufferCall.IsAdditive : BufferCall → Prop
  | clear => False
  | setUnit _ => False
  | _ => True

def BlockCall.IsAdditive : BlockCall → Prop
  | content call => call.IsAdditive
  | close => True

namespace LineBuffer

def GrowsTo (before after : LineBuffer) : Prop :=
  before.lines <+: after.lines

namespace GrowsTo

variable {before middle after : LineBuffer}

theorem refl (buffer : LineBuffer) : buffer.GrowsTo buffer :=
  List.prefix_refl _

theorem trans (first : before.GrowsTo middle) (second : middle.GrowsTo after) :
    before.GrowsTo after :=
  List.IsPrefix.trans first second

theorem add (buffer : LineBuffer) (line : String) : buffer.GrowsTo (buffer.add line) :=
  List.prefix_append _ _

theorem of_outdent (accepted : before.outdent = .ok after) : before.GrowsTo after := by
  have unchanged := lines_of_outdent accepted
  simp [GrowsTo, unchanged]

theorem of_edit {edit : Edit} (accepted : before.edit edit = .ok after) :
    before.GrowsTo after := by
  cases edit with
  | add line =>
      cases accepted
      exact .add before line
  | indent =>
      cases accepted
      exact .refl before
  | outdent => exact .of_outdent accepted

theorem perform (buffer : LineBuffer) {call : BufferCall} (additive : call.IsAdditive) :
    buffer.GrowsTo (buffer.perform call).state := by
  cases call with
  | edit edit => exact Attempt.state_ofExcept_of_forall (refl buffer) fun _ => of_edit
  | join glue => exact .refl buffer
  | clear => cases additive
  | setUnit unit => cases additive
  | enumeration enumeration exported =>
      exact state_writeEnumeration_of_forall (fun accepted grown => trans grown (of_edit accepted))
        (refl buffer) enumeration exported

theorem text_isPrefix (grown : before.GrowsTo after) :
    before.text.toList <+: after.text.toList :=
  Text.intercalate_isPrefix "\n" grown

end GrowsTo

end LineBuffer

namespace NamespaceBlock

structure GrowsTo (before after : NamespaceBlock) : Prop where
  lines : before.buffer.GrowsTo after.buffer
  frozen : before.closed = true → after = before

namespace GrowsTo

variable {before middle after : NamespaceBlock}

theorem refl (block : NamespaceBlock) : block.GrowsTo block :=
  ⟨.refl _, fun _ => rfl⟩

theorem trans (first : before.GrowsTo middle) (second : middle.GrowsTo after) :
    before.GrowsTo after where
  lines := first.lines.trans second.lines
  frozen isClosed := by
    have same := first.frozen isClosed
    rw [second.frozen (same ▸ isClosed), same]

theorem of_edit {edit : Edit} (accepted : before.edit edit = .ok after) :
    before.GrowsTo after := by
  rcases edit_eq_ok_iff.mp accepted with ⟨isOpen, buffer, edited, rfl⟩
  exact ⟨.of_edit edited, fun isClosed => by simp [isOpen] at isClosed⟩

theorem of_close (accepted : before.close = .ok after) : before.GrowsTo after := by
  rcases close_eq_ok_iff.mp accepted with ⟨isOpen, -, buffer, outdented, rfl⟩
  have lines : before.buffer.GrowsTo (buffer.add "\x7d") :=
    (LineBuffer.GrowsTo.of_outdent outdented).trans (.add buffer _)
  exact ⟨lines, fun isClosed => by simp [isOpen] at isClosed⟩

theorem perform (block : NamespaceBlock) {call : BlockCall} (additive : call.IsAdditive) :
    block.GrowsTo (block.perform call).state := by
  cases call with
  | close => exact Attempt.state_ofExcept_of_forall (refl block) fun _ => of_close
  | content call =>
      cases call with
      | edit edit => exact Attempt.state_ofExcept_of_forall (refl block) fun _ => of_edit
      | join glue => exact .refl block
      | clear => cases additive
      | setUnit unit => cases additive
      | enumeration enumeration exported =>
          exact state_writeEnumeration_of_forall
            (fun accepted grown => grown.trans (of_edit accepted)) (refl block) enumeration exported

end GrowsTo

end NamespaceBlock

end TypedModules
