import Mathlib.Data.List.Induction
import TypedModules.Proofs.Layout.Refusal
import TypedModules.Proofs.Layout.Unit

/-! # What calls make of a buffer

With the default unit every line is written behind a margin of blanks. A buffer is
what calls have made of an empty one, and a block is what calls have made of its
heading, up to the closing brace.
-/

namespace TypedModules

namespace Enumeration

def textsOf (members : List (String × Scalar)) : List String :=
  members.flatMap fun member => [member.1, member.2.fullLiteral]

def texts (enumeration : Enumeration) : List String :=
  enumeration.name :: textsOf enumeration.members

theorem forall_mem_textsOf_iff {Holds : String → Prop} {members : List (String × Scalar)} :
    (∀ text ∈ textsOf members, Holds text) ↔
      ∀ member ∈ members, Holds member.1 ∧ Holds member.2.fullLiteral := by
  simp only [textsOf, List.forall_mem_flatMap, List.forall_mem_cons, List.not_mem_nil,
    false_implies, implies_true, and_true]

end Enumeration

namespace BufferCall

variable {call : BufferCall}

theorem IsAdditive.keepsUnit (additive : call.IsAdditive) : call.KeepsUnit := by
  cases call with
  | setUnit unit => cases additive
  | edit edit | join glue | clear | enumeration enumeration exported => trivial

def line? : BufferCall → Option String
  | edit (.add line) => some line
  | _ => none

def texts : BufferCall → List String
  | enumeration declared _ => declared.texts
  | _ => []

def IsRenderable : BufferCall → Prop
  | enumeration declared _ => declared.IsRenderable
  | _ => True

def written (lines : List String) : BufferCall → List String
  | edit (.add line) => [line]
  | enumeration declared exported =>
      (if lines = [] then [] else [""]) ++ declared.printedLines exported defaultUnit
  | _ => []

end BufferCall

namespace BlockCall

theorem IsAdditive.keepsUnit {call : BlockCall} (additive : call.IsAdditive) :
    call.KeepsUnit := by
  cases call with
  | close => trivial
  | content call => exact BufferCall.IsAdditive.keepsUnit additive

def texts : BlockCall → List String
  | content call => call.texts
  | close => []

def IsRenderable : BlockCall → Prop
  | content call => call.IsRenderable
  | close => True

def onBody : BlockCall → List BufferCall
  | content call => [call]
  | close => []

end BlockCall

def IsMargin (text : String) : Prop :=
  ∀ character ∈ text.toList, character = ' '

theorem isMargin_empty : IsMargin "" := by
  simp [IsMargin]

theorem IsMargin.append_unit {margin : String} (isMargin : IsMargin margin) :
    IsMargin (margin ++ defaultUnit) := by
  intro character member
  rw [String.toList_append, List.mem_append] at member
  rcases member with inMargin | inUnit
  · exact isMargin character inMargin
  · simpa [defaultUnit] using inUnit

namespace LineBuffer

structure IsRegular (buffer : LineBuffer) : Prop where
  unit : buffer.unit = defaultUnit
  margin : IsMargin buffer.indentation

namespace IsRegular

variable {buffer after : LineBuffer}

theorem empty : ({} : LineBuffer).IsRegular :=
  ⟨rfl, isMargin_empty⟩

theorem visible (regular : buffer.IsRegular) : buffer.unit ≠ "" := by
  rw [regular.unit]
  decide

theorem of_outdent (regular : buffer.IsRegular) (accepted : buffer.outdent = .ok after) :
    after.IsRegular := by
  refine ⟨(unit_of_outdent accepted).trans regular.unit, ?_⟩
  unfold outdent at accepted
  split at accepted <;> cases accepted
  intro character member
  rw [shortened, if_neg regular.visible, String.toList_ofList] at member
  exact regular.margin character (List.mem_of_mem_take member)

theorem of_edit {edit : Edit} (regular : buffer.IsRegular)
    (accepted : buffer.edit edit = .ok after) : after.IsRegular := by
  cases edit with
  | add line =>
      cases accepted
      exact ⟨regular.unit, regular.margin⟩
  | indent =>
      cases accepted
      refine ⟨regular.unit, ?_⟩
      rw [indentation_indent, regular.unit]
      exact regular.margin.append_unit
  | outdent => exact regular.of_outdent accepted

theorem perform (regular : buffer.IsRegular) {call : BufferCall} (additive : call.IsAdditive) :
    (buffer.perform call).state.IsRegular := by
  cases call with
  | edit edit => exact Attempt.state_ofExcept_of_forall regular fun _ => regular.of_edit
  | join glue => exact regular
  | clear | setUnit unit => cases additive
  | enumeration enumeration exported =>
      exact state_writeEnumeration_of_forall (fun accepted held => held.of_edit accepted) regular
        enumeration exported

end IsRegular

variable {buffer : LineBuffer}

theorem lines_perform (regular : buffer.IsRegular) {call : BufferCall}
    (additive : call.IsAdditive) :
    (buffer.perform call).state.lines =
      buffer.lines ++ (call.written buffer.lines).map (buffer.indentation ++ ·) := by
  cases call with
  | edit edit =>
      cases edit with
      | add line => rfl
      | indent => exact (List.append_nil _).symm
      | outdent =>
          let Same (after : LineBuffer) : Prop := after.lines = buffer.lines ++ []
          have unchanged : Same buffer := (List.append_nil _).symm
          change Same (buffer.perform (.edit .outdent)).state
          exact Attempt.state_ofExcept_of_forall unchanged
            fun _ accepted => (lines_of_outdent accepted).trans unchanged
  | join glue => exact (List.append_nil _).symm
  | clear | setUnit unit => cases additive
  | enumeration declared exported =>
      have printed := lines_writeEnumeration buffer regular.visible declared exported
      rwa [regular.unit] at printed

def afterCalls (buffer : LineBuffer) (calls : List BufferCall) : LineBuffer :=
  calls.foldl (fun reached call => (reached.perform call).state) buffer

theorem afterCalls_append (buffer : LineBuffer) (first second : List BufferCall) :
    buffer.afterCalls (first ++ second) = (buffer.afterCalls first).afterCalls second :=
  List.foldl_append

theorem afterCalls_enumerations (exported : Bool) (enumerations : List Enumeration) :
    ({} : LineBuffer).afterCalls (enumerations.map (.enumeration · exported)) =
      printed exported enumerations :=
  List.foldl_map

theorem IsRegular.afterCalls {calls : List BufferCall} (regular : buffer.IsRegular)
    (additive : ∀ call ∈ calls, call.IsAdditive) : (buffer.afterCalls calls).IsRegular := by
  induction calls generalizing buffer with
  | nil => exact regular
  | cons call rest induction =>
      rw [List.forall_mem_cons] at additive
      exact induction (regular.perform additive.1) additive.2

/-- What every written passage keeps up, whatever its margin is, holds of all lines that
calls leave behind. -/
theorem lines_afterCalls_induction {Allowed : BufferCall → Prop}
    {Holds : List String → List BufferCall → Prop} (regular : buffer.IsRegular)
    (start : Holds buffer.lines [])
    (step : ∀ lines past call margin, Allowed call → IsMargin margin → Holds lines past →
      Holds (lines ++ (call.written lines).map (margin ++ ·)) (past ++ [call]))
    {calls : List BufferCall} (additive : ∀ call ∈ calls, call.IsAdditive)
    (allowed : ∀ call ∈ calls, Allowed call) : Holds (buffer.afterCalls calls).lines calls := by
  induction calls using List.reverseRecOn with
  | nil => exact start
  | append_singleton front call induction =>
      rw [List.forall_mem_append, List.forall_mem_singleton] at additive allowed
      have reached := regular.afterCalls additive.1
      have performed : buffer.afterCalls (front ++ [call]) =
          ((buffer.afterCalls front).perform call).state := afterCalls_append buffer front [call]
      rw [performed, lines_perform reached additive.2]
      exact step _ front call _ allowed.2 reached.margin (induction additive.1 allowed.1)

theorem indentation_of_outdent {after : LineBuffer} (level : buffer.indentation = buffer.unit)
    (accepted : buffer.outdent = .ok after) : after.indentation = "" := by
  unfold outdent at accepted
  split at accepted <;> cases accepted
  rename_i indented
  have visible : buffer.unit ≠ "" := level ▸ indented
  simpa [level] using shortened_append "" visible

end LineBuffer

namespace NamespaceBlock

variable {name : String} {block after : NamespaceBlock} {past : List BufferCall}

def body (name : String) (calls : List BufferCall) : LineBuffer :=
  (opened name defaultUnit).buffer.afterCalls calls

theorem body_concat (name : String) (calls : List BufferCall) (call : BufferCall) :
    body name (calls ++ [call]) = ((body name calls).perform call).state :=
  LineBuffer.afterCalls_append _ calls [call]

theorem isRegular_opened (name : String) : (opened name defaultUnit).buffer.IsRegular :=
  ⟨rfl, isMargin_empty.append_unit⟩

/-- An open block is its body, and a closed one has a brace behind it. -/
structure HasBody (block : NamespaceBlock) (name : String) (calls : List BufferCall) : Prop where
  ofOpen : block.closed = false → block.buffer = body name calls
  ofClosed : block.closed = true → block.buffer.lines = (body name calls).lines ++ ["\x7d"]

namespace HasBody

theorem opened (name : String) : (opened name defaultUnit).HasBody name [] where
  ofOpen _ := rfl
  ofClosed isClosed := by cases isClosed

theorem of_close (held : block.HasBody name past) (accepted : block.close = .ok after) :
    after.HasBody name past := by
  rcases close_eq_ok_iff.mp accepted with ⟨isOpen, level, buffer, outdented, rfl⟩
  constructor
  · intro reopened
    cases reopened
  · intro _
    rw [LineBuffer.lines_add, LineBuffer.lines_of_outdent outdented,
      LineBuffer.indentation_of_outdent level outdented, held.ofOpen isOpen]
    rfl

/-- A call on the body that is not refused goes to what the body is so far: a closed
block lets only a look at its lines pass. -/
theorem perform (held : block.HasBody name past) {call : BlockCall} (additive : call.IsAdditive)
    (takesEffect : (block.perform call).TakesEffect) :
    (block.perform call).state.HasBody name (past ++ call.onBody) := by
  cases state : block.closed with
  | true =>
      rcases eq_join_of_closed state additive takesEffect with ⟨glue, rfl⟩
      have looked : body name (past ++ [.join glue]) = body name past :=
        body_concat name past (.join glue)
      rw [BlockCall.onBody]
      constructor
      · intro isOpen
        rw [looked]
        exact held.ofOpen isOpen
      · intro isClosed
        rw [looked]
        exact held.ofClosed isClosed
  | false =>
      cases call with
      | close =>
          cases outcome : block.close with
          | error fault =>
              have refused : (block.perform .close).answer = .error fault := by
                rw [NamespaceBlock.perform, outcome]
                rfl
              have isRefusal := isRefusal_of_close outcome
              rw [takesEffect fault refused] at isRefusal
              cases isRefusal
          | ok after =>
              rw [NamespaceBlock.perform, outcome, BlockCall.onBody, List.append_nil]
              exact held.of_close outcome
      | content call =>
          rw [perform_content_of_open state, Attempt.embed, BlockCall.onBody]
          constructor
          · intro _
            rw [body_concat, held.ofOpen state]
          · intro isClosed
            simp [state] at isClosed

end HasBody

end NamespaceBlock

end TypedModules
