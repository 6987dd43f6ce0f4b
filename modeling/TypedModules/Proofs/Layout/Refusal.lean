import TypedModules.Proofs.Layout.Growth

/-! # Refused operations on buffers and blocks

As long as levels of indentation can be told apart, an operation that is refused
leaves a buffer or a block as it was, and enumerations are refused by closed
blocks only. An enumeration with a value that has no literal is not refused, but
breaks off.
-/

namespace TypedModules

/-- Whether an operation with this fault has not even begun. -/
def LayoutFault.isRefusal : LayoutFault → Bool
  | notIndented | closed _ | unbalanced _ => true
  | literal _ => false

/-- An attempt that succeeds, or that breaks off at a value without a literal. -/
def Attempt.TakesEffect {State Answer : Type} (attempt : Attempt LayoutFault State Answer) :
    Prop :=
  ∀ fault, attempt.answer = .error fault → fault.isRefusal = false

theorem Attempt.TakesEffect.of_ok {State Answer : Type}
    {attempt : Attempt LayoutFault State Answer} {answer : Answer}
    (accepted : attempt.answer = .ok answer) : attempt.TakesEffect := by
  intro fault refused
  rw [accepted] at refused
  cases refused

namespace LineBuffer

theorem not_refused_writeEnumeration {buffer : LineBuffer} {fault : LayoutFault}
    (visible : buffer.unit ≠ "") (isRefusal : fault.isRefusal = true) (enumeration : Enumeration)
    (exported : Bool) :
    (buffer.writeEnumeration enumeration exported).answer ≠ .error fault := by
  intro unprinted
  by_cases renderable : enumeration.IsRenderable
  · rw [writeEnumeration_eq buffer visible renderable] at unprinted
    cases unprinted
  · rw [writeEnumeration_of_not_isRenderable buffer renderable] at unprinted
    cases unprinted
    cases isRefusal

theorem state_perform_of_refused {buffer : LineBuffer} {call : BufferCall} {fault : LayoutFault}
    (visible : buffer.unit ≠ "") (isRefusal : fault.isRefusal = true)
    (refused : (buffer.perform call).answer = .error fault) :
    (buffer.perform call).state = buffer := by
  cases call with
  | edit edit =>
      exact Attempt.state_ofExcept_of_error buffer (Attempt.answer_map_eq_error_iff.mp refused)
  | join glue | clear | setUnit unit => cases refused
  | enumeration enumeration exported =>
      exact absurd (Attempt.answer_map_eq_error_iff.mp refused)
        (not_refused_writeEnumeration visible isRefusal enumeration exported)

end LineBuffer

namespace NamespaceBlock

variable {block : NamespaceBlock} {call : BlockCall}

theorem state_perform_of_refused {fault : LayoutFault} (visible : block.buffer.unit ≠ "")
    (isRefusal : fault.isRefusal = true) (refused : (block.perform call).answer = .error fault) :
    (block.perform call).state = block := by
  cases call with
  | close =>
      exact Attempt.state_ofExcept_of_error block (Attempt.answer_map_eq_error_iff.mp refused)
  | content call =>
      cases call with
      | edit edit =>
          exact Attempt.state_ofExcept_of_error block (Attempt.answer_map_eq_error_iff.mp refused)
      | join glue | clear | setUnit unit => cases refused
      | enumeration enumeration exported =>
          cases state : block.closed with
          | true =>
              exact congrArg Attempt.state (writeEnumeration_of_closed state enumeration exported)
          | false =>
              have unprinted := Attempt.answer_map_eq_error_iff.mp refused
              rw [writeEnumeration_of_open state] at unprinted
              exact absurd unprinted
                (LineBuffer.not_refused_writeEnumeration visible isRefusal enumeration exported)

theorem eq_join_of_closed (isClosed : block.closed = true) (additive : call.IsAdditive)
    (takesEffect : (block.perform call).TakesEffect) : ∃ glue, call = .content (.join glue) := by
  by_cases isContent : call.IsContent
  · rw [perform_of_closed isClosed isContent] at takesEffect
    cases takesEffect _ rfl
  · rcases BlockCall.eq_of_not_isContent isContent with ⟨glue, rfl⟩ | rfl | ⟨unit, rfl⟩
    · exact ⟨glue, rfl⟩
    · cases additive
    · cases additive

theorem isRefusal_of_close {fault : LayoutFault} (refused : block.close = .error fault) :
    fault.isRefusal = true := by
  rw [close] at refused
  split at refused
  · cases refused
    rfl
  split at refused
  · cases refused
    rfl
  · cases outdented : block.buffer.outdent with
    | error reason =>
        rw [outdented] at refused
        cases refused
        rw [((LineBuffer.outdent_eq_error_iff _ _).mp outdented).2]
        rfl
    | ok buffer =>
        rw [outdented] at refused
        cases refused

end NamespaceBlock

end TypedModules
