import TypedModules.Proofs.Layout.Enumeration

/-! # What one operation does to a block

The body of an open block is edited like a buffer, and a closed block refuses to
be edited. What holds of blocks after any operations is derived from here.
-/

namespace TypedModules

namespace Attempt

variable {Fault State Step Answer Other : Type} {Holds : State → Prop}

theorem answer_map_eq_error_iff {attempt : Attempt Fault State Answer}
    {transform : Answer → Other} {fault : Fault} :
    (attempt.map transform).answer = .error fault ↔ attempt.answer = .error fault := by
  rcases attempt with ⟨state, answer⟩
  cases answer <;> simp [Attempt.map, Except.map]

theorem state_ofExcept_of_forall {before : State} {result : Except Fault State}
    (unchanged : Holds before) (changed : ∀ after, result = .ok after → Holds after) :
    Holds (ofExcept before result).state := by
  cases result with
  | ok after => exact changed after rfl
  | error fault => exact unchanged

theorem state_runAll_of_forall {step : State → Step → Except Fault State}
    (keeps : ∀ {state next after}, step state next = .ok after → Holds state → Holds after)
    (steps : List Step) : ∀ {state}, Holds state → Holds (runAll step state steps).state := by
  induction steps with
  | nil => exact id
  | cons next rest induction =>
      intro state holds
      cases outcome : step state next with
      | ok after =>
          rw [runAll_cons_of_ok rest outcome]
          exact induction (keeps outcome holds)
      | error fault =>
          rw [runAll_cons_of_error rest outcome]
          exact holds

end Attempt

namespace LineBuffer

theorem state_writeEnumeration_of_forall {Holds : LineBuffer → Prop}
    (keeps : ∀ {before edit after}, LineBuffer.edit before edit = .ok after → Holds before →
      Holds after)
    {buffer : LineBuffer} (holds : Holds buffer) (enumeration : Enumeration) (exported : Bool) :
    Holds (buffer.writeEnumeration enumeration exported).state := by
  refine Attempt.state_runAll_of_forall ?_ _ holds
  intro before next after accepted
  cases next with
  | error fault => cases accepted
  | ok edit => exact keeps accepted

end LineBuffer

def BlockCall.IsContent : BlockCall → Prop
  | content (.edit _) | content (.enumeration _ _) | close => True
  | content (.join _) | content .clear | content (.setUnit _) => False

theorem BlockCall.eq_of_not_isContent {call : BlockCall} (other : ¬call.IsContent) :
    (∃ glue, call = .content (.join glue)) ∨ call = .content .clear ∨
      ∃ unit, call = .content (.setUnit unit) := by
  cases call with
  | close => exact absurd trivial other
  | content call =>
      cases call with
      | edit edit | enumeration enumeration exported => exact absurd trivial other
      | join glue => exact .inl ⟨glue, rfl⟩
      | clear => exact .inr (.inl rfl)
      | setUnit unit => exact .inr (.inr ⟨unit, rfl⟩)

namespace NamespaceBlock

variable {block after : NamespaceBlock}

theorem edit_eq_ok_iff {edit : Edit} :
    block.edit edit = .ok after ↔
      block.closed = false ∧
        ∃ buffer, block.buffer.edit edit = .ok buffer ∧ after = { block with buffer } := by
  cases state : block.closed with
  | true => simp [NamespaceBlock.edit, state]
  | false =>
      cases outcome : block.buffer.edit edit <;>
        simp [NamespaceBlock.edit, state, outcome, Except.map, eq_comm]

theorem close_eq_ok_iff :
    block.close = .ok after ↔
      block.closed = false ∧ block.buffer.indentation = block.buffer.unit ∧
        ∃ buffer, block.buffer.outdent = .ok buffer ∧
          after = { block with buffer := buffer.add "\x7d", closed := true } := by
  cases state : block.closed with
  | true => simp [close, state]
  | false =>
      by_cases balanced : block.buffer.indentation = block.buffer.unit
      · cases outcome : block.buffer.outdent <;>
          simp [close, state, balanced, outcome, Except.map, eq_comm]
      · simp [close, state, balanced]

theorem runAll_editIfAny_of_open (isOpen : block.closed = false)
    (edits : List (Except LiteralFault Edit)) :
    Attempt.runAll editIfAny block edits =
      (Attempt.runAll LineBuffer.editIfAny block.buffer edits).embed fun buffer =>
        { block with buffer } := by
  induction edits generalizing block with
  | nil => rfl
  | cons next rest induction =>
      have step : block.editIfAny next =
          (block.buffer.editIfAny next).map fun buffer => { block with buffer } := by
        cases next with
        | error fault => rfl
        | ok edit => exact if_neg (by simp [isOpen])
      cases outcome : block.buffer.editIfAny next with
      | ok buffer =>
          rw [outcome] at step
          rw [Attempt.runAll_cons_of_ok rest outcome, Attempt.runAll_cons_of_ok rest step]
          exact induction isOpen
      | error fault =>
          rw [outcome] at step
          rw [Attempt.runAll_cons_of_error rest outcome, Attempt.runAll_cons_of_error rest step]
          rfl

theorem writeEnumeration_of_open (isOpen : block.closed = false) (enumeration : Enumeration)
    (exported : Bool) :
    block.writeEnumeration enumeration exported =
      (block.buffer.writeEnumeration enumeration exported).embed fun buffer =>
        { block with buffer } :=
  runAll_editIfAny_of_open isOpen _

theorem state_writeEnumeration_of_forall {Holds : NamespaceBlock → Prop}
    (keeps : ∀ {before edit after}, NamespaceBlock.edit before edit = .ok after → Holds before →
      Holds after)
    (holds : Holds block) (enumeration : Enumeration) (exported : Bool) :
    Holds (block.writeEnumeration enumeration exported).state := by
  refine Attempt.state_runAll_of_forall ?_ _ holds
  intro before next after accepted
  cases next with
  | error fault => cases accepted
  | ok edit => exact keeps accepted

theorem writeEnumeration_of_closed (isClosed : block.closed = true) (enumeration : Enumeration)
    (exported : Bool) :
    block.writeEnumeration enumeration exported = ⟨block, .error (.closed block.name)⟩ := by
  have opens : ∃ line rest, enumeration.edits exported (!block.buffer.lines.isEmpty) =
      .ok (.add line) :: rest := by
    cases block.buffer.lines <;> exact ⟨_, _, rfl⟩
  rcases opens with ⟨line, rest, edits⟩
  have refused : block.editIfAny (.ok (.add line)) = .error (.closed block.name) :=
    edit_of_closed isClosed (.add line)
  rw [writeEnumeration, edits, Attempt.runAll_cons_of_error rest refused]

theorem perform_content_of_open (isOpen : block.closed = false) (call : BufferCall) :
    block.perform (.content call) =
      (block.buffer.perform call).embed fun buffer => { block with buffer } := by
  cases call with
  | edit edit =>
      rw [perform, NamespaceBlock.edit, if_neg (by simp [isOpen]), LineBuffer.perform]
      cases block.buffer.edit edit <;> rfl
  | join glue | clear | setUnit unit => rfl
  | enumeration enumeration exported =>
      rw [perform, writeEnumeration_of_open isOpen]
      rfl

theorem perform_of_closed (isClosed : block.closed = true) {call : BlockCall}
    (isContent : call.IsContent) :
    block.perform call = ⟨block, .error (.closed block.name)⟩ := by
  cases call with
  | close =>
      rw [perform, close_of_closed isClosed]
      rfl
  | content call =>
      cases call with
      | edit edit =>
          rw [perform, edit_of_closed isClosed]
          rfl
      | enumeration enumeration exported =>
          rw [perform, writeEnumeration_of_closed isClosed]
          rfl
      | join glue | clear | setUnit unit => cases isContent

end NamespaceBlock

end TypedModules
