import TypedModules.Proofs.Layout.Step
import TypedModules.Proofs.Registry.Comparison
import TypedModules.SourceModule.TypeDefinitions

/-! # Closing blocks in order

Blocks are closed one after the other, and the first one that is out of balance
ends it. Blocks that are closed already are passed over.
-/

namespace TypedModules

namespace NamespaceBlock

def ended (block : NamespaceBlock) : NamespaceBlock :=
  { block with
    buffer := { block.buffer with lines := block.buffer.lines ++ ["\x7d"], indentation := "" }
    closed := true }

def finished (block : NamespaceBlock) : NamespaceBlock :=
  if block.closed then block else block.ended

def IsUnbalanced (block : NamespaceBlock) : Prop :=
  block.closed = false ∧ block.buffer.indentation ≠ block.buffer.unit

theorem close_of_balanced {block : NamespaceBlock} (visible : block.buffer.unit ≠ "")
    (isOpen : block.closed = false) (balanced : block.buffer.indentation = block.buffer.unit) :
    block.close = .ok block.ended := by
  have nested : block.buffer.indentation = "" ++ block.buffer.unit := by simpa using balanced
  rw [close, isOpen, balanced, LineBuffer.outdent_of_append visible nested]
  simp [Except.map, ended, LineBuffer.add]

end NamespaceBlock

namespace SourceModule

variable {block after : NamespaceBlock} {fault : LayoutFault}
variable {entries closed : List (String × NamespaceBlock)}

/-! ## One block -/

theorem closeIfOpen_of_closed (isClosed : block.closed = true) : closeIfOpen block = .ok block := by
  simp [closeIfOpen, isClosed]

theorem closeIfOpen_of_open (isOpen : block.closed = false) :
    closeIfOpen block = block.close := by
  simp [closeIfOpen, isOpen]

theorem closeIfOpen_of_balanced (visible : block.buffer.unit ≠ "")
    (balanced : ¬block.IsUnbalanced) : closeIfOpen block = .ok block.finished := by
  cases state : block.closed with
  | true => rw [closeIfOpen_of_closed state, NamespaceBlock.finished, if_pos state]
  | false =>
      have indented : block.buffer.indentation = block.buffer.unit := by
        simpa [NamespaceBlock.IsUnbalanced, state] using balanced
      rw [closeIfOpen_of_open state, NamespaceBlock.close_of_balanced visible state indented,
        NamespaceBlock.finished, if_neg (by simp [state])]

theorem closeIfOpen_of_unbalanced (unbalanced : block.IsUnbalanced) :
    closeIfOpen block = .error (.unbalanced block.name) := by
  rw [closeIfOpen_of_open unbalanced.1, NamespaceBlock.close, unbalanced.1]
  simp [unbalanced.2]

theorem closeIfOpen_cases (accepted : closeIfOpen block = .ok after) :
    (block.closed = true ∧ after = block) ∨ block.close = .ok after := by
  cases state : block.closed with
  | true =>
      rw [closeIfOpen_of_closed state] at accepted
      cases accepted
      exact .inl ⟨rfl, rfl⟩
  | false =>
      rw [closeIfOpen_of_open state] at accepted
      exact .inr accepted

def IsLaterThan (after block : NamespaceBlock) : Prop :=
  after = block ∨ closeIfOpen block = .ok after

theorem closed_of_closeIfOpen (accepted : closeIfOpen block = .ok after) :
    after.closed = true := by
  rcases closeIfOpen_cases accepted with ⟨isClosed, rfl⟩ | closes
  · exact isClosed
  · rcases NamespaceBlock.close_eq_ok_iff.mp closes with ⟨-, -, buffer, -, rfl⟩
    rfl

/-! ## All blocks -/

def Closes (entry done : String × NamespaceBlock) : Prop :=
  entry.1 = done.1 ∧ closeIfOpen entry.2 = .ok done.2

theorem closeInOrder_of_forall₂ (closes : List.Forall₂ Closes entries closed) :
    closeInOrder entries = ⟨closed, .ok ()⟩ := by
  induction closes with
  | nil => rfl
  | @cons entry done _ _ closesFirst _ induction =>
      rcases entry with ⟨name, block⟩
      rcases done with ⟨sameName, after⟩
      rcases closesFirst with ⟨rfl, accepted⟩
      simp only at accepted
      rw [closeInOrder, accepted]
      simp [induction, Attempt.embed]

theorem forall_closed_of_forall₂ (closes : List.Forall₂ Closes entries closed) :
    ∀ done ∈ closed, done.2.closed = true := by
  induction closes with
  | nil => simp
  | cons closesFirst _ induction =>
      rw [List.forall_mem_cons]
      exact ⟨closed_of_closeIfOpen closesFirst.2, induction⟩

theorem closeInOrder_cases (entries : List (String × NamespaceBlock)) :
    (∃ closed, closeInOrder entries = ⟨closed, .ok ()⟩ ∧ List.Forall₂ Closes entries closed) ∨
      ∃ before name block rest fault closed,
        entries = before ++ (name, block) :: rest ∧ closeIfOpen block = .error fault ∧
          List.Forall₂ Closes before closed ∧
          closeInOrder entries = ⟨closed ++ (name, block) :: rest, .error fault⟩ := by
  induction entries with
  | nil => exact .inl ⟨[], rfl, .nil⟩
  | cons entry rest induction =>
      rcases entry with ⟨name, block⟩
      cases outcome : closeIfOpen block with
      | error fault =>
          refine .inr ⟨[], name, block, rest, fault, [], rfl, outcome, .nil, ?_⟩
          rw [closeInOrder, outcome]
          rfl
      | ok after =>
          have closesFirst : Closes (name, block) (name, after) := ⟨rfl, outcome⟩
          rw [closeInOrder, outcome]
          rcases induction with ⟨closed, all, closes⟩ |
            ⟨before, refusedName, refused, others, fault, closed, rfl, isRefused, closes, some⟩
          · refine .inl ⟨(name, after) :: closed, ?_, .cons closesFirst closes⟩
            simp [all, Attempt.embed]
          · refine .inr ⟨(name, block) :: before, refusedName, refused, others, fault,
              (name, after) :: closed, rfl, isRefused, .cons closesFirst closes, ?_⟩
            simp [some, Attempt.embed]

theorem entries_typeDefinitions (module : SourceModule) :
    module.typeDefinitions.state.blocks.entries = (closeInOrder module.blocks.entries).state := rfl

theorem answer_typeDefinitions (module : SourceModule) :
    module.typeDefinitions.answer =
      (closeInOrder module.blocks.entries).answer.map fun _ =>
        module.typeDefinitions.state.layOut := rfl

theorem typeDefinitions_of_forall₂ {module : SourceModule}
    (closes : List.Forall₂ Closes module.blocks.entries closed) :
    module.typeDefinitions.state.blocks.entries = closed ∧
      module.typeDefinitions.answer = .ok module.typeDefinitions.state.layOut := by
  rw [entries_typeDefinitions, answer_typeDefinitions, closeInOrder_of_forall₂ closes]
  exact ⟨rfl, rfl⟩

/-- The type definitions are answered when all blocks can be closed. Otherwise the
first block that can not be closed is reported, and only those before it are
closed. -/
theorem typeDefinitions_cases (module : SourceModule) :
    (List.Forall₂ Closes module.blocks.entries module.typeDefinitions.state.blocks.entries ∧
        module.typeDefinitions.answer = .ok module.typeDefinitions.state.layOut) ∨
      ∃ before name block rest fault closed,
        module.blocks.entries = before ++ (name, block) :: rest ∧
          closeIfOpen block = .error fault ∧ List.Forall₂ Closes before closed ∧
          module.typeDefinitions.state.blocks.entries = closed ++ (name, block) :: rest ∧
          module.typeDefinitions.answer = .error fault := by
  rw [entries_typeDefinitions, answer_typeDefinitions]
  rcases closeInOrder_cases module.blocks.entries with ⟨closed, all, closes⟩ |
    ⟨before, name, block, rest, fault, closed, split, refused, closes, some⟩
  · rw [all]
    exact .inl ⟨closes, rfl⟩
  · rw [some]
    exact .inr ⟨before, name, block, rest, fault, closed, split, refused, closes, rfl, rfl⟩

theorem closes_typeDefinitions (module : SourceModule) :
    List.Forall₂ (fun entry done => entry.1 = done.1 ∧ IsLaterThan done.2 entry.2)
      module.blocks.entries module.typeDefinitions.state.blocks.entries := by
  have weaken : ∀ {entries closed : List (String × NamespaceBlock)},
      List.Forall₂ Closes entries closed →
        List.Forall₂ (fun entry done => entry.1 = done.1 ∧ IsLaterThan done.2 entry.2) entries
          closed :=
    fun closes => closes.imp fun _ _ closes => ⟨closes.1, .inr closes.2⟩
  rcases typeDefinitions_cases module with ⟨closes, -⟩ |
    ⟨front, name, block, rest, fault, closed, split, -, closes, some, -⟩
  · exact weaken closes
  · rw [some, split]
    exact List.rel_append (weaken closes) (List.forall₂_same.mpr fun _ _ => ⟨rfl, .inl rfl⟩)

end SourceModule

end TypedModules
