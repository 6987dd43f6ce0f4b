import TypedModules.Proofs.SourceModule.Ahead
import TypedModules.Proofs.SourceModule.Unit
import TypedModules.Proofs.Text.Repeats

/-! # Going on after refused type definitions

Type definitions that are refused have closed some blocks and left the others
open. Whatever is contributed from there on, later type definitions are the same
as if all blocks had been left open.
-/

namespace TypedModules

def ModuleCall.requested? : ModuleCall → Option String
  | contribute (.block name _) => some name
  | _ => none

namespace SourceModule

variable {workingDirectory : String} {module ahead behind : SourceModule}

/-! ## Blocks in the order of their requests -/

theorem keys_perform (workingDirectory : String) (module : SourceModule) (call : ModuleCall) :
    (module.perform workingDirectory call).state.blocks.keys =
      match call.requested? with
      | none => module.blocks.keys
      | some name =>
          if name ∈ module.blocks.keys then module.blocks.keys
          else module.blocks.keys ++ [name] := by
  by_cases concerned : call.category? = some .blocks
  · cases call with
    | contribute contribution =>
        cases contribution with
        | block name call =>
            simp only [perform, contribute_block]
            split
            · exact Registry.keys_put _ _ _
            · cases call with
              | none => exact Registry.keys_put _ _ _
              | some call =>
                  simp only [Registry.put_put]
                  exact Registry.keys_put _ _ _
        | heldBlock name call =>
            simp only [perform, contribute_heldBlock]
            cases found : module.blocks.find? name with
            | none => rfl
            | some block =>
                have known : name ∈ module.blocks.keys := by
                  by_contra unknown
                  rw [Registry.find?_eq_none_iff.mpr unknown] at found
                  cases found
                exact (Registry.keys_put _ _ _).trans (if_pos known)
        | write label call => cases label <;> cases concerned
        | _ => cases concerned
    | typeDefinitions => exact names_closeInOrder module.blocks.entries
    | runtimeStub | imports => cases concerned
  · have unchanged := (perform_agreesOn_of_ne workingDirectory module concerned).blocks rfl
    have unrequested : call.requested? = none := by
      cases call with
      | contribute contribution =>
          cases contribution with
          | block name call => exact absurd rfl concerned
          | _ => rfl
      | _ => rfl
    rw [unchanged, unrequested]

theorem keys_performAll (workingDirectory : String) (calls : List ModuleCall) :
    ∀ module : SourceModule, (module.performAll workingDirectory calls).1.blocks.keys =
      (module.blocks.keys ++ calls.filterMap (·.requested?)).eraseDups := by
  induction calls with
  | nil =>
      intro module
      rw [List.filterMap_nil, List.append_nil]
      exact (eraseDups_of_nodup module.blocks.distinct).symm
  | cons call rest induction =>
      intro module
      rw [SourceModule.performAll, induction, keys_perform]
      cases requested : call.requested? with
      | none => simp [requested]
      | some name =>
          by_cases known : name ∈ module.blocks.keys
          · simp [requested, known, List.eraseDups_append, List.removeAll]
          · simp [requested, known]

/-! ## The block that is refused -/

theorem eq_map_finished_of_closes {entries closed : List (String × NamespaceBlock)}
    (visible : ∀ entry ∈ entries, entry.2.buffer.unit ≠ "")
    (closes : List.Forall₂ Closes entries closed) :
    (∀ entry ∈ entries, ¬entry.2.IsUnbalanced) ∧
      closed = entries.map fun entry => (entry.1, entry.2.finished) := by
  induction closes with
  | nil => simp
  | @cons entry done _ _ closesFirst _ induction =>
      rw [List.forall_mem_cons] at visible
      rcases induction visible.2 with ⟨balanced, same⟩
      have first : ¬entry.2.IsUnbalanced := by
        intro unbalanced
        have refused := closeIfOpen_of_unbalanced unbalanced
        rw [closesFirst.2] at refused
        cases refused
      have finished : done = (entry.1, entry.2.finished) := by
        have accepted := closeIfOpen_of_balanced visible.1 first
        rw [closesFirst.2, Except.ok.injEq] at accepted
        exact Prod.ext closesFirst.1.symm accepted
      rw [List.forall_mem_cons, List.map_cons, finished, same]
      exact ⟨⟨first, balanced⟩, rfl⟩

/-- In a module with the default unit, the type definitions are refused because of
the first unbalanced block, and only the blocks before it are closed. -/
theorem typeDefinitions_cases_of_isRegular (regular : module.IsRegular) :
    ((∃ text, module.typeDefinitions.answer = .ok text) ∧
        ∀ entry ∈ module.blocks.entries, ¬entry.2.IsUnbalanced) ∨
      ∃ front name block rest,
        module.blocks.entries = front ++ (name, block) :: rest ∧ block.IsUnbalanced ∧
          (∀ entry ∈ front, ¬entry.2.IsUnbalanced) ∧
          module.typeDefinitions.answer = .error (.unbalanced name) ∧
          module.typeDefinitions.state.blocks.entries =
            front.map (fun entry => (entry.1, entry.2.finished)) ++ (name, block) :: rest := by
  have visible : ∀ entry ∈ module.blocks.entries, entry.2.buffer.unit ≠ "" :=
    fun entry member => (regular.blocks entry member).visible
  rcases typeDefinitions_cases module with ⟨closes, answer⟩ |
    ⟨front, name, block, rest, fault, closed, split, refused, closes, some, answer⟩
  · exact .inl ⟨⟨_, answer⟩, (eq_map_finished_of_closes visible closes).1⟩
  · have inEntries : (name, block) ∈ module.blocks.entries := by simp [split]
    have unbalanced : block.IsUnbalanced := by
      by_contra balanced
      rw [closeIfOpen_of_balanced (visible _ inEntries) balanced] at refused
      cases refused
    rw [closeIfOpen_of_unbalanced unbalanced, (regular.blocks _ inEntries).name] at refused
    cases refused
    have visibleFront : ∀ entry ∈ front, entry.2.buffer.unit ≠ "" := by
      intro entry member
      exact visible entry (split ▸ List.mem_append_left _ member)
    rcases eq_map_finished_of_closes visibleFront closes with ⟨balanced, rfl⟩
    exact .inr ⟨front, name, block, rest, split, unbalanced, balanced, answer, some⟩

/-- Type definitions are refused exactly when a block is out of balance. They close
the blocks that were asked for before the first such block and change nothing
else, and contributions that go on from there end in the same text as without
them. -/
theorem typeDefinitions_resumed (workingDirectory : String) (home : Namespace)
    (calls : List ModuleCall) (keeps : ∀ call ∈ calls, call.KeepsUnits) :
    let module := (({ home } : SourceModule).performAll workingDirectory calls).1
    let refusal := module.typeDefinitions
    module.blocks.keys = (calls.filterMap (·.requested?)).eraseDups ∧
      ((∃ fault, refusal.answer = .error fault) ↔
        ∃ entry ∈ module.blocks.entries, entry.2.IsUnbalanced) ∧
      ∀ fault, refusal.answer = .error fault →
        (∃ front name block rest,
          module.blocks.entries = front ++ (name, block) :: rest ∧
            (∀ entry ∈ front, ¬entry.2.IsUnbalanced) ∧ block.IsUnbalanced ∧
            fault = .unbalanced name ∧
            refusal.state.blocks.entries =
              front.map (fun entry => (entry.1, entry.2.finished)) ++ (name, block) :: rest ∧
            { refusal.state with blocks := module.blocks } = module) ∧
          ∀ (later : List Contribution) (text : String),
            (∀ contribution ∈ later, contribution.IsAdditive) →
            let resumed := refusal.state.performAll workingDirectory (later.map .contribute)
            let direct := module.performAll workingDirectory (later.map .contribute)
            (∀ answer ∈ resumed.2, answer.isOk) →
            resumed.1.typeDefinitions.answer = .ok text →
            (∀ answer ∈ direct.2, answer.isOk) ∧ direct.1.typeDefinitions.answer = .ok text := by
  intro module refusal
  have regular : module.IsRegular := (IsRegular.new home).performAll workingDirectory keeps
  have requested := keys_performAll workingDirectory calls { home }
  refine ⟨requested, ?_, ?_⟩
  · rcases typeDefinitions_cases_of_isRegular regular with ⟨⟨text, answer⟩, balanced⟩ |
      ⟨front, name, block, rest, split, unbalanced, -, answer, -⟩
    · constructor
      · rintro ⟨fault, refused⟩
        cases answer.symm.trans refused
      · rintro ⟨entry, member, unbalanced⟩
        exact absurd unbalanced (balanced entry member)
    · have inEntries : (name, block) ∈ module.blocks.entries := by simp [split]
      exact ⟨fun _ => ⟨(name, block), inEntries, unbalanced⟩, fun _ => ⟨_, answer⟩⟩
  · intro fault refused
    refine ⟨?_, ?_⟩
    · rcases typeDefinitions_cases_of_isRegular regular with ⟨⟨text, answer⟩, -⟩ |
        ⟨front, name, block, rest, split, unbalanced, balanced, answer, some⟩
      · cases answer.symm.trans refused
      · have same := answer.symm.trans refused
        rw [Except.error.injEq] at same
        exact ⟨front, name, block, rest, split, balanced, unbalanced, same.symm, some, rfl⟩
    · intro later text additive resumed direct accepted answered
      have related := Ahead.of_typeDefinitions module
      rcases related.performAll later additive accepted with ⟨acceptedToo, relatedEnd⟩
      exact ⟨acceptedToo, relatedEnd.typeDefinitions answered⟩

/-- The block that was left indented is repaired. The block before it, which the
refused call has closed, is not closed twice. -/
theorem typeDefinitions_resumed_of_repair :
    let calls : List ModuleCall :=
      [.contribute (.block "Books" none),
        .contribute (.block "Authors" (some (.content (.edit .indent)))),
        .contribute (.block "Genres" none)]
    let later : List Contribution :=
      [.service "shop.S", .block "Authors" (some (.content (.edit .outdent))),
        .block "Orders" (some (.content (.edit (.add "type id = number;"))))]
    let module := (({ home := ⟨["shop"], by decide⟩ } : SourceModule).performAll "/" calls).1
    let resumed := module.typeDefinitions.state.performAll "/" (later.map .contribute)
    let direct := module.performAll "/" (later.map .contribute)
    (∀ call ∈ calls, call.KeepsUnits) ∧
      module.typeDefinitions.answer = .error (.unbalanced "Authors") ∧
      (∀ contribution ∈ later, contribution.IsAdditive) ∧
      (∀ answer ∈ resumed.2, answer.isOk) ∧
      resumed.1.typeDefinitions.answer = .ok resumed.1.typeDefinitions.state.layOut ∧
      direct.1.typeDefinitions.answer = .ok resumed.1.typeDefinitions.state.layOut := by
  intro calls later module resumed direct
  have keeps : ∀ call ∈ calls, call.KeepsUnits := by
    simp [calls, ModuleCall.KeepsUnits, Contribution.KeepsUnits, BlockCall.KeepsUnit,
      BufferCall.KeepsUnit]
  have additive : ∀ contribution ∈ later, contribution.IsAdditive := by
    simp [later, Contribution.IsAdditive, BlockCall.IsAdditive, BufferCall.IsAdditive]
  have refused : module.typeDefinitions.answer = .error (.unbalanced "Authors") := by rfl
  have accepted : ∀ answer ∈ resumed.2, answer.isOk := by decide
  have answered : resumed.1.typeDefinitions.answer =
      .ok resumed.1.typeDefinitions.state.layOut := by decide +kernel
  have result := typeDefinitions_resumed "/" ⟨["shop"], by decide⟩ calls keeps
  have resumes := (result.2.2 _ refused).2 later _ additive accepted answered
  exact ⟨keeps, refused, additive, accepted, answered, resumes.2⟩

end SourceModule

end TypedModules
