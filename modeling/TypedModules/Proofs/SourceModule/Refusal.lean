import TypedModules.Proofs.Layout.Refusal
import TypedModules.Proofs.RuntimeStub.Export
import TypedModules.Proofs.SourceModule.Unit

/-! # Refused contributions

A contribution that is refused leaves the module as it was, so that a run can do
without it. Every service but the first one is refused. An enumeration with a value that
has no literal is not refused: it is recorded, and its declaration breaks off.
-/

namespace TypedModules

def ContributionFault.isRefusal : ContributionFault → Bool
  | layout fault => fault.isRefusal
  | directory _ | duplicateService _ _ _ => true

namespace NamespaceBlock

theorem perform_opened_ne_error (name : String) (call : BlockCall) {fault : LayoutFault}
    (isRefusal : fault.isRefusal = true) :
    ((opened name defaultUnit).perform call).answer ≠ .error fault := by
  have isOpen : (opened name defaultUnit).closed = false := rfl
  have visible : (opened name defaultUnit).buffer.unit ≠ "" :=
    show defaultUnit ≠ "" by decide
  have nested : (opened name defaultUnit).buffer.indentation =
      "" ++ (opened name defaultUnit).buffer.unit := rfl
  intro refused
  cases call with
  | close =>
      have closes := close_of_balanced visible isOpen rfl
      simp [perform, closes, Attempt.ofExcept, Attempt.map, Except.map] at refused
  | content call =>
      cases call with
      | edit edit =>
          cases edit with
          | add line | indent => cases refused
          | outdent =>
              have outdented := LineBuffer.outdent_of_append visible nested
              simp [perform, NamespaceBlock.edit, LineBuffer.edit, isOpen, outdented,
                Attempt.ofExcept, Attempt.map, Except.map] at refused
      | join glue | clear | setUnit unit => cases refused
      | enumeration enumeration exported =>
          have unprinted := Attempt.answer_map_eq_error_iff.mp refused
          rw [writeEnumeration_of_open isOpen] at unprinted
          exact LineBuffer.not_refused_writeEnumeration visible isRefusal enumeration exported
            unprinted

end NamespaceBlock

namespace SourceModule

variable {workingDirectory : String} {module : SourceModule} {fault : ContributionFault}

/-! ## One contribution -/

theorem answer_mapError_eq_error {answer : Except LayoutFault (Option String)}
    (refused : answer.mapError ContributionFault.layout = .error fault)
    (isRefusal : fault.isRefusal = true) :
    ∃ reason : LayoutFault, answer = .error reason ∧ reason.isRefusal = true := by
  cases answer with
  | error reason =>
      cases refused
      exact ⟨reason, rfl, isRefusal⟩
  | ok value => cases refused

theorem state_performOn_of_refused (regular : module.IsRegular) {label : Section}
    {call : BufferCall} (refused : (module.performOn label call).answer = .error fault)
    (isRefusal : fault.isRefusal = true) : (module.performOn label call).state = module := by
  rw [answer_performOn] at refused
  rcases answer_mapError_eq_error refused isRefusal with ⟨reason, isRefused, reasonRefuses⟩
  rw [state_performOn,
    LineBuffer.state_perform_of_refused (regular.visible label) reasonRefuses isRefused,
    setSection, Sections.set_get]

theorem addEnumeration_not_refused (regular : module.IsRegular) (record : EnumerationRecord)
    (label : Section) (enumeration : Enumeration) (exported : Bool)
    (isRefusal : fault.isRefusal = true) :
    (module.addEnumeration record label enumeration exported).answer ≠ .error fault := by
  intro refused
  rcases answer_mapError_eq_error refused isRefusal with ⟨reason, unprinted, reasonRefuses⟩
  exact LineBuffer.not_refused_writeEnumeration (regular.visible label) reasonRefuses enumeration
    exported (Attempt.answer_map_eq_error_iff.mp unprinted)

theorem state_contribute_block_of_refused (regular : module.IsRegular) {name : String}
    {call : Option BlockCall}
    (refused : (module.contribute workingDirectory (.block name call)).answer = .error fault)
    (isRefusal : fault.isRefusal = true) :
    (module.contribute workingDirectory (.block name call)).state = module := by
  rw [contribute_block] at refused ⊢
  cases found : module.blocks.find? name with
  | none =>
      have opened : module.blockOrNew name = .opened name defaultUnit := by
        simp [blockOrNew, found]
      rw [opened, if_neg (by simp [NamespaceBlock.opened])] at refused
      cases call with
      | none => cases refused
      | some call =>
          rcases answer_mapError_eq_error refused isRefusal with ⟨reason, isRefused, reasonRefuses⟩
          exact absurd isRefused (NamespaceBlock.perform_opened_ne_error name call reasonRefuses)
  | some block =>
      have held : module.blockOrNew name = block := by simp [blockOrNew, found]
      have putBack : module.blocks.put name block = module.blocks := Registry.put_of_find? found
      rw [held, putBack] at refused ⊢
      split
      · rfl
      · rename_i isOpen
        rw [if_neg isOpen] at refused
        cases call with
        | none => rfl
        | some call =>
            rcases answer_mapError_eq_error refused isRefusal with
              ⟨reason, isRefused, reasonRefuses⟩
            have unchanged := NamespaceBlock.state_perform_of_refused
              (regular.find? found).visible reasonRefuses isRefused
            simp only [unchanged, putBack]

theorem state_contribute_heldBlock_of_refused (regular : module.IsRegular) {name : String}
    {call : BlockCall}
    (refused : (module.contribute workingDirectory (.heldBlock name call)).answer = .error fault)
    (isRefusal : fault.isRefusal = true) :
    (module.contribute workingDirectory (.heldBlock name call)).state = module := by
  rw [contribute_heldBlock] at refused ⊢
  cases found : module.blocks.find? name with
  | none => rfl
  | some block =>
      rw [found] at refused
      rcases answer_mapError_eq_error refused isRefusal with ⟨reason, isRefused, reasonRefuses⟩
      have unchanged := NamespaceBlock.state_perform_of_refused (regular.find? found).visible
        reasonRefuses isRefused
      simp only [unchanged, Registry.put_of_find? found]

/-- Every contribution decides whether it is refused before it changes anything. -/
theorem state_contribute_of_refused (regular : module.IsRegular) {contribution : Contribution}
    (refused : (module.contribute workingDirectory contribution).answer = .error fault)
    (isRefusal : fault.isRefusal = true) :
    (module.contribute workingDirectory contribution).state = module := by
  cases contribution with
  | importOf imported =>
      rw [contribute_importOf] at refused ⊢
      cases located : imported.specifier workingDirectory module.home.localDirectory with
      | error reason => rfl
      | ok specifier =>
          rw [located] at refused
          cases refused
  | service fullName =>
      rw [contribute_service] at refused ⊢
      cases names : module.serviceNames with
      | nil =>
          rw [names] at refused
          cases refused
      | cons existing rest => rfl
  | enumeration fullName enumeration =>
      exact absurd refused (addEnumeration_not_refused regular _ _ _ _ isRefusal)
  | inlineEnumeration entity property members =>
      exact absurd refused (addEnumeration_not_refused regular _ _ _ _ isRefusal)
  | write label call => exact state_performOn_of_refused regular refused isRefusal
  | block name call => exact state_contribute_block_of_refused regular refused isRefusal
  | heldBlock name call => exact state_contribute_heldBlock_of_refused regular refused isRefusal
  | preamble code | typeAlias fullName name definition | className name fullName
  | event name fullName | furtherService fullName | inflection inflection
  | callable kind name parameters returns => cases refused

/-! ## Runs -/

def isRefused : ModuleCall × Except ContributionFault ModuleAnswer → Bool
  | (.contribute _, .error fault) => fault.isRefusal
  | _ => false

def acceptedCalls (calls : List ModuleCall)
    (answers : List (Except ContributionFault ModuleAnswer)) :
    List (ModuleCall × Except ContributionFault ModuleAnswer) :=
  (calls.zip answers).filter (!isRefused ·)

theorem state_perform_of_isRefused (regular : module.IsRegular) {call : ModuleCall}
    (refused : isRefused (call, (module.perform workingDirectory call).answer) = true) :
    (module.perform workingDirectory call).state = module := by
  cases call with
  | contribute contribution =>
      cases answer : (module.contribute workingDirectory contribution).answer with
      | error fault =>
          simp only [perform, Attempt.map, answer, Except.map, isRefused] at refused
          exact state_contribute_of_refused regular answer refused
      | ok accepted => simp [perform, Attempt.map, answer, Except.map, isRefused] at refused
  | typeDefinitions | runtimeStub | imports => cases refused

theorem acceptedCalls_cons (call : ModuleCall) (rest : List ModuleCall)
    (answer : Except ContributionFault ModuleAnswer)
    (answers : List (Except ContributionFault ModuleAnswer)) :
    acceptedCalls (call :: rest) (answer :: answers) =
      if isRefused (call, answer) then acceptedCalls rest answers
      else (call, answer) :: acceptedCalls rest answers := by
  cases refused : isRefused (call, answer) <;> simp [acceptedCalls, refused]

/-- A run goes the same way without the contributions that it refuses. -/
theorem performAll_acceptedCalls {calls : List ModuleCall}
    (keeps : ∀ call ∈ calls, call.KeepsUnits) (regular : module.IsRegular) :
    let run := module.performAll workingDirectory calls
    let accepted := acceptedCalls calls run.2
    module.performAll workingDirectory (accepted.map Prod.fst) =
      (run.1, accepted.map Prod.snd) := by
  induction calls generalizing module with
  | nil => rfl
  | cons call rest induction =>
      rw [List.forall_mem_cons] at keeps
      have next : (module.perform workingDirectory call).state.IsRegular := regular.perform keeps.1
      have continued := induction keeps.2 next
      simp only [performAll, acceptedCalls_cons]
      cases refused : isRefused (call, (module.perform workingDirectory call).answer) with
      | true =>
          have unchanged := state_perform_of_isRefused regular refused
          rw [unchanged] at continued ⊢
          exact continued
      | false =>
          simp only [Bool.false_eq_true, if_false, List.map_cons, performAll, continued]

/-- A refused contribution has no effect, so a run without the refused ones ends with
the same module, and thereby the same artifacts, and all other calls are answered
the same. A service is refused exactly if one was added before, which leaves at most
one line of the stub that replaces the exports, with the first service. -/
theorem performAll_without_refused (workingDirectory : String) (home : Namespace)
    (calls : List ModuleCall) (keeps : ∀ call ∈ calls, call.KeepsUnits) :
    let reachedBy (front : List ModuleCall) :=
      (({ home } : SourceModule).performAll workingDirectory front).1
    let run := ({ home } : SourceModule).performAll workingDirectory calls
    let accepted := acceptedCalls calls run.2
    (∀ front contribution back fault, calls = front ++ .contribute contribution :: back →
        let attempt := (reachedBy front).contribute workingDirectory contribution
        attempt.answer = .error fault → fault.isRefusal = true →
          attempt.state = reachedBy front) ∧
      ({ home } : SourceModule).performAll workingDirectory (accepted.map Prod.fst) =
        (run.1, accepted.map Prod.snd) ∧
      (∀ front fullName back, calls = front ++ .contribute (.service fullName) :: back →
        let attempt := (reachedBy front).contribute workingDirectory (.service fullName)
        ((∃ fault, attempt.answer = .error fault) ↔
          ∃ earlier, .contribute (.service earlier) ∈ front ∨
            .contribute (.furtherService earlier) ∈ front)) ∧
      ((∀ fullName, .contribute (.furtherService fullName) ∉ calls) →
        run.1.serviceNames.length ≤ 1 ∧ run.1.serviceNames = (addedServices calls).head?.toList ∧
        run.1.stubLines.filter StubStatement.replacesExports =
          (addedServices calls).head?.toList.map serviceLine) := by
  intro reachedBy run accepted
  refine ⟨?_, performAll_acceptedCalls keeps (.new home), ?_, ?_⟩
  · intro front contribution back fault split attempt refused isRefusal
    have keepsFront : ∀ call ∈ front, call.KeepsUnits := fun call member =>
      keeps call (split ▸ List.mem_append_left _ member)
    have regular : (reachedBy front).IsRegular := (IsRegular.new home).performAll _ keepsFront
    exact state_contribute_of_refused regular refused isRefusal
  · intro front fullName back split attempt
    rw [contribute_service_refused_iff fullName]
    simp only [← mem_addedServices_iff]
    exact ⟨List.exists_mem_of_ne_nil _, fun ⟨_, added⟩ => List.ne_nil_of_mem added⟩
  · intro asked
    have single : run.1.serviceNames.length ≤ 1 := length_serviceNames_performAll asked
    have first : run.1.serviceNames = (addedServices calls).head?.toList :=
      serviceNames_performAll single
    refine ⟨single, first, ?_⟩
    rw [filter_replacesExports_stubLines, first]

/-- Even a service with an empty name is the only one, and neither an outdent too many
nor a late line for a closed block does anything. -/
theorem performAll_without_refused_of_shop :
    let add (line : String) : BlockCall := .content (.edit (.add line))
    let calls : List ModuleCall :=
      [.contribute (.service ""), .contribute (.block "Books" (some (add "type text = string;"))),
        .contribute (.service "shop.S"), .contribute (.write .types (.edit .outdent)),
        .typeDefinitions, .contribute (.heldBlock "Books" (add "late")),
        .contribute (.block "Books" none), .contribute (.event "ordered" "shop.ordered")]
    let kept : List ModuleCall :=
      [.contribute (.service ""), .contribute (.block "Books" (some (add "type text = string;"))),
        .typeDefinitions, .contribute (.event "ordered" "shop.ordered")]
    let run := ({ home := ⟨["shop"], by decide⟩ } : SourceModule).performAll "/" calls
    (∀ call ∈ calls, call.KeepsUnits) ∧ (acceptedCalls calls run.2).map Prod.fst = kept ∧
      (({ home := ⟨["shop"], by decide⟩ } : SourceModule).performAll "/" kept).1 = run.1 ∧
      run.1.stubLines.filter StubStatement.replacesExports =
        ["module.exports = \x7b name: '' \x7d"] := by
  intro add calls kept run
  have keeps : ∀ call ∈ calls, call.KeepsUnits := by
    simp [calls, add, ModuleCall.KeepsUnits, Contribution.KeepsUnits, BlockCall.KeepsUnit,
      BufferCall.KeepsUnit]
  have sameCalls : (acceptedCalls calls run.2).map Prod.fst = kept := rfl
  rcases performAll_without_refused "/" ⟨["shop"], by decide⟩ calls keeps with
    ⟨-, same, -, services⟩
  have sameFinal := congrArg Prod.fst same
  refine ⟨keeps, sameCalls, ?_, ?_⟩
  · rw [← sameCalls]
    exact sameFinal
  · rcases services (by simp [calls]) with ⟨-, -, replaced⟩
    exact replaced

end SourceModule

end TypedModules
