import TypedModules.Proofs.SourceModule.Growth

/-! # Asking for the artifacts again

Asking for the type definitions closes all blocks, and closed blocks stay as they
are. So the texts of later type definitions start with those of earlier ones,
part by part.
-/

namespace TypedModules.SourceModule

variable {workingDirectory : String} {before after module : SourceModule}

/-! ## Settled modules -/

def IsSettled (module : SourceModule) : Prop :=
  ∀ entry ∈ module.blocks.entries, entry.2.closed = true

theorem typeDefinitions_of_isSettled (settled : module.IsSettled) :
    module.typeDefinitions = ⟨module, .ok module.layOut⟩ := by
  have closes : List.Forall₂ Closes module.blocks.entries module.blocks.entries :=
    List.forall₂_same.mpr fun entry member => ⟨rfl, closeIfOpen_of_closed (settled entry member)⟩
  have closing := closeInOrder_of_forall₂ closes
  have unchanged : module.closeBlocks = ⟨module, .ok ()⟩ := by
    simp only [closeBlocks, closing]
  rw [typeDefinitions, unchanged]
  rfl

theorem isSettled_and_eq_of_answer {text : String}
    (answered : module.typeDefinitions.answer = .ok text) :
    module.typeDefinitions.state.IsSettled ∧ text = module.typeDefinitions.state.layOut := by
  rcases typeDefinitions_cases module with ⟨closes, answer⟩ |
    ⟨_, _, _, _, fault, _, _, _, _, _, refused⟩
  · rw [answer, Except.ok.injEq] at answered
    exact ⟨forall_closed_of_forall₂ closes, answered.symm⟩
  · rw [refused] at answered
    cases answered

/-- Only contributions change a settled module. -/
theorem performAll_of_isSettled (workingDirectory : String) (settled : module.IsSettled)
    {calls : List ModuleCall} (uncontributed : ∀ contribution, .contribute contribution ∉ calls) :
    (module.performAll workingDirectory calls).1 = module := by
  induction calls with
  | nil => rfl
  | cons call rest induction =>
      have unchanged : (module.perform workingDirectory call).state = module := by
        cases call with
        | contribute contribution => exact absurd List.mem_cons_self (uncontributed contribution)
        | typeDefinitions =>
            exact congrArg Attempt.state (typeDefinitions_of_isSettled settled)
        | runtimeStub | imports => rfl
      rw [performAll, unchanged]
      exact induction fun contribution member =>
        uncontributed contribution (List.mem_cons_of_mem call member)

/-! ## Parts that grow -/

theorem importLines_isPrefix (grown : before.GrowsTo after) :
    before.importLines <+: after.importLines :=
  (grown.imports.filter _).map _

theorem values_isPrefix (settled : before.IsSettled) (grown : before.GrowsTo after) :
    before.blocks.values <+: after.blocks.values := by
  have front := grown.blocks.isPrefix_of_frozen fun entry member new continued =>
    continued.frozen (settled entry member)
  exact front.map Prod.snd

theorem partText_isPrefix (settled : before.IsSettled) (grown : before.GrowsTo after)
    (part : DefinitionPart) :
    (before.partText part).toList <+: (after.partText part).toList := by
  cases part with
  | buffer label => exact (grown.sections label).text_isPrefix
  | namespaces => exact Text.intercalate_isPrefix "\n" ((values_isPrefix settled grown).map _)

theorem definitionTexts_isPrefix (settled : before.IsSettled) (grown : before.GrowsTo after) :
    List.Forall₂ (fun early late => early.toList <+: late.toList) before.definitionTexts
      after.definitionTexts := by
  have parts : List.Forall₂ (fun early late => early.toList <+: late.toList)
      (DefinitionPart.order.map before.partText) (DefinitionPart.order.map after.partText) := by
    rw [List.forall₂_map_left_iff, List.forall₂_map_right_iff, List.forall₂_same]
    exact fun part _ => partText_isPrefix settled grown part
  exact .cons (List.prefix_refl _) <|
    .cons (Text.intercalate_isPrefix "\n" (importLines_isPrefix grown)) <|
      .cons (grown.sections .preamble).text_isPrefix parts

/-- Whatever is contributed after the type definitions were answered, later ones
only add to each of their parts, and without contributions they are the same. The
runtime stub neither changes the module nor sees blocks closed. -/
theorem typeDefinitions_repeatable (workingDirectory : String) (module : SourceModule) :
    (∀ (later : List ModuleCall) (first second : String),
      (∀ call ∈ later, call.IsAdditive) →
      module.typeDefinitions.answer = .ok first →
      let answered := module.typeDefinitions.state
      let reached := (answered.performAll workingDirectory later).1
      reached.typeDefinitions.answer = .ok second →
      let final := reached.typeDefinitions.state
      first = answered.layOut ∧ second = final.layOut ∧
        List.Forall₂ (fun early late => early.toList <+: late.toList) answered.definitionTexts
          final.definitionTexts ∧
        ((∀ contribution, ModuleCall.contribute contribution ∉ later) →
          second = first ∧ reached = answered ∧ final = reached)) ∧
      (module.perform workingDirectory .runtimeStub).state = module ∧
      ((module.perform workingDirectory .typeDefinitions).state.perform workingDirectory
          .runtimeStub).answer =
        (module.perform workingDirectory .runtimeStub).answer := by
  refine ⟨?_, rfl, rfl⟩
  intro later first second additive firstAnswer answered reached secondAnswer final
  rcases isSettled_and_eq_of_answer firstAnswer with ⟨settled, firstText⟩
  have secondText := (isSettled_and_eq_of_answer secondAnswer).2
  have grown : answered.GrowsTo final :=
    (performAll_growsTo workingDirectory additive answered).trans (typeDefinitions_growsTo reached)
  refine ⟨firstText, secondText, definitionTexts_isPrefix settled grown, fun uncontributed => ?_⟩
  have unchanged : reached = answered :=
    performAll_of_isSettled workingDirectory settled uncontributed
  have again : final = reached := by
    have same : answered.typeDefinitions = ⟨answered, .ok answered.layOut⟩ :=
      typeDefinitions_of_isSettled settled
    rw [← unchanged] at same
    exact congrArg Attempt.state same
  refine ⟨?_, unchanged, again⟩
  rw [firstText, secondText]
  exact congrArg layOut (again.trans unchanged)

/-- A closed block refuses a late line, and a block that is new comes after it. -/
theorem typeDefinitions_repeatable_of_books :
    let module := (({ home := ⟨["shop"], by decide⟩ } : SourceModule).performAll "/"
      [.contribute (.block "Books" (some (.content (.edit (.add "type text = string;")))))]).1
    let later : List ModuleCall :=
      [.contribute (.block "Books" (some (.content (.edit (.add "late"))))),
        .contribute (.block "Authors" none), .contribute (.service "shop.S")]
    let answered := module.typeDefinitions.state
    let reached := (answered.performAll "/" later).1
    let final := reached.typeDefinitions.state
    (∀ call ∈ later, call.IsAdditive) ∧
      module.typeDefinitions.answer = .ok answered.layOut ∧
      reached.typeDefinitions.answer = .ok final.layOut ∧
      answered.partText .namespaces = "export namespace Books \x7b\n  type text = string;\n\x7d" ∧
      final.partText .namespaces = "export namespace Books \x7b\n  type text = string;\n\x7d\n" ++
        "export namespace Authors \x7b\n\x7d" ∧
      List.Forall₂ (fun early late => early.toList <+: late.toList) answered.definitionTexts
        final.definitionTexts := by
  intro module later answered reached final
  have additive : ∀ call ∈ later, call.IsAdditive := by
    simp [later, ModuleCall.IsAdditive, Contribution.IsAdditive, BlockCall.IsAdditive,
      BufferCall.IsAdditive]
  have firstAnswer : module.typeDefinitions.answer = .ok answered.layOut := rfl
  have secondAnswer : reached.typeDefinitions.answer = .ok final.layOut := rfl
  rcases (typeDefinitions_repeatable "/" module).1 later answered.layOut final.layOut additive
    firstAnswer secondAnswer with ⟨-, -, parts, -⟩
  exact ⟨additive, firstAnswer, secondAnswer, by decide, by decide, parts⟩

end TypedModules.SourceModule
