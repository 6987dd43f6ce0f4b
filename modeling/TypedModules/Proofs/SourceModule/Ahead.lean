import TypedModules.Proofs.Layout.Refusal
import TypedModules.Proofs.SourceModule.Growth
import TypedModules.Proofs.SourceModule.Rearrangement

/-! # Modules that are ahead of others

A module is ahead of another one that differs from it only in blocks that are
still open there. As long as its contributions succeed, the other module keeps
up, and once all blocks are closed both are the same.
-/

namespace TypedModules.SourceModule

variable {workingDirectory : String} {module ahead behind : SourceModule}

/-- Two modules that differ only in blocks that are closed in the first. -/
structure Ahead (ahead behind : SourceModule) : Prop where
  alike : ∀ category, category ≠ .blocks → AgreesOn category ahead behind
  blocks : Registry.Pointwise IsLaterThan ahead.blocks behind.blocks

theorem typeDefinitions_agreesOn (module : SourceModule) {category : Category}
    (notBlocks : category ≠ .blocks) : AgreesOn category module.typeDefinitions.state module :=
  { AgreesOn.refl category module with blocks := fun same => absurd same notBlocks }

namespace Ahead

theorem of_typeDefinitions (module : SourceModule) : Ahead module.typeDefinitions.state module where
  alike _ notBlocks := typeDefinitions_agreesOn module notBlocks
  blocks := by
    have closes := closes_typeDefinitions module
    exact (closes.imp fun _ _ closes => ⟨closes.1.symm, closes.2⟩).flip

theorem eq_of_open {done block : NamespaceBlock} (isOpen : done.closed = false)
    (related : IsLaterThan done block) : done = block := by
  rcases related with same | closes
  · exact same
  · have isClosed := closed_of_closeIfOpen closes
    rw [isOpen] at isClosed
    cases isClosed

theorem contribute_block (related : Ahead ahead behind) {name : String} {call : Option BlockCall}
    (accepted : (ahead.contribute workingDirectory (.block name call)).answer.isOk) :
    (behind.contribute workingDirectory (.block name call)).answer.isOk ∧
      Registry.Pointwise IsLaterThan
        (ahead.contribute workingDirectory (.block name call)).state.blocks
        (behind.contribute workingDirectory (.block name call)).state.blocks := by
  have isOpen : (ahead.blockOrNew name).closed = false := by
    by_contra isClosed
    rw [SourceModule.contribute_block, if_pos (by simpa using isClosed)] at accepted
    cases accepted
  have same : ahead.blockOrNew name = behind.blockOrNew name := by
    rcases related.blocks.find? name with ⟨first, second⟩ | ⟨done, block, first, second, relates⟩
    · simp [blockOrNew, first, second]
    · simp only [blockOrNew, first, second, Option.getD_some] at isOpen ⊢
      exact eq_of_open isOpen relates
  rw [SourceModule.contribute_block, if_neg (by simp [isOpen])] at accepted
  rw [SourceModule.contribute_block workingDirectory behind, ← same, if_neg (by simp [isOpen]),
    SourceModule.contribute_block workingDirectory ahead, if_neg (by simp [isOpen])]
  refine ⟨by cases call <;> exact accepted, ?_⟩
  cases call with
  | none => exact related.blocks.put name (.inl rfl)
  | some call => exact (related.blocks.put name (.inl rfl)).put name (.inl rfl)

/-- A block that is closed in one module only can be read in both, and refuses
everything else in that one. -/
theorem contribute_heldBlock (related : Ahead ahead behind) {name : String} {call : BlockCall}
    (additive : call.IsAdditive)
    (accepted : (ahead.contribute workingDirectory (.heldBlock name call)).answer.isOk) :
    (behind.contribute workingDirectory (.heldBlock name call)).answer.isOk ∧
      Registry.Pointwise IsLaterThan
        (ahead.contribute workingDirectory (.heldBlock name call)).state.blocks
        (behind.contribute workingDirectory (.heldBlock name call)).state.blocks := by
  rw [SourceModule.contribute_heldBlock] at accepted ⊢
  rw [SourceModule.contribute_heldBlock]
  rcases related.blocks.find? name with ⟨first, second⟩ | ⟨done, block, first, second, relates⟩
  · rw [first, second]
    exact ⟨rfl, related.blocks⟩
  · rw [first] at accepted ⊢
    rw [second]
    rcases relates with rfl | closes
    · exact ⟨accepted, related.blocks.put name (.inl rfl)⟩
    · cases outcome : (done.perform call).answer with
      | error fault => simp [outcome, Except.mapError, Except.isOk, Except.toBool] at accepted
      | ok answer =>
          have isClosed := closed_of_closeIfOpen closes
          rcases NamespaceBlock.eq_join_of_closed isClosed additive (.of_ok outcome) with
            ⟨glue, rfl⟩
          exact ⟨rfl, related.blocks.put name (.inr closes)⟩

theorem contribute (related : Ahead ahead behind) {contribution : Contribution}
    (additive : contribution.IsAdditive)
    (accepted : (ahead.contribute workingDirectory contribution).answer.isOk) :
    (behind.contribute workingDirectory contribution).answer.isOk ∧
      Ahead (ahead.contribute workingDirectory contribution).state
        (behind.contribute workingDirectory contribution).state := by
  have others : ∀ category, category ≠ .blocks → contribution.category ≠ category →
      AgreesOn category (ahead.contribute workingDirectory contribution).state
        (behind.contribute workingDirectory contribution).state := by
    intro category notBlocks different
    have first := contribute_agreesOn_of_ne workingDirectory ahead different
    have second := contribute_agreesOn_of_ne workingDirectory behind different
    exact (first.trans (related.alike category notBlocks)).trans second.symm
  by_cases concerned : contribution.category = .blocks
  · have alike : ∀ category, category ≠ .blocks →
        AgreesOn category (ahead.contribute workingDirectory contribution).state
          (behind.contribute workingDirectory contribution).state := by
      intro category notBlocks
      exact others category notBlocks fun same => notBlocks (same.symm.trans concerned)
    cases contribution with
    | block name call =>
        rcases related.contribute_block accepted with ⟨acceptedToo, blocks⟩
        exact ⟨acceptedToo, alike, blocks⟩
    | heldBlock name call =>
        rcases related.contribute_heldBlock additive accepted with ⟨acceptedToo, blocks⟩
        exact ⟨acceptedToo, alike, blocks⟩
    | write label call => cases label <;> cases concerned
    | _ => cases concerned
  · rcases contribute_congr workingDirectory (related.alike contribution.category concerned) with
      ⟨sameAnswer, sameCategory⟩
    refine ⟨sameAnswer ▸ accepted, fun category notBlocks => ?_, ?_⟩
    · by_cases same : contribution.category = category
      · exact same ▸ sameCategory
      · exact others category notBlocks same
    · have first := (contribute_agreesOn_of_ne workingDirectory ahead concerned).blocks rfl
      have second := (contribute_agreesOn_of_ne workingDirectory behind concerned).blocks rfl
      rw [first, second]
      exact related.blocks

theorem performAll (contributions : List Contribution) :
    ∀ {ahead behind : SourceModule}, Ahead ahead behind →
      (∀ contribution ∈ contributions, contribution.IsAdditive) →
      (∀ answer ∈ (ahead.performAll workingDirectory (contributions.map .contribute)).2,
        answer.isOk) →
      (∀ answer ∈ (behind.performAll workingDirectory (contributions.map .contribute)).2,
        answer.isOk) ∧
      Ahead (ahead.performAll workingDirectory (contributions.map .contribute)).1
        (behind.performAll workingDirectory (contributions.map .contribute)).1 := by
  induction contributions with
  | nil => exact fun related _ _ => ⟨by simp [SourceModule.performAll], related⟩
  | cons contribution rest induction =>
      intro ahead behind related additive accepted
      rw [List.forall_mem_cons] at additive
      simp only [List.map_cons, SourceModule.performAll, List.forall_mem_cons] at accepted ⊢
      rcases accepted with ⟨acceptedFirst, acceptedRest⟩
      have isOk_map : ∀ attempt : Contributed,
          (attempt.map fun answer => answer.elim ModuleAnswer.nothing .text).answer.isOk =
            attempt.answer.isOk := by
        rintro ⟨state, answer | answer⟩ <;> rfl
      simp only [perform, isOk_map] at acceptedFirst acceptedRest ⊢
      rcases related.contribute additive.1 acceptedFirst with ⟨acceptedToo, relatedAfter⟩
      rcases induction relatedAfter additive.2 acceptedRest with ⟨acceptedRestToo, relatedEnd⟩
      exact ⟨⟨acceptedToo, acceptedRestToo⟩, relatedEnd⟩

theorem forall₂_closes {done entries closed : List (String × NamespaceBlock)}
    (related : List.Forall₂ (fun entry other => entry.1 = other.1 ∧
      IsLaterThan entry.2 other.2) done entries)
    (closes : List.Forall₂ Closes done closed) : List.Forall₂ Closes entries closed := by
  induction related generalizing closed with
  | nil =>
      cases closes
      exact .nil
  | @cons entry other _ _ relates _ induction =>
      cases closes with
      | @cons _ final _ _ closesFirst closesRest =>
          rcases relates with ⟨sameName, relates⟩
          rcases closesFirst with ⟨finalName, accepted⟩
          refine .cons ⟨sameName.symm.trans finalName, ?_⟩ (induction closesRest)
          rcases relates with same | already
          · rw [← same, accepted]
          · rw [closeIfOpen_of_closed (closed_of_closeIfOpen already)] at accepted
            rw [already, accepted]

/-- Closing all blocks makes both modules the same. -/
theorem typeDefinitions (related : Ahead ahead behind) {text : String}
    (answered : ahead.typeDefinitions.answer = .ok text) :
    behind.typeDefinitions.answer = .ok text := by
  rcases typeDefinitions_cases ahead with ⟨closes, answer⟩ | ⟨_, _, _, _, _, _, _, _, _, _, refused⟩
  · have closesToo := forall₂_closes related.blocks closes
    rcases typeDefinitions_of_forall₂ closesToo with ⟨sameEntries, answerToo⟩
    have agree : ∀ category,
        AgreesOn category ahead.typeDefinitions.state behind.typeDefinitions.state := by
      intro category
      by_cases same : category = .blocks
      · subst same
        have homes := (related.alike .imports (by decide)).home
        exact
          { home := homes
            buffers := fun label inCategory => by cases label <;> cases inCategory
            blocks := fun _ => Registry.eq_of_entries sameEntries.symm
            imports := nofun
            serviceNames := nofun
            typeNames := nofun
            named := nofun
            inline := nofun
            classNames := nofun
            events := nofun
            actionNames := nofun
            inflections := nofun }
      · have first := typeDefinitions_agreesOn ahead same
        have second := typeDefinitions_agreesOn behind same
        exact (first.trans (related.alike category same)).trans second.symm
    rw [answer, layOut_congr agree, ← answerToo] at answered
    exact answered
  · rw [refused] at answered
    cases answered

end Ahead

end TypedModules.SourceModule
