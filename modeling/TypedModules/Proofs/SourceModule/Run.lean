import TypedModules.Proofs.SourceModule.Category

/-! # Runs of calls on a module

What holds of a category is carried through a run by its own contributions. All
other calls go unnoticed, except that the category of blocks sees them closed.
-/

namespace TypedModules

namespace ModuleCall

def category? : ModuleCall → Option Category
  | contribute contribution => some contribution.category
  | typeDefinitions => some .blocks
  | runtimeStub => none
  | imports => none

def contributionIn? (category : Category) : ModuleCall → Option Contribution
  | contribute contribution =>
      if contribution.category = category then some contribution else none
  | _ => none

end ModuleCall

def contributionsIn (category : Category) (calls : List ModuleCall) : List Contribution :=
  calls.filterMap (·.contributionIn? category)

theorem mem_contributionsIn_iff {category : Category} {calls : List ModuleCall}
    {contribution : Contribution} :
    contribution ∈ contributionsIn category calls ↔
      ModuleCall.contribute contribution ∈ calls ∧ contribution.category = category := by
  rw [contributionsIn, List.mem_filterMap]
  constructor
  · rintro ⟨call, member, found⟩
    cases call with
    | contribute candidate =>
        simp only [ModuleCall.contributionIn?, Option.ite_none_right_eq_some,
          Option.some.injEq] at found
        rcases found with ⟨concerned, rfl⟩
        exact ⟨member, concerned⟩
    | typeDefinitions | runtimeStub | imports => cases found
  · rintro ⟨member, concerned⟩
    exact ⟨.contribute contribution, member, by simp [ModuleCall.contributionIn?, concerned]⟩

namespace SourceModule

variable {category : Category} {module : SourceModule}

theorem perform_agreesOn_of_ne (workingDirectory : String) (module : SourceModule)
    {call : ModuleCall} (unconcerned : call.category? ≠ some category) :
    AgreesOn category (module.perform workingDirectory call).state module := by
  have unchanged := AgreesOn.refl category module
  cases call with
  | contribute contribution =>
      apply contribute_agreesOn_of_ne workingDirectory module
      intro concerned
      exact unconcerned (congrArg some concerned)
  | typeDefinitions =>
      exact { unchanged with blocks := fun same => absurd (congrArg some same.symm) unconcerned }
  | runtimeStub | imports => exact unchanged

theorem home_performAll (workingDirectory : String) (calls : List ModuleCall) :
    ∀ module : SourceModule, (module.performAll workingDirectory calls).1.home = module.home := by
  induction calls with
  | nil => intro module; rfl
  | cons call rest induction =>
      intro module
      -- No call changes two categories, so one of them sees nothing of it.
      have other : ∃ category, call.category? ≠ some category := by
        by_cases concerned : call.category? = some .blocks
        · exact ⟨.imports, by simp [concerned]⟩
        · exact ⟨.blocks, concerned⟩
      rcases other with ⟨category, unconcerned⟩
      rw [performAll, induction]
      exact (perform_agreesOn_of_ne workingDirectory module unconcerned).home

/-- A property of one category holds after a run when each of the contributions
to the category keeps it up. -/
theorem performAll_induction (workingDirectory : String) (notBlocks : category ≠ .blocks)
    {Allowed : Contribution → Prop} (Holds : SourceModule → List Contribution → Prop)
    (respects : ∀ {module other past}, AgreesOn category module other → Holds other past →
      Holds module past)
    (step : ∀ {module past contribution}, Allowed contribution → Holds module past →
      Holds (module.contribute workingDirectory contribution).state (past ++ [contribution]))
    (calls : List ModuleCall) :
    ∀ {module : SourceModule} {past : List Contribution},
      (∀ contribution ∈ contributionsIn category calls, Allowed contribution) →
      Holds module past →
      Holds (module.performAll workingDirectory calls).1
        (past ++ contributionsIn category calls) := by
  induction calls with
  | nil =>
      intro module past _ holds
      simpa [contributionsIn, performAll] using holds
  | cons call rest induction =>
      intro module past allowed holds
      by_cases concerned : call.category? = some category
      -- Only a contribution to the category can be concerned, as blocks are left out.
      · cases call with
        | contribute contribution =>
            have same : contribution.category = category := by
              simpa [ModuleCall.category?] using concerned
            have split : contributionsIn category (.contribute contribution :: rest) =
                contribution :: contributionsIn category rest := by
              simp [contributionsIn, ModuleCall.contributionIn?, same]
            rw [split] at allowed ⊢
            have kept := step (allowed contribution List.mem_cons_self) holds
            have later := induction
              (fun other member => allowed other (List.mem_cons_of_mem contribution member)) kept
            rwa [List.append_assoc] at later
        | typeDefinitions =>
            simp only [ModuleCall.category?, Option.some.injEq] at concerned
            exact absurd concerned.symm notBlocks
        | runtimeStub | imports => cases concerned
      · have split : contributionsIn category (call :: rest) = contributionsIn category rest := by
          cases call <;>
            simp_all [contributionsIn, ModuleCall.contributionIn?, ModuleCall.category?]
        rw [split] at allowed ⊢
        exact induction allowed
          (respects (perform_agreesOn_of_ne workingDirectory module concerned) holds)

end SourceModule

end TypedModules
