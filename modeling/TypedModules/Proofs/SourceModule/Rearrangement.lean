import TypedModules.Proofs.SourceModule.Category

/-! # Contributions in another order

When two runs make the same contributions to every category, though in another
order across the categories, the modules that they leave behind can not be told
apart by any further calls.
-/

namespace TypedModules.SourceModule

variable {category : Category} {module other : SourceModule}

/-! ## Modules that agree on all categories -/

theorem sections_eq (agree : ∀ category, AgreesOn category module other) :
    module.sections = other.sections := by
  have buffers : ∀ label : Section, module.sections.get label = other.sections.get label :=
    fun label => (agree label.category).buffers label rfl
  exact Sections.eq_of_get buffers

theorem layOut_congr (agree : ∀ category, AgreesOn category module other) :
    module.layOut = other.layOut := by
  have imports := (agree .imports).imports rfl
  have blocks := (agree .blocks).blocks rfl
  have parts : module.partText = other.partText := by
    funext part
    cases part <;> simp only [partText, sections_eq agree, blocks]
  simp only [layOut, definitionTexts, importLines, imports, sections_eq agree, parts]

theorem runtimeStub_congr (agree : ∀ category, AgreesOn category module other) :
    module.runtimeStub = other.runtimeStub := by
  have home := (agree .imports).home
  have services := (agree .services).serviceNames rfl
  have inflections := (agree .inflections).inflections rfl
  have events := (agree .events).events rfl
  have actions := (agree .callables).actionNames rfl
  have named := (agree .namedEnumerations).named rfl
  have lines : module.stubLines = other.stubLines := by
    simp only [stubLines, aliasLines, home, services, inflections, events, actions, named]
  have renderable : module.IsRenderable ↔ other.IsRenderable := by
    rw [IsRenderable, IsRenderable, named]
  simp only [runtimeStub, lines, renderable]

theorem closeBlocks_congr (agree : ∀ category, AgreesOn category module other) :
    module.closeBlocks.answer = other.closeBlocks.answer ∧
      ∀ category, AgreesOn category module.closeBlocks.state other.closeBlocks.state := by
  have entries : module.blocks.entries = other.blocks.entries := by
    rw [(agree .blocks).blocks rfl]
  refine ⟨?_, fun category => { agree category with blocks := fun _ => ?_ }⟩
  · simp only [closeBlocks, entries]
  · apply Registry.eq_of_entries
    simp only [closeBlocks, entries]

theorem typeDefinitions_congr (agree : ∀ category, AgreesOn category module other) :
    module.typeDefinitions.answer = other.typeDefinitions.answer ∧
      ∀ category, AgreesOn category module.typeDefinitions.state other.typeDefinitions.state := by
  rcases closeBlocks_congr agree with ⟨sameAnswer, closed⟩
  refine ⟨?_, closed⟩
  simp only [typeDefinitions, Attempt.map, sameAnswer, layOut_congr closed]

theorem perform_congr (workingDirectory : String) (call : ModuleCall)
    (agree : ∀ category, AgreesOn category module other) :
    (module.perform workingDirectory call).answer = (other.perform workingDirectory call).answer ∧
      ∀ category, AgreesOn category (module.perform workingDirectory call).state
        (other.perform workingDirectory call).state := by
  cases call with
  | contribute contribution =>
      rcases contribute_congr workingDirectory (agree contribution.category) with
        ⟨sameAnswer, sameCategory⟩
      refine ⟨?_, fun category => ?_⟩
      · simp only [perform, Attempt.map, sameAnswer]
      · by_cases concerned : contribution.category = category
        · subst category
          exact sameCategory
        · have before := contribute_agreesOn_of_ne workingDirectory module concerned
          have after := contribute_agreesOn_of_ne workingDirectory other concerned
          exact (before.trans (agree category)).trans after.symm
  | typeDefinitions =>
      rcases typeDefinitions_congr agree with ⟨sameAnswer, closed⟩
      refine ⟨?_, closed⟩
      simp only [perform, Attempt.map, Attempt.mapFault, sameAnswer]
  | runtimeStub => exact ⟨by simp only [perform, runtimeStub_congr agree], agree⟩
  | imports =>
      have imports := (agree .imports).imports rfl
      exact ⟨by simp only [perform, importLines, imports], agree⟩

/-- No calls tell modules apart that agree on all categories. -/
theorem performAll_congr (workingDirectory : String) (calls : List ModuleCall) :
    ∀ {module other : SourceModule}, (∀ category, AgreesOn category module other) →
      (module.performAll workingDirectory calls).2 =
        (other.performAll workingDirectory calls).2 := by
  induction calls with
  | nil => intro module other _; rfl
  | cons call rest induction =>
      intro module other agree
      rcases perform_congr workingDirectory call agree with ⟨sameAnswer, agreeAfter⟩
      simp only [performAll, sameAnswer, induction agreeAfter]

/-! ## Runs seen from one category -/

def answersIn (category : Category) (contributions : List Contribution)
    (answers : List (Except ContributionFault ModuleAnswer)) :
    List (Except ContributionFault ModuleAnswer) :=
  ((contributions.zip answers).filter fun answered => answered.1.category = category).map Prod.snd

theorem answersIn_cons_of_eq {contribution : Contribution}
    (concerned : contribution.category = category) (rest : List Contribution)
    (answer : Except ContributionFault ModuleAnswer)
    (answers : List (Except ContributionFault ModuleAnswer)) :
    answersIn category (contribution :: rest) (answer :: answers) =
      answer :: answersIn category rest answers := by
  simp [answersIn, concerned]

theorem answersIn_cons_of_ne {contribution : Contribution}
    (unconcerned : contribution.category ≠ category) (rest : List Contribution)
    (answer : Except ContributionFault ModuleAnswer)
    (answers : List (Except ContributionFault ModuleAnswer)) :
    answersIn category (contribution :: rest) (answer :: answers) =
      answersIn category rest answers := by
  simp [answersIn, unconcerned]

/-- A category sees no difference between a run and the run of its own
contributions alone. -/
theorem performAll_filter (workingDirectory : String) (contributions : List Contribution) :
    ∀ {module other : SourceModule}, AgreesOn category module other →
      AgreesOn category
          (module.performAll workingDirectory (contributions.map .contribute)).1
          (other.performAll workingDirectory
            ((contributions.filter (·.category = category)).map .contribute)).1 ∧
        answersIn category contributions
            (module.performAll workingDirectory (contributions.map .contribute)).2 =
          (other.performAll workingDirectory
            ((contributions.filter (·.category = category)).map .contribute)).2 := by
  -- The second run stands still at contributions of other categories, so the two
  -- runs agree on the category but not on the whole module.
  induction contributions with
  | nil => intro module other agree; exact ⟨agree, rfl⟩
  | cons contribution rest induction =>
      intro module other agree
      by_cases concerned : contribution.category = category
      · subst category
        rcases contribute_congr workingDirectory agree with ⟨sameAnswer, agreeAfter⟩
        rcases induction agreeAfter with ⟨finalAgree, restAnswers⟩
        rw [List.filter_cons_of_pos (by simp)]
        simp only [List.map_cons, performAll]
        rw [answersIn_cons_of_eq rfl]
        refine ⟨finalAgree, ?_⟩
        simp only [perform, Attempt.map, sameAnswer] at restAnswers ⊢
        rw [restAnswers]
      · have before := contribute_agreesOn_of_ne workingDirectory module concerned
        rcases induction (before.trans agree) with ⟨finalAgree, restAnswers⟩
        rw [List.filter_cons_of_neg (by simpa using concerned)]
        simp only [List.map_cons, performAll]
        rw [answersIn_cons_of_ne concerned]
        exact ⟨finalAgree, restAnswers⟩

/-- The order of contributions across categories does not matter: each of them is
answered alike, and so are all later calls. -/
theorem performAll_eq_of_filter_eq (workingDirectory : String) (module : SourceModule)
    {first second : List Contribution}
    (same : ∀ category : Category,
      first.filter (·.category = category) = second.filter (·.category = category)) :
    let firstRun := module.performAll workingDirectory (first.map .contribute)
    let secondRun := module.performAll workingDirectory (second.map .contribute)
    (∀ category, answersIn category first firstRun.2 = answersIn category second secondRun.2) ∧
      firstRun.1.typeDefinitions.answer = secondRun.1.typeDefinitions.answer ∧
      firstRun.1.runtimeStub = secondRun.1.runtimeStub ∧
      ∀ later, (firstRun.1.performAll workingDirectory later).2 =
        (secondRun.1.performAll workingDirectory later).2 := by
  intro firstRun secondRun
  have unchanged : ∀ category, AgreesOn category module module := fun category =>
    .refl category module
  have agree : ∀ category, AgreesOn category firstRun.1 secondRun.1 := by
    intro category
    have firstAlone := (performAll_filter workingDirectory first (unchanged category)).1
    have secondAlone := (performAll_filter workingDirectory second (unchanged category)).1
    rw [same category] at firstAlone
    exact firstAlone.trans secondAlone.symm
  refine ⟨?_, (typeDefinitions_congr agree).1, runtimeStub_congr agree,
    fun later => performAll_congr workingDirectory later agree⟩
  intro category
  rw [(performAll_filter workingDirectory first (unchanged category)).2,
    (performAll_filter workingDirectory second (unchanged category)).2, same category]

/-- A second service is refused in both orders, and the enumerations that share
one list of records are declared in both. -/
theorem performAll_eq_of_filter_eq_of_services :
    let module : SourceModule := { home := ⟨["shop"], by decide⟩ }
    let genre : Contribution := .inlineEnumeration "Books" "genre" [("horror", .text "h")]
    let state : Contribution := .enumeration "shop.State" ⟨"State", [("open", .integer 1)]⟩
    let first : List Contribution :=
      [genre, .service "shop.S", .block "nested" none, state, .service "shop.T"]
    let second : List Contribution :=
      [state, .service "shop.S", .service "shop.T", genre, .block "nested" none]
    (∀ category : Category,
        first.filter (·.category = category) = second.filter (·.category = category)) ∧
      (module.performAll "/" (first.map .contribute)).1.typeDefinitions.answer =
        (module.performAll "/" (second.map .contribute)).1.typeDefinitions.answer := by
  intro module genre state first second
  have same : ∀ category : Category,
      first.filter (·.category = category) = second.filter (·.category = category) := by
    intro category
    cases category <;> rfl
  exact ⟨same, (performAll_eq_of_filter_eq "/" module same).2.1⟩

end TypedModules.SourceModule
