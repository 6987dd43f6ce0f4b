import TypedModules.Proofs.Layout.Enumeration
import TypedModules.Proofs.Literal.Limit
import TypedModules.SourceModule.Call

/-! # The effect of contributions

A contribution that takes several steps is described by the module and the answer
that it leaves behind. What follows about runs is derived from these equations.
-/

namespace TypedModules.SourceModule

variable (workingDirectory : String) (module : SourceModule)

theorem performAll_contribute (contribution : Contribution) (rest : List ModuleCall) :
    module.performAll workingDirectory (.contribute contribution :: rest) =
      let attempt := module.contribute workingDirectory contribution
      let later := attempt.state.performAll workingDirectory rest
      (later.1, (attempt.answer.map fun answer => answer.elim .nothing .text) :: later.2) := rfl

theorem contribute_importOf (imported : Namespace) :
    module.contribute workingDirectory (.importOf imported) =
      match imported.specifier workingDirectory module.home.localDirectory with
      | .error fault => ⟨module, .error (.directory fault)⟩
      | .ok specifier =>
          ⟨{ module with
              imports :=
                if specifier ∈ module.imports.keys then module.imports
                else module.imports.put specifier imported },
            .ok none⟩ := by
  rw [contribute, importNamespace]
  cases imported.specifier workingDirectory module.home.localDirectory with
  | error fault => rfl
  | ok specifier =>
      have step : (if specifier ∈ module.imports.keys then module
            else { module with imports := module.imports.put specifier imported }) =
          { module with
            imports :=
              if specifier ∈ module.imports.keys then module.imports
              else module.imports.put specifier imported } := by
        split <;> rfl
      exact congrArg (fun state => (⟨state, .ok none⟩ : Contributed)) step

theorem contribute_service (fullName : String) :
    module.contribute workingDirectory (.service fullName) =
      match module.serviceNames with
      | [] => ⟨module.addService fullName, .ok none⟩
      | existing :: _ =>
          ⟨module, .error (.duplicateService module.home.localDirectory existing fullName)⟩ := by
  rw [contribute, service?]
  cases module.serviceNames <;> rfl

theorem contribute_callable (kind : CallableKind) (name : String) (parameters : List Parameter)
    (returns : String) :
    module.contribute workingDirectory (.callable kind name parameters returns) =
      ⟨module.addCallable kind name parameters returns, .ok none⟩ := rfl

theorem contribute_enumeration (fullName : String) (enumeration : Enumeration) :
    module.contribute workingDirectory (.enumeration fullName enumeration) =
      module.addEnumeration ⟨enumeration.name, fullName, enumeration.members, none⟩
        .enumerations enumeration true := rfl

theorem contribute_inlineEnumeration (entity property : String)
    (members : List (String × Scalar)) :
    module.contribute workingDirectory (.inlineEnumeration entity property members) =
      module.addEnumeration (.ofProperty entity property members) .inlineEnumerations
        ⟨Enumeration.inlineName entity property, members⟩ false := rfl

theorem contribute_block (name : String) (call : Option BlockCall) :
    module.contribute workingDirectory (.block name call) =
      if (module.blockOrNew name).closed then
        ⟨{ module with blocks := module.blocks.put name (module.blockOrNew name) },
          .error (.layout (.closed name))⟩
      else
        match call with
        | none =>
            ⟨{ module with blocks := module.blocks.put name (module.blockOrNew name) }, .ok none⟩
        | some call =>
            ⟨{ module with
                blocks := (module.blocks.put name (module.blockOrNew name)).put name
                  ((module.blockOrNew name).perform call).state },
              ((module.blockOrNew name).perform call).answer.mapError .layout⟩ := by
  by_cases closed : (module.blockOrNew name).closed = true
  · simp [contribute, requestBlock, closed]
  · rw [if_neg closed]
    cases call <;> simp only [contribute, requestBlock, closed] <;> rfl

theorem contribute_heldBlock (name : String) (call : BlockCall) :
    module.contribute workingDirectory (.heldBlock name call) =
      match module.blocks.find? name with
      | none => ⟨module, .ok none⟩
      | some block =>
          ⟨{ module with blocks := module.blocks.put name (block.perform call).state },
            (block.perform call).answer.mapError .layout⟩ := by
  cases found : module.blocks.find? name <;> simp only [contribute, found] <;> rfl

theorem state_performOn (label : Section) (call : BufferCall) :
    (module.performOn label call).state =
      module.setSection label ((module.sections.get label).perform call).state := rfl

theorem answer_performOn (label : Section) (call : BufferCall) :
    (module.performOn label call).answer =
      ((module.sections.get label).perform call).answer.mapError .layout := rfl

theorem get_addCallable (kind : CallableKind) (name : String) (parameters : List Parameter)
    (returns : String) :
    (module.addCallable kind name parameters returns).sections.get .actions =
      ((module.sections.get .actions).add ("// " ++ kind.word)).add
        ("export declare const " ++ Callable.text { name := some name, parameters, returns } ++
          ";") := rfl

def serviceDeclaration (fullName : String) : String :=
  "export default \x7b name: '" ++ fullName ++ "' \x7d"

theorem get_addService (fullName : String) :
    (module.addService fullName).sections.get .services =
      (module.sections.get .services).add (serviceDeclaration fullName) := rfl

/-- The record of an enumeration is kept, whether its declaration is refused or
not. -/
theorem state_addEnumeration (record : EnumerationRecord) (label : Section)
    (enumeration : Enumeration) (exported : Bool) :
    (module.addEnumeration record label enumeration exported).state =
      ({ module with enumerations := module.enumerations ++ [record] } : SourceModule).setSection
        label ((module.sections.get label).writeEnumeration enumeration exported).state := rfl

theorem addEnumeration_of_not_isRenderable (record : EnumerationRecord) (label : Section)
    {enumeration : Enumeration} (unrenderable : ¬enumeration.IsRenderable) (exported : Bool) :
    module.addEnumeration record label enumeration exported =
      ⟨({ module with enumerations := module.enumerations ++ [record] } :
          SourceModule).setSection label
            ((module.sections.get label).unfinished enumeration exported),
        .error (.layout (.literal .tooManyDigits))⟩ := by
  have printed := LineBuffer.writeEnumeration_of_not_isRenderable (module.sections.get label)
    unrenderable exported
  simp only [addEnumeration, performOn, LineBuffer.perform, printed]
  rfl

/-- What is left of an enumeration whose first value has no literal. -/
theorem contribute_enumeration_of_first {home : Namespace} {name key : String} {value : Scalar}
    (unrenderable : ¬value.IsRenderable) (fullName : String) (rest : List (String × Scalar)) :
    ({ home } : SourceModule).contribute workingDirectory
        (.enumeration fullName ⟨name, (key, value) :: rest⟩) =
      ⟨({ home, enumerations := [⟨name, fullName, (key, value) :: rest, none⟩] } :
          SourceModule).setSection .enumerations
            { lines := ["// enum", "export const " ++ name ++ " = \x7b"]
              indentation := defaultUnit },
        .error (.layout (.literal .tooManyDigits))⟩ := by
  have brokenOff : ¬(⟨name, (key, value) :: rest⟩ : Enumeration).IsRenderable := fun all =>
    unrenderable (all (key, value) List.mem_cons_self)
  rw [contribute_enumeration, addEnumeration_of_not_isRenderable _ _ _ brokenOff,
    LineBuffer.unfinished, Enumeration.renderedTexts,
    Enumeration.renderedMembers_of_first unrenderable]
  rfl

/-- A module with a declaration that broke off, as its first value has one digit too many. -/
def brokenOff : SourceModule :=
  ({ home := ⟨["shop"], by decide⟩
     enumerations := [⟨"Big", "shop.Big", [("a", .integer (10 ^ Scalar.digitLimit))], none⟩] } :
    SourceModule).setSection .enumerations
      { lines := ["// enum", "export const Big = \x7b"], indentation := defaultUnit }

theorem performAll_powerOfTen (rest : List ModuleCall) :
    ({ home := ⟨["shop"], by decide⟩ } : SourceModule).performAll workingDirectory
        (.contribute (.enumeration "shop.Big"
          ⟨"Big", [("a", .integer (10 ^ Scalar.digitLimit))]⟩) :: rest) =
      let later := brokenOff.performAll workingDirectory rest
      (later.1, .error (.layout (.literal .tooManyDigits)) :: later.2) := by
  rw [performAll_contribute, contribute_enumeration_of_first workingDirectory
    Scalar.not_isRenderable_powerOfTen "shop.Big" []]
  rfl

end TypedModules.SourceModule
