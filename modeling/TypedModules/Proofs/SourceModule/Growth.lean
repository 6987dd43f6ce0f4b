import TypedModules.Proofs.Layout.Growth
import TypedModules.Proofs.SourceModule.Closing
import TypedModules.Proofs.SourceModule.Run

/-! # Modules that only grow

A run of calls that neither drop lines nor change a unit of indentation adds to
the module and takes nothing away.
-/

namespace TypedModules

def Contribution.IsAdditive : Contribution → Prop
  | write _ call => call.IsAdditive
  | block _ (some call) => call.IsAdditive
  | heldBlock _ call => call.IsAdditive
  | _ => True

def ModuleCall.IsAdditive : ModuleCall → Prop
  | contribute contribution => contribution.IsAdditive
  | _ => True

namespace SourceModule

variable {workingDirectory : String} {before middle after module : SourceModule}

/-- Imports and blocks are kept in front of further ones, and all buffers keep their
lines. -/
structure GrowsTo (before after : SourceModule) : Prop where
  imports : before.imports.entries <+: after.imports.entries
  sections : ∀ label, (before.sections.get label).GrowsTo (after.sections.get label)
  blocks : Registry.Grows NamespaceBlock.GrowsTo before.blocks after.blocks

namespace GrowsTo

theorem refl (module : SourceModule) : module.GrowsTo module where
  imports := List.prefix_refl _
  sections _ := .refl _
  blocks := .of_forall₂ (Registry.Pointwise.refl .refl module.blocks)

theorem trans (first : before.GrowsTo middle) (second : middle.GrowsTo after) :
    before.GrowsTo after where
  imports := first.imports.trans second.imports
  sections label := (first.sections label).trans (second.sections label)
  blocks := first.blocks.trans .trans second.blocks

theorem setSection (label : Section) {buffer : LineBuffer}
    (grown : (module.sections.get label).GrowsTo buffer) :
    module.GrowsTo (module.setSection label buffer) :=
  { refl module with
    sections := fun other => by
      by_cases same : other = label
      · subst same
        simpa [SourceModule.setSection] using grown
      · rw [SourceModule.setSection, Sections.get_set_other module.sections buffer same]
        exact .refl _ }

theorem addLine (module : SourceModule) (label : Section) (line : String) :
    module.GrowsTo (module.addLine label line) :=
  setSection label (.add _ line)

theorem addCallable (module : SourceModule) (kind : CallableKind) (name : String)
    (parameters : List Parameter) (returns : String) :
    module.GrowsTo (module.addCallable kind name parameters returns) :=
  { (addLine module .actions ("// " ++ kind.word)).trans (addLine _ .actions _) with }

theorem addService (module : SourceModule) (fullName : String) :
    module.GrowsTo (module.addService fullName) :=
  { addLine module .services _ with }

theorem addEnumeration (module : SourceModule) (record : EnumerationRecord) (label : Section)
    (enumeration : Enumeration) (exported : Bool) :
    module.GrowsTo (module.addEnumeration record label enumeration exported).state := by
  have additive : (BufferCall.enumeration enumeration exported).IsAdditive := trivial
  exact { setSection label (.perform _ additive) with }

theorem importNamespace (module : SourceModule) (specifier : String) (imported : Namespace) :
    module.GrowsTo
      { module with
        imports :=
          if specifier ∈ module.imports.keys then module.imports
          else module.imports.put specifier imported } :=
  { refl module with
    imports := by
      split
      · exact List.prefix_refl _
      · rename_i new
        rw [Registry.entries_put_of_new new]
        exact List.prefix_append _ _ }

theorem putBlock (module : SourceModule) (name : String) {block : NamespaceBlock}
    (grown : (module.blockOrNew name).GrowsTo block) :
    module.GrowsTo { module with blocks := module.blocks.put name block } :=
  { refl module with
    blocks := by
      apply Registry.grows_put .refl
      intro old found
      simpa [blockOrNew, found] using grown }

end GrowsTo

/-! ## Calls -/

theorem contribute_growsTo (workingDirectory : String) (module : SourceModule)
    {contribution : Contribution} (additive : contribution.IsAdditive) :
    module.GrowsTo (module.contribute workingDirectory contribution).state := by
  have unchanged := GrowsTo.refl module
  cases contribution with
  | importOf imported =>
      rw [contribute_importOf]
      cases imported.specifier workingDirectory module.home.localDirectory with
      | error fault => exact unchanged
      | ok specifier => exact .importNamespace module specifier imported
  | preamble code => exact .addLine module .preamble code
  | typeAlias fullName name definition => exact { GrowsTo.addLine module .types _ with }
  | className name fullName | event name fullName | inflection inflection =>
      exact { unchanged with }
  | service fullName =>
      rw [contribute_service]
      cases module.serviceNames with
      | nil => exact .addService module fullName
      | cons existing rest => exact unchanged
  | furtherService fullName => exact .addService module fullName
  | callable kind name parameters returns =>
      exact .addCallable module kind name parameters returns
  | enumeration fullName enumeration =>
      exact .addEnumeration module _ .enumerations enumeration true
  | inlineEnumeration entity property members =>
      exact .addEnumeration module _ .inlineEnumerations _ false
  | write label call => exact .setSection label (.perform _ additive)
  | block name call =>
      rw [contribute_block]
      split
      · exact .putBlock module name (.refl _)
      · cases call with
        | none => exact .putBlock module name (.refl _)
        | some call =>
            simp only [Registry.put_put]
            exact .putBlock module name (.perform _ additive)
  | heldBlock name call =>
      rw [contribute_heldBlock]
      cases found : module.blocks.find? name with
      | none => exact unchanged
      | some block =>
          have held : module.blockOrNew name = block := by simp [blockOrNew, found]
          subst held
          exact .putBlock module name (.perform _ additive)

theorem growsTo_of_closeIfOpen {block done : NamespaceBlock}
    (accepted : closeIfOpen block = .ok done) : block.GrowsTo done := by
  rcases closeIfOpen_cases accepted with ⟨-, rfl⟩ | closes
  · exact .refl done
  · exact .of_close closes

theorem typeDefinitions_growsTo (module : SourceModule) :
    module.GrowsTo module.typeDefinitions.state :=
  { GrowsTo.refl module with
    blocks := by
      apply Registry.EntriesGrow.of_forall₂
      apply (closes_typeDefinitions module).imp
      intro entry done closes
      refine ⟨closes.1, ?_⟩
      rcases closes.2 with same | accepted
      · exact same ▸ .refl _
      · exact growsTo_of_closeIfOpen accepted }

theorem perform_growsTo (workingDirectory : String) (module : SourceModule) {call : ModuleCall}
    (additive : call.IsAdditive) :
    module.GrowsTo (module.perform workingDirectory call).state := by
  cases call with
  | contribute contribution => exact contribute_growsTo workingDirectory module additive
  | typeDefinitions => exact typeDefinitions_growsTo module
  | runtimeStub | imports => exact .refl module

theorem performAll_growsTo (workingDirectory : String) {calls : List ModuleCall}
    (additive : ∀ call ∈ calls, call.IsAdditive) (module : SourceModule) :
    module.GrowsTo (module.performAll workingDirectory calls).1 := by
  induction calls generalizing module with
  | nil => exact .refl module
  | cons call rest induction =>
      rw [List.forall_mem_cons] at additive
      exact (perform_growsTo workingDirectory module additive.1).trans (induction additive.2 _)

end SourceModule

end TypedModules
