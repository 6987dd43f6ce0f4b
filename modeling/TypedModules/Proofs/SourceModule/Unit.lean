import TypedModules.Proofs.Layout.Unit
import TypedModules.Proofs.SourceModule.Closing
import TypedModules.Proofs.SourceModule.Run

/-! # Modules with the default unit

As long as nobody changes a unit of indentation, all buffers and blocks of a
module have the default one, and every block carries the name it is kept under.
-/

namespace TypedModules

def Contribution.KeepsUnits : Contribution → Prop
  | write _ call => call.KeepsUnit
  | block _ (some call) => call.KeepsUnit
  | heldBlock _ call => call.KeepsUnit
  | _ => True

def ModuleCall.KeepsUnits : ModuleCall → Prop
  | contribute contribution => contribution.KeepsUnits
  | _ => True

namespace SourceModule

variable {workingDirectory : String} {module : SourceModule}

structure IsRegular (module : SourceModule) : Prop where
  sections : ∀ label, (module.sections.get label).unit = defaultUnit
  blocks : ∀ entry ∈ module.blocks.entries, entry.2.IsRegular entry.1

namespace IsRegular

theorem new (home : Namespace) : ({ home } : SourceModule).IsRegular where
  sections label := by cases label <;> rfl
  blocks := by simp [Registry.empty]

theorem visible (regular : module.IsRegular) (label : Section) :
    (module.sections.get label).unit ≠ "" := by
  rw [regular.sections label]
  decide

theorem find? (regular : module.IsRegular) {name : String} {block : NamespaceBlock}
    (found : module.blocks.find? name = some block) : block.IsRegular name :=
  regular.blocks (name, block) (Registry.find?_eq_some_iff.mp found)

theorem blockOrNew (regular : module.IsRegular) (name : String) :
    (module.blockOrNew name).IsRegular name := by
  rw [SourceModule.blockOrNew]
  cases found : module.blocks.find? name with
  | none => exact .opened name
  | some block => exact regular.find? found

theorem setSection (regular : module.IsRegular) (label : Section) {buffer : LineBuffer}
    (unit : buffer.unit = defaultUnit) : (module.setSection label buffer).IsRegular :=
  { regular with
    sections := fun other => by
      by_cases same : other = label
      · subst same
        simpa [SourceModule.setSection] using unit
      · rw [SourceModule.setSection, Sections.get_set_other module.sections buffer same]
        exact regular.sections other }

theorem addLine (regular : module.IsRegular) (label : Section) (line : String) :
    (module.addLine label line).IsRegular :=
  regular.setSection label (regular.sections label)

theorem performOn (regular : module.IsRegular) (label : Section) {call : BufferCall}
    (keeps : call.KeepsUnit) : (module.performOn label call).state.IsRegular :=
  regular.setSection label ((LineBuffer.unit_perform _ keeps).trans (regular.sections label))

theorem addEnumeration (regular : module.IsRegular) (record : EnumerationRecord) (label : Section)
    (enumeration : Enumeration) (exported : Bool) :
    (module.addEnumeration record label enumeration exported).state.IsRegular := by
  have keeps : (BufferCall.enumeration enumeration exported).KeepsUnit := trivial
  exact { regular.performOn label keeps with }

theorem putBlock (regular : module.IsRegular) {name : String} {block : NamespaceBlock}
    (isRegular : block.IsRegular name) :
    ({ module with blocks := module.blocks.put name block } : SourceModule).IsRegular :=
  { regular with blocks := Registry.forall_mem_put regular.blocks isRegular }

theorem contribute (regular : module.IsRegular) {contribution : Contribution}
    (keeps : contribution.KeepsUnits) :
    (module.contribute workingDirectory contribution).state.IsRegular := by
  cases contribution with
  | importOf imported =>
      rw [contribute_importOf]
      cases imported.specifier workingDirectory module.home.localDirectory <;>
        exact { regular with }
  | preamble code => exact regular.addLine .preamble code
  | typeAlias fullName name definition => exact { regular.addLine .types _ with }
  | className name fullName | event name fullName | inflection inflection =>
      exact { regular with }
  | service fullName =>
      rw [contribute_service]
      cases module.serviceNames with
      | nil => exact { regular.addLine .services _ with }
      | cons existing rest => exact regular
  | furtherService fullName => exact { regular.addLine .services _ with }
  | callable kind name parameters returns =>
      exact { (regular.addLine .actions ("// " ++ kind.word)).addLine .actions _ with }
  | enumeration fullName enumeration =>
      exact regular.addEnumeration _ .enumerations enumeration true
  | inlineEnumeration entity property members =>
      exact regular.addEnumeration _ .inlineEnumerations _ false
  | write label call => exact regular.performOn label keeps
  | block name call =>
      rw [contribute_block]
      split
      · exact regular.putBlock (regular.blockOrNew name)
      · cases call with
        | none => exact regular.putBlock (regular.blockOrNew name)
        | some call =>
            simp only [Registry.put_put]
            exact regular.putBlock ((regular.blockOrNew name).perform keeps)
  | heldBlock name call =>
      rw [contribute_heldBlock]
      cases found : module.blocks.find? name with
      | none => exact regular
      | some block => exact regular.putBlock ((regular.find? found).perform keeps)

theorem typeDefinitions (regular : module.IsRegular) : module.typeDefinitions.state.IsRegular :=
  { regular with
    blocks := by
      apply Registry.forall_mem_of_forall₂ (closes_typeDefinitions module) _ regular.blocks
      rintro entry done ⟨sameName, same | accepted⟩ isRegular
      · rwa [same, ← sameName]
      · rw [← sameName]
        rcases closeIfOpen_cases accepted with ⟨-, same⟩ | closes
        · rwa [same]
        · exact isRegular.of_close closes }

theorem perform (regular : module.IsRegular) {call : ModuleCall} (keeps : call.KeepsUnits) :
    (module.perform workingDirectory call).state.IsRegular := by
  cases call with
  | contribute contribution => exact regular.contribute keeps
  | typeDefinitions => exact regular.typeDefinitions
  | runtimeStub | imports => exact regular

theorem performAll (workingDirectory : String) {calls : List ModuleCall}
    (keeps : ∀ call ∈ calls, call.KeepsUnits) (regular : module.IsRegular) :
    (module.performAll workingDirectory calls).1.IsRegular := by
  induction calls generalizing module with
  | nil => exact regular
  | cons call rest induction =>
      rw [List.forall_mem_cons] at keeps
      exact induction keeps.2 (regular.perform keeps.1)

end IsRegular

end SourceModule

end TypedModules
