import TypedModules.Declaration.Enumeration
import TypedModules.SourceModule.TypeDefinitions

/-! # Runtime stubs

The runtime stub exports what the type definitions declare: the service, every
name of an entity, events, actions and named enumerations. It can be given if
the values of all named enumerations have literals.
-/

namespace TypedModules

namespace Inflection

def depth (inflection : Inflection) : Nat :=
  inflection.singular.toList.count '.'

def exportLine (inflection : Inflection) (name : String) : String :=
  "module.exports." ++ name ++ " = csn." ++ inflection.entity

def exportLines (inflection : Inflection) : List String :=
  ([inflection.singular, inflection.plural, inflection.entity].map
    inflection.exportLine).eraseDups

end Inflection

namespace SourceModule

/-- The exports of entities. An entity comes before those nested in it, and
otherwise in order of registration. -/
def aliasLines (module : SourceModule) : List String :=
  (module.inflections.mergeSort fun first second => first.depth ≤ second.depth).flatMap
    Inflection.exportLines

/-- The statement that exports a service. It replaces all exports before it. -/
def serviceLine (fullName : String) : String :=
  "module.exports = \x7b name: '" ++ fullName ++ "' \x7d"

def eventLine (event : EventRecord) : String :=
  "module.exports." ++ event.name ++ " = '" ++ event.fullName ++ "'"

def actionLine (name : String) : String :=
  "module.exports." ++ name ++ " = '" ++ name ++ "'"

def enumerationLine (record : EnumerationRecord) : String :=
  (⟨record.name, record.members⟩ : Enumeration).exportText

def stubLines (module : SourceModule) : List String :=
  [generatedNote, "const cds = require('@sap/cds')",
    "const csn = cds.entities('" ++ module.home.dotted ++ "')"] ++
    module.serviceNames.map serviceLine ++ module.aliasLines ++
    "// events" :: module.events.map eventLine ++
    "// actions" :: module.actionNames.map actionLine ++
    "// enums" :: (EnumerationRecord.named module.enumerations).map enumerationLine

def IsRenderable (module : SourceModule) : Prop :=
  ∀ record ∈ EnumerationRecord.named module.enumerations,
    ∀ member ∈ record.members, member.2.IsRenderable

instance : DecidablePred IsRenderable := fun module =>
  inferInstanceAs (Decidable (∀ record ∈ EnumerationRecord.named module.enumerations,
    ∀ member ∈ record.members, member.2.IsRenderable))

def runtimeStub (module : SourceModule) : Except LiteralFault String :=
  if module.IsRenderable then .ok ("\n".intercalate module.stubLines ++ "\n")
  else .error .tooManyDigits

end SourceModule

end TypedModules
