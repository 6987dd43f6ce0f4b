import TypedModules.Proofs.Literal.PlainAscii
import TypedModules.Proofs.RuntimeStub.Statement
import TypedModules.Proofs.SourceModule.Registration
import TypedModules.Proofs.Text.Repeats

/-! # Exports

What is registered is exported under one or more names. Each kind of registration
prints lines of the same form.
-/

namespace TypedModules

open StubStatement

structure Export where
  names : List String
  expression : String
  deriving DecidableEq

namespace Export

def lines (exported : Export) : List String :=
  exported.names.eraseDups.map (assignmentLine · exported.expression)

def entries (exported : Export) : List (String × String) :=
  exported.names.eraseDups.map (·, exported.expression)

theorem mem_entries_iff {exported : Export} {name expression : String} :
    (name, expression) ∈ exported.entries ↔
      name ∈ exported.names ∧ expression = exported.expression := by
  simp [entries, eq_comm]

end Export

def Inflection.exported (inflection : Inflection) : Export where
  names := [inflection.singular, inflection.plural, inflection.entity]
  expression := "csn." ++ inflection.entity

def EventRecord.exported (event : EventRecord) : Export where
  names := [event.name]
  expression := "'" ++ event.fullName ++ "'"

def Callable.exported (name : String) : Export where
  names := [name]
  expression := "'" ++ name ++ "'"

def Enumeration.exported (enumeration : Enumeration) : Export where
  names := [enumeration.name]
  expression := enumeration.objectText

namespace Contribution

def export? : Contribution → Option Export
  | inflection registered => some registered.exported
  | event name fullName => some (EventRecord.exported ⟨name, fullName⟩)
  | callable _ name _ _ => some (Callable.exported name)
  | enumeration _ declared => some declared.exported
  | _ => none

end Contribution

/-! ## The lines of a module -/

theorem assignmentLine_injective (expression : String) :
    Function.Injective (assignmentLine · expression) := by
  intro first second same
  have characters := congrArg String.toList same
  apply String.toList_injective
  unfold assignmentLine at characters
  simpa using characters

theorem exportLines_eq (inflection : Inflection) :
    inflection.exportLines = inflection.exported.lines := by
  have lines : inflection.exportLine = (assignmentLine · ("csn." ++ inflection.entity)) :=
    funext (SourceModule.exportLine_eq inflection)
  rw [Inflection.exportLines, lines,
    eraseDups_map _ fun _ _ _ _ same => assignmentLine_injective _ same]
  rfl

namespace SourceModule

def aliases (module : SourceModule) : List Export :=
  (module.inflections.mergeSort fun first second => first.depth ≤ second.depth).map
    Inflection.exported

def header (module : SourceModule) : List String :=
  [generatedNote, "const cds = require('@sap/cds')",
    "const csn = cds.entities('" ++ module.home.dotted ++ "')"]

theorem stubLines_eq (module : SourceModule) :
    module.stubLines = module.header ++ module.serviceNames.map serviceLine ++
      module.aliases.flatMap Export.lines ++
      "// events" :: (module.events.map EventRecord.exported).flatMap Export.lines ++
      "// actions" :: (module.actionNames.map Callable.exported).flatMap Export.lines ++
      "// enums" :: ((EnumerationRecord.named module.enumerations).map
        (·.declared.exported)).flatMap Export.lines := by
  have events (event : EventRecord) : event.exported.lines = [eventLine event] := by
    rw [eventLine_eq]
    rfl
  have actions (name : String) : (Callable.exported name).lines = [actionLine name] := by
    rw [actionLine_eq]
    rfl
  have enumerations (record : EnumerationRecord) :
      record.declared.exported.lines = [enumerationLine record] := by
    rw [enumerationLine_eq]
    rfl
  simp only [stubLines, aliasLines, header, aliases, List.flatMap_map, ← exportLines_eq, events,
    actions, enumerations, ← List.map_eq_flatMap]

/-- Only services replace the exports, whatever the names of other exports are. -/
theorem filter_replacesExports_stubLines (module : SourceModule) :
    module.stubLines.filter replacesExports = module.serviceNames.map serviceLine := by
  have exported (exports : List Export) :
      (exports.flatMap Export.lines).filter replacesExports = [] := by
    rw [List.filter_eq_nil_iff]
    intro line member
    rcases List.mem_flatMap.mp member with ⟨exported, -, inLines⟩
    rcases List.mem_map.mp inLines with ⟨name, -, rfl⟩
    simp [replacesExports_assignmentLine]
  have services : (module.serviceNames.map serviceLine).filter replacesExports =
      module.serviceNames.map serviceLine := by
    rw [List.filter_eq_self]
    intro line member
    rcases List.mem_map.mp member with ⟨fullName, -, rfl⟩
    rw [serviceLine_eq, replacesExports_replacementLine]
  have note : replacesExports generatedNote = false := by
    rcases exists_toList_generatedNote with ⟨rest, characters, -⟩
    unfold replacesExports replacement
    simp [characters, List.dropPrefix?]
  have header : module.header.filter replacesExports = [] := by
    rw [header, List.filter_cons_of_neg (by simp [note])]
    unfold replacesExports replacement
    simp [List.dropPrefix?]
  have comments : ∀ comment ∈ ["// events", "// actions", "// enums"],
      replacesExports comment = false := by
    unfold replacesExports replacement
    simp [List.dropPrefix?]
  simp only [List.forall_mem_cons] at comments
  rcases comments with ⟨events, actions, enumerations, -⟩
  rw [stubLines_eq]
  simp only [List.filter_append, List.filter_cons, exported, services, header, events, actions,
    enumerations, Bool.false_eq_true, if_false, List.append_nil, List.nil_append]

end SourceModule

end TypedModules
