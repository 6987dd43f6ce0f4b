import TypedModules.Proofs.Declaration.Identifier
import TypedModules.Proofs.Registry.Filling
import TypedModules.Proofs.RuntimeStub.Export
import TypedModules.Proofs.Text.Joining
import TypedModules.Text.Pieces

/-! # Loading a runtime stub

The lines of a runtime stub are executed in order on a table of exports. The line
of the service comes before all others that change the table, so it takes nothing
away.
-/

namespace TypedModules

/-! ## Executing lines -/

namespace StubStatement

def execute (table : Registry String) : StubStatement → Registry String
  | neutral => table
  | replace name expression => Registry.empty.put name expression
  | assign name expression => table.put name expression

end StubStatement

namespace RuntimeStub

open StubStatement

def executeLine? (table : Registry String) (line : String) : Option (Registry String) :=
  (read? line).map (execute table)

/-- The exports after all lines are executed, if all of them can be read. -/
def load? (stub : String) : Option (Registry String) :=
  (Text.pieces '\n' stub).foldlM executeLine? .empty

structure IsExportName (name : String) : Prop where
  unreserved : name ≠ "name"
  undotted : '.' ∉ name.toList
  connected : ' ' ∉ name.toList
  unbroken : '\n' ∉ name.toList

theorem IsExportName.of_isIdentifier {name : String}
    (identifier : MemberName.isIdentifier name.toList = true) (unbroken : '\n' ∉ name.toList)
    (unreserved : name ≠ "name") : IsExportName name := by
  have parts : ∀ character ∈ name.toList, MemberName.isPart character = true := by
    rcases MemberName.isIdentifier_iff.mp identifier with ⟨characters, isExact, same | same⟩
    · exact same ▸ isExact.isPart
    · exact absurd (by simp [same]) unbroken
  have notPart {other : Char} (isOther : MemberName.isPart other = false) : other ∉ name.toList :=
    fun member => MemberName.ne_of_isPart (parts other member) isOther rfl
  exact ⟨unreserved, notPart rfl, notPart rfl, unbroken⟩

structure Executes (lines : List String) (entries : List (String × String)) : Prop where
  unbroken : ∀ line ∈ lines, '\n' ∉ line.toList
  executed : ∀ table : Registry String,
    lines.foldlM executeLine? table = some (table.putAll entries)

namespace Executes

variable {lines : List String} {entries : List (String × String)}

theorem nil : Executes [] [] where
  unbroken := by simp
  executed _ := rfl

theorem append {furtherLines : List String} {furtherEntries : List (String × String)}
    (first : Executes lines entries) (second : Executes furtherLines furtherEntries) :
    Executes (lines ++ furtherLines) (entries ++ furtherEntries) where
  unbroken := List.forall_mem_append.mpr ⟨first.unbroken, second.unbroken⟩
  executed table := by
    rw [List.foldlM_append, first.executed, Option.bind_eq_bind, Option.bind_some, second.executed,
      Registry.putAll_append]

theorem neutral {line : String} (unbroken : '\n' ∉ line.toList)
    (neutral : isNeutral line.toList = true) : Executes [line] [] where
  unbroken := by simpa using unbroken
  executed table := by simp [executeLine?, read?_of_isNeutral neutral, execute, Registry.putAll]

theorem assignment {name expression : String} (exportable : IsExportName name)
    (unbroken : '\n' ∉ expression.toList) :
    Executes [assignmentLine name expression] [(name, expression)] where
  unbroken := by
    have nameUnbroken := exportable.unbroken
    unfold assignmentLine
    simp [nameUnbroken, unbroken]
  executed table := by
    have assigned := read?_assignmentLine exportable.undotted exportable.connected expression
    simp [executeLine?, assigned, execute, Registry.putAll]

theorem map {α : Type} {line : α → String} {entry : α → String × String} {items : List α}
    (each : ∀ item ∈ items, Executes [line item] [entry item]) :
    Executes (items.map line) (items.map entry) := by
  induction items with
  | nil => exact nil
  | cons first rest induction =>
      rw [List.forall_mem_cons] at each
      exact each.1.append (induction each.2)

theorem flatMap {α : Type} {lines : α → List String} {entries : α → List (String × String)}
    {items : List α} (each : ∀ item ∈ items, Executes (lines item) (entries item)) :
    Executes (items.flatMap lines) (items.flatMap entries) := by
  induction items with
  | nil => exact nil
  | cons first rest induction =>
      rw [List.forall_mem_cons] at each
      rw [List.flatMap_cons, List.flatMap_cons]
      exact each.1.append (induction each.2)

end Executes

structure IsLoadable (exported : Export) : Prop where
  names : ∀ name ∈ exported.names, IsExportName name
  unbroken : '\n' ∉ exported.expression.toList

theorem IsLoadable.executes {exported : Export} (loadable : IsLoadable exported) :
    Executes exported.lines exported.entries := by
  refine .map fun name member => .assignment ?_ loadable.unbroken
  exact loadable.names name (List.mem_eraseDups.mp member)

end RuntimeStub

/-! ## The stub of a module -/

namespace SourceModule

open StubStatement RuntimeStub

variable {module : SourceModule}

def serviceEntry (fullName : String) : String × String :=
  ("name", "'" ++ fullName ++ "'")

def exports (module : SourceModule) : List Export :=
  module.aliases ++ module.events.map EventRecord.exported ++
    module.actionNames.map Callable.exported ++
    (EnumerationRecord.named module.enumerations).map (·.declared.exported)

def entries (module : SourceModule) : List (String × String) :=
  module.serviceNames.map serviceEntry ++ module.exports.flatMap Export.entries

theorem mem_entries_iff {name expression : String} :
    (name, expression) ∈ module.entries ↔
      (∃ fullName ∈ module.serviceNames, name = "name" ∧ expression = "'" ++ fullName ++ "'") ∨
        ∃ exported ∈ module.exports, name ∈ exported.names ∧ expression = exported.expression := by
  simp only [entries, List.mem_append, List.mem_map, serviceEntry, Prod.mk.injEq, List.mem_flatMap,
    Export.mem_entries_iff, eq_comm]

def exportedLines (module : SourceModule) : List String :=
  module.aliases.flatMap Export.lines ++
    "// events" :: (module.events.map EventRecord.exported).flatMap Export.lines ++
    "// actions" :: (module.actionNames.map Callable.exported).flatMap Export.lines ++
    "// enums" :: ((EnumerationRecord.named module.enumerations).map
      (·.declared.exported)).flatMap Export.lines

theorem executes_comment (comment : String)
    (known : comment ∈ ["// events", "// actions", "// enums"]) : Executes [comment] [] := by
  simp only [List.mem_cons, List.not_mem_nil, or_false] at known
  rcases known with rfl | rfl | rfl <;>
    exact .neutral (by simp) (by simp [isNeutral, List.isPrefixOf])

theorem executes_header (unbroken : '\n' ∉ module.home.dotted.toList) :
    Executes module.header [] := by
  have note : Executes [generatedNote] [] := by
    rcases exists_toList_generatedNote with ⟨rest, characters, unbroken, -⟩
    exact .neutral (by simp [characters, unbroken])
      (by simp [characters, isNeutral, List.isPrefixOf])
  have framework : Executes ["const cds = require('@sap/cds')"] [] :=
    .neutral (by simp) (by simp [isNeutral, List.isPrefixOf])
  have entities : Executes ["const csn = cds.entities('" ++ module.home.dotted ++ "')"] [] :=
    .neutral (by simp [unbroken]) (by simp [isNeutral, List.isPrefixOf])
  exact note.append (framework.append entities)

theorem executes_exportedLines (loadable : ∀ exported ∈ module.exports, IsLoadable exported) :
    Executes module.exportedLines (module.exports.flatMap Export.entries) := by
  simp only [exports, List.forall_mem_append] at loadable
  rcases loadable with ⟨⟨⟨aliases, events⟩, callables⟩, enumerations⟩
  have aliasLines := Executes.flatMap fun exported member => (aliases exported member).executes
  have eventLines := Executes.flatMap fun exported member => (events exported member).executes
  have callableLines := Executes.flatMap fun exported member =>
    (callables exported member).executes
  have enumerationLines := Executes.flatMap fun exported member =>
    (enumerations exported member).executes
  have eventComment := executes_comment "// events" (by simp)
  have callableComment := executes_comment "// actions" (by simp)
  have enumerationComment := executes_comment "// enums" (by simp)
  have all := ((aliasLines.append (eventComment.append eventLines)).append
    (callableComment.append callableLines)).append (enumerationComment.append enumerationLines)
  simpa [exports, exportedLines] using all

theorem foldlM_serviceLine {serviceNames : List String} (single : serviceNames.length ≤ 1) :
    (serviceNames.map serviceLine).foldlM executeLine? .empty =
      some (Registry.empty.putAll (serviceNames.map serviceEntry)) := by
  match serviceNames with
  | [] => rfl
  | [fullName] =>
      simp [serviceLine_eq, executeLine?, read?_replacementLine, execute, Registry.putAll,
        serviceEntry]
  | _ :: _ :: _ => simp at single

/-- A stub with at most one service can be loaded, and all that it exports is there in
the end. -/
theorem exists_load?_runtimeStub (renderable : module.IsRenderable)
    (single : module.serviceNames.length ≤ 1)
    (homeUnbroken : '\n' ∉ module.home.dotted.toList)
    (serviceUnbroken : ∀ fullName ∈ module.serviceNames, '\n' ∉ fullName.toList)
    (loadable : ∀ exported ∈ module.exports, IsLoadable exported) :
    ∃ stub, module.runtimeStub = .ok stub ∧
      load? stub = some (Registry.empty.putAll module.entries) := by
  have header := executes_header homeUnbroken
  have exported := executes_exportedLines loadable
  have ending : Executes [""] [] := .neutral (by simp) rfl
  have lines : module.stubLines ++ [""] = module.header ++
      (module.serviceNames.map serviceLine ++ (module.exportedLines ++ [""])) := by
    rw [stubLines_eq, exportedLines]
    simp only [List.append_assoc]
  have unbroken : ∀ line ∈ module.stubLines ++ [""], '\n' ∉ line.toList := by
    rw [lines, List.forall_mem_append, List.forall_mem_append]
    refine ⟨header.unbroken, ?_, (exported.append ending).unbroken⟩
    intro line member
    rcases List.mem_map.mp member with ⟨fullName, named, rfl⟩
    unfold serviceLine
    simp [serviceUnbroken fullName named]
  have text : "\n".intercalate module.stubLines ++ "\n" =
      (String.singleton '\n').intercalate (module.stubLines ++ [""]) :=
    (Text.intercalate_concat_empty "\n" (by simp [stubLines])).symm
  have start : (Registry.empty : Registry String).putAll [] = .empty := rfl
  refine ⟨_, if_pos renderable, ?_⟩
  rw [load?, text, Text.pieces_intercalate unbroken (by simp), lines, List.foldlM_append,
    header.executed, Option.bind_eq_bind, Option.bind_some, start, List.foldlM_append,
    foldlM_serviceLine single, Option.bind_eq_bind, Option.bind_some,
    (exported.append ending).executed, ← Registry.putAll_append, List.append_nil, entries]

end SourceModule

end TypedModules
