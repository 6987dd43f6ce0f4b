import Mathlib.Data.List.Pairwise
import TypedModules.Proofs.RuntimeStub.Loading

/-! # Loading what was registered

When the runtime stub of a run is loaded, it exports what the run has registered.
The names have to be such that they do not get in each other's way, and nothing may
break a line.
-/

namespace TypedModules

open RuntimeStub

/-! ## Objects of enumerations -/

namespace Enumeration

theorem unbroken_objectText {enumeration : Enumeration}
    (unbroken : ∀ member ∈ enumeration.members, '\n' ∉ member.1.toList) :
    '\n' ∉ enumeration.objectText.toList := by
  have memberUnbroken : ∀ text ∈ enumeration.members.map memberText, '\n' ∉ text.toList := by
    intro text inTexts
    rcases List.mem_map.mp inTexts with ⟨⟨name, value⟩, member, rfl⟩
    have nameUnbroken : '\n' ∉ (MemberName.written name).toList := by
      have plain := unbroken (name, value) member
      rw [MemberName.written]
      split
      · exact plain
      · simpa using plain
    have valueUnbroken : '\n' ∉ value.fullLiteral.toList := fun broken =>
      absurd (Scalar.isPlainAscii_fullLiteral value _ broken) (by decide)
    simp [memberText, nameUnbroken, valueUnbroken]
  have glueUnbroken : '\n' ∉ ", ".toList := by simp
  have glued := Text.notMem_intercalate glueUnbroken memberUnbroken
  rw [objectText]
  split
  · simp
  · rename_i members found
    simpa [found] using glued

end Enumeration

/-! ## Registrations -/

def ModuleCall.export? : ModuleCall → Option Export
  | contribute contribution => contribution.export?
  | _ => none

def registeredExports (calls : List ModuleCall) : List Export :=
  calls.filterMap (·.export?)

/-- All names of a contribution can be exported, and what they stand for does not
break the line. -/
def Contribution.IsLoadable : Contribution → Prop
  | inflection registered =>
      IsExportName registered.singular ∧ IsExportName registered.plural ∧
        IsExportName registered.entity
  | event name fullName => IsExportName name ∧ '\n' ∉ fullName.toList
  | callable _ name _ _ => IsExportName name
  | enumeration _ declared =>
      IsExportName declared.name ∧ ∀ member ∈ declared.members, '\n' ∉ member.1.toList
  | service fullName => '\n' ∉ fullName.toList
  | furtherService fullName => '\n' ∉ fullName.toList
  | _ => True

theorem Contribution.IsLoadable.exported {contribution : Contribution} {exported : Export}
    (loadable : contribution.IsLoadable) (found : contribution.export? = some exported) :
    RuntimeStub.IsLoadable exported := by
  cases contribution with
  | inflection registered =>
      rcases loadable with ⟨singular, plural, entity⟩
      cases found
      exact ⟨by simp [Inflection.exported, singular, plural, entity],
        by simp [Inflection.exported, entity.unbroken]⟩
  | event name fullName =>
      rcases loadable with ⟨exportable, unbroken⟩
      cases found
      exact ⟨by simp [EventRecord.exported, exportable],
        by simp [EventRecord.exported, unbroken]⟩
  | callable kind name parameters returns =>
      cases found
      have exportable : IsExportName name := loadable
      exact ⟨by simp [Callable.exported, exportable],
        by simp [Callable.exported, exportable.unbroken]⟩
  | enumeration fullName declared =>
      rcases loadable with ⟨exportable, unbroken⟩
      cases found
      exact ⟨by simp [Enumeration.exported, exportable],
        Enumeration.unbroken_objectText unbroken⟩
  | _ => cases found

namespace SourceModule

theorem mem_exports_iff {module : SourceModule} {exported : Export} :
    exported ∈ module.exports ↔
      (∃ inflection ∈ module.inflections, inflection.exported = exported) ∨
        (∃ event ∈ module.events, event.exported = exported) ∨
        (∃ name ∈ module.actionNames, Callable.exported name = exported) ∨
        ∃ declared ∈ (EnumerationRecord.named module.enumerations).map (·.declared),
          declared.exported = exported := by
  simp [exports, aliases]

theorem mem_exports_performAll_iff {workingDirectory : String} {home : Namespace}
    {calls : List ModuleCall} {exported : Export} :
    exported ∈ (({ home } : SourceModule).performAll workingDirectory calls).1.exports ↔
      exported ∈ registeredExports calls := by
  rw [mem_exports_iff, inflections_performAll, events_performAll, actionNames_performAll,
    named_performAll, registeredExports]
  simp only [List.mem_filterMap, List.mem_map, mem_contributionsIn_iff]
  constructor
  · rintro (⟨inflection, ⟨contribution, ⟨called, -⟩, found⟩, rfl⟩ |
      ⟨event, ⟨contribution, ⟨called, -⟩, found⟩, rfl⟩ |
      ⟨name, ⟨callable, ⟨contribution, ⟨called, -⟩, found⟩, rfl⟩, rfl⟩ |
      ⟨declared, ⟨contribution, ⟨called, -⟩, found⟩, rfl⟩) <;>
    cases contribution <;> cases found <;> exact ⟨_, called, rfl⟩
  · rintro ⟨call, called, found⟩
    cases call with
    | contribute contribution =>
        cases contribution with
        | inflection registered =>
            exact .inl ⟨registered, ⟨_, ⟨called, rfl⟩, rfl⟩, Option.some.inj found⟩
        | event name fullName =>
            exact .inr (.inl ⟨⟨name, fullName⟩, ⟨_, ⟨called, rfl⟩, rfl⟩, Option.some.inj found⟩)
        | callable kind name parameters returns =>
            exact .inr (.inr (.inl ⟨name, ⟨⟨kind, name, parameters, returns⟩,
              ⟨_, ⟨called, rfl⟩, rfl⟩, rfl⟩, Option.some.inj found⟩))
        | enumeration fullName declared =>
            exact .inr (.inr (.inr ⟨declared, ⟨_, ⟨called, rfl⟩, rfl⟩, Option.some.inj found⟩))
        | _ => cases found
    | _ => cases found

private theorem eq_of_mem_of_single {texts : List String} (single : texts.length ≤ 1)
    {first second : String} (inFirst : first ∈ texts) (inSecond : second ∈ texts) :
    first = second := by
  match texts with
  | [] => cases inFirst
  | [only] => rw [List.mem_singleton.mp inFirst, List.mem_singleton.mp inSecond]
  | _ :: _ :: _ => simp at single

/-- Entries of the stub under one name agree, as only one registration has it. -/
theorem entries_consistent {module : SourceModule} (single : module.serviceNames.length ≤ 1)
    (unreserved : ∀ exported ∈ module.exports, "name" ∉ exported.names)
    (apart : ∀ first ∈ module.exports, ∀ second ∈ module.exports, first ≠ second →
      first.names.Disjoint second.names)
    (name first second : String) (inFirst : (name, first) ∈ module.entries)
    (inSecond : (name, second) ∈ module.entries) : first = second := by
  rcases mem_entries_iff.mp inFirst with ⟨fullName, named, rfl, rfl⟩ | ⟨exported, listed, has, rfl⟩
  · rcases mem_entries_iff.mp inSecond with ⟨other, otherNamed, -, rfl⟩ | ⟨other, listed, has, -⟩
    · rw [eq_of_mem_of_single single named otherNamed]
    · exact absurd has (unreserved other listed)
  · rcases mem_entries_iff.mp inSecond with ⟨-, -, rfl, -⟩ | ⟨other, otherListed, otherHas, rfl⟩
    · exact absurd has (unreserved exported listed)
    · by_contra differ
      have different : exported ≠ other := fun same => differ (same ▸ rfl)
      exact apart exported listed other otherListed different has otherHas

section Runs

variable {workingDirectory : String} {home : Namespace} {calls : List ModuleCall}

theorem exports_isLoadable_performAll
    (loadable : ∀ contribution, .contribute contribution ∈ calls → contribution.IsLoadable) :
    ∀ exported ∈ (({ home } : SourceModule).performAll workingDirectory calls).1.exports,
      RuntimeStub.IsLoadable exported := by
  intro exported member
  rcases List.mem_filterMap.mp (mem_exports_performAll_iff.mp member) with ⟨call, called, found⟩
  cases call with
  | contribute contribution => exact (loadable contribution called).exported found
  | _ => cases found

theorem exports_apart_performAll
    (distinct : (registeredExports calls).Pairwise fun first second =>
      first.names.Disjoint second.names) :
    let final := (({ home } : SourceModule).performAll workingDirectory calls).1
    ∀ first ∈ final.exports, ∀ second ∈ final.exports, first ≠ second →
      first.names.Disjoint second.names := by
  intro final first inFirst second inSecond
  have symmetric : Std.Symm fun first second : Export => first.names.Disjoint second.names :=
    ⟨fun _ _ disjoint => List.disjoint_symm disjoint⟩
  exact distinct.forall (mem_exports_performAll_iff.mp inFirst)
    (mem_exports_performAll_iff.mp inSecond)

theorem mem_serviceNames_performAll_iff
    (single : (({ home } : SourceModule).performAll workingDirectory calls).1.serviceNames.length ≤
      1) {fullName : String} :
    fullName ∈ (({ home } : SourceModule).performAll workingDirectory calls).1.serviceNames ↔
      (addedServices calls).head? = some fullName := by
  rw [serviceNames_performAll single, Option.mem_toList]

theorem isRenderable_performAll_iff :
    (({ home } : SourceModule).performAll workingDirectory calls).1.IsRenderable ↔
      ∀ fullName declared, .contribute (.enumeration fullName declared) ∈ calls →
        declared.IsRenderable := by
  rw [isRenderable_iff, named_performAll]
  constructor
  · intro renderable fullName declared called
    exact renderable declared
      (List.mem_filterMap.mpr ⟨_, mem_contributionsIn_iff.mpr ⟨called, rfl⟩, rfl⟩)
  · intro renderable declared isNamed
    rcases List.mem_filterMap.mp isNamed with ⟨contribution, inRun, found⟩
    cases contribution with
    | enumeration fullName other =>
        cases found
        exact renderable fullName declared (mem_contributionsIn_iff.mp inRun).1
    | _ => cases found

end Runs

/-- As long as the values of all named enumerations have literals, the runtime stub of a
run can be loaded, and then exactly what the run registered is exported: the service under
the fixed name, and everything else under its own names. Otherwise there is no stub. -/
theorem runtimeStub_exports_registered (workingDirectory : String) (home : Namespace)
    (calls : List ModuleCall)
    (single : (({ home } : SourceModule).performAll workingDirectory calls).1.serviceNames.length ≤
      1)
    (homeUnbroken : '\n' ∉ home.dotted.toList)
    (loadable : ∀ contribution, .contribute contribution ∈ calls → contribution.IsLoadable)
    (distinct : (registeredExports calls).Pairwise fun first second =>
      first.names.Disjoint second.names) :
    let final := (({ home } : SourceModule).performAll workingDirectory calls).1
    ((∀ fullName declared, .contribute (.enumeration fullName declared) ∈ calls →
        declared.IsRenderable) →
      ∃ stub table, final.runtimeStub = .ok stub ∧ load? stub = some table ∧
        ∀ name expression, table.find? name = some expression ↔
          (∃ fullName, (addedServices calls).head? = some fullName ∧ name = "name" ∧
            expression = "'" ++ fullName ++ "'") ∨
          ∃ exported ∈ registeredExports calls,
            name ∈ exported.names ∧ expression = exported.expression) ∧
    ((∃ fullName declared, .contribute (.enumeration fullName declared) ∈ calls ∧
        ¬declared.IsRenderable) →
      final.runtimeStub = .error .tooManyDigits) := by
  intro final
  have located : final.home = home := home_performAll workingDirectory calls { home }
  have finalUnbroken : '\n' ∉ final.home.dotted.toList := by rwa [located]
  have serviceUnbroken : ∀ fullName ∈ final.serviceNames, '\n' ∉ fullName.toList := by
    intro fullName named
    have added := List.mem_of_mem_head? ((mem_serviceNames_performAll_iff single).mp named)
    rcases mem_addedServices_iff.mp added with called | called
    · exact loadable _ called
    · exact loadable _ called
  have readable : ∀ exported ∈ final.exports, RuntimeStub.IsLoadable exported :=
    exports_isLoadable_performAll loadable
  have unreserved : ∀ exported ∈ final.exports, "name" ∉ exported.names :=
    fun exported member has => ((readable exported member).names _ has).unreserved rfl
  have consistent := entries_consistent single unreserved (exports_apart_performAll distinct)
  constructor
  · intro renderable
    rcases exists_load?_runtimeStub (isRenderable_performAll_iff.mpr renderable) single
      finalUnbroken serviceUnbroken readable with ⟨stub, given, loaded⟩
    refine ⟨stub, _, given, loaded, fun name expression => ?_⟩
    rw [Registry.find?_putAll_empty_eq_some_iff consistent, mem_entries_iff]
    exact or_congr
      (exists_congr fun fullName => and_congr_left fun _ => mem_serviceNames_performAll_iff single)
      (exists_congr fun exported => and_congr_left fun _ => mem_exports_performAll_iff)
  · rintro ⟨fullName, declared, called, unrenderable⟩
    have unwritable : ¬final.IsRenderable := fun all =>
      unrenderable (isRenderable_performAll_iff.mp all fullName declared called)
    exact if_neg unwritable

/-- The service is registered last, but nothing is lost to it. -/
theorem runtimeStub_exports_registered_of_shop :
    let calls : List ModuleCall :=
      [.contribute (.event "ordered" "shop.ordered"),
        .contribute (.inflection ⟨"Book", "Books", "Books"⟩),
        .contribute (.enumeration "shop.State" ⟨"State", [("open", .integer 1)]⟩),
        .contribute (.callable .action "order" [⟨"id", "string"⟩] "any"),
        .contribute (.service "shop.S"), .contribute (.service "shop.T")]
    let final := (({ home := ⟨["shop"], by decide⟩ } : SourceModule).performAll "/" calls).1
    final.serviceNames.length ≤ 1 ∧ '\n' ∉ final.home.dotted.toList ∧
      (∀ contribution, .contribute contribution ∈ calls → contribution.IsLoadable) ∧
      ((registeredExports calls).Pairwise fun first second =>
        first.names.Disjoint second.names) ∧
      (∀ fullName declared, .contribute (.enumeration fullName declared) ∈ calls →
        declared.IsRenderable) ∧
      ∃ stub table, final.runtimeStub = .ok stub ∧ load? stub = some table ∧
        table.find? "name" = some "'shop.S'" ∧ table.find? "Book" = some "csn.Books" ∧
        table.find? "ordered" = some "'shop.ordered'" ∧ table.find? "order" = some "'order'" ∧
        table.find? "State" = some "\x7b open: 1 \x7d" ∧ table.find? "shop" = none := by
  intro calls final
  have single : final.serviceNames.length ≤ 1 := by decide
  have homeUnbroken : '\n' ∉ (⟨["shop"], by decide⟩ : Namespace).dotted.toList := by decide
  have exportable : ∀ name ∈ ["ordered", "Book", "Books", "State", "order"],
      IsExportName name := by
    simp only [List.forall_mem_cons]
    refine ⟨?_, ?_, ?_, ?_, ?_, by simp⟩ <;> exact .of_isIdentifier (by decide) (by simp) (by simp)
  simp only [List.forall_mem_cons] at exportable
  rcases exportable with ⟨ordered, book, books, state, order, -⟩
  have loadable : ∀ contribution, .contribute contribution ∈ calls → contribution.IsLoadable := by
    simp [calls, Contribution.IsLoadable, *]
  have registered : registeredExports calls =
      [⟨["ordered"], "'shop.ordered'"⟩, ⟨["Book", "Books", "Books"], "csn.Books"⟩,
        ⟨["State"], "\x7b open: 1 \x7d"⟩, ⟨["order"], "'order'"⟩] := by decide
  have service : (addedServices calls).head? = some "shop.S" := rfl
  have distinct : (registeredExports calls).Pairwise fun first second =>
      first.names.Disjoint second.names := by
    simp [registered, List.disjoint_left]
  have renderable : ∀ fullName declared, .contribute (.enumeration fullName declared) ∈ calls →
      declared.IsRenderable := by
    have written : final.IsRenderable := by decide
    exact isRenderable_performAll_iff.mp written
  rcases (runtimeStub_exports_registered "/" ⟨["shop"], by decide⟩ calls single homeUnbroken
    loadable distinct).1 renderable with ⟨stub, table, given, loaded, exports⟩
  have unknown : table.find? "shop" = none := by
    rw [Option.eq_none_iff_forall_ne_some]
    intro expression found
    simp [exports, registered] at found
  refine ⟨single, homeUnbroken, loadable, distinct, renderable, stub, table, given, loaded, ?_, ?_,
    ?_, ?_, ?_, unknown⟩ <;>
    simp [exports, registered, service]

/-- With a value that has no literal there is nothing to load, however well the names are
chosen. -/
theorem no_runtimeStub_of_powerOfTen :
    let endless : Enumeration := ⟨"Big", [("a", .integer (10 ^ Scalar.digitLimit))]⟩
    let calls : List ModuleCall := [.contribute (.enumeration "shop.Big" endless)]
    let final := (({ home := ⟨["shop"], by decide⟩ } : SourceModule).performAll "/" calls).1
    (final.serviceNames.length ≤ 1 ∧ '\n' ∉ final.home.dotted.toList ∧
        (∀ contribution, .contribute contribution ∈ calls → contribution.IsLoadable) ∧
        (registeredExports calls).Pairwise fun first second =>
          first.names.Disjoint second.names) ∧
      final.runtimeStub = .error .tooManyDigits := by
  intro endless calls final
  have big : IsExportName "Big" := .of_isIdentifier (by decide) (by simp) (by simp)
  have loadable : ∀ contribution, .contribute contribution ∈ calls → contribution.IsLoadable := by
    simp [calls, endless, Contribution.IsLoadable, big]
  have called : .contribute (.enumeration "shop.Big" endless) ∈ calls := List.mem_cons_self
  have unwritable : ¬final.IsRenderable := fun all =>
    Scalar.not_isRenderable_powerOfTen
      (isRenderable_performAll_iff.mp all _ _ called ("a", _) List.mem_cons_self)
  refine ⟨⟨Nat.zero_le 1, by decide, loadable, List.pairwise_singleton _ _⟩, if_neg unwritable⟩

end SourceModule

end TypedModules
