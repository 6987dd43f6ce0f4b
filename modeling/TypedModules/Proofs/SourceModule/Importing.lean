import TypedModules.Proofs.Namespace.Specifier
import TypedModules.Proofs.Registry.Comparison
import TypedModules.Proofs.SourceModule.Run

/-! # The table of imports

A module keeps one entry for every namespace that it imports, under the specifier
of the namespace. As a specifier tells the namespace it leads to, the entries are
the distinct namespaces in the order of their first import.
-/

namespace TypedModules

def Contribution.imported? : Contribution → Option Namespace
  | importOf imported => some imported
  | _ => none

def importedBy (calls : List ModuleCall) : List Namespace :=
  (contributionsIn .imports calls).filterMap (·.imported?)

theorem mem_importedBy_iff {calls : List ModuleCall} {imported : Namespace} :
    imported ∈ importedBy calls ↔ .contribute (.importOf imported) ∈ calls := by
  simp only [importedBy, List.mem_filterMap, mem_contributionsIn_iff]
  constructor
  · rintro ⟨contribution, ⟨called, -⟩, found⟩
    cases contribution with
    | importOf other =>
        cases found
        exact called
    | _ => cases found
  · intro called
    exact ⟨.importOf imported, ⟨called, rfl⟩, rfl⟩

theorem forall_importedBy_iff {calls : List ModuleCall} {Holds : Namespace → Prop} :
    (∀ imported ∈ importedBy calls, Holds imported) ↔
      ∀ imported, .contribute (.importOf imported) ∈ calls → Holds imported := by
  simp only [mem_importedBy_iff]

namespace Namespace

variable {source target other : Namespace}

theorem eq_of_segments_eq (same : source.segments = target.segments) : source = target := by
  cases source
  cases target
  simpa using same

theorem routeSpecifier_inj (sourceDotted : source.IsDotted) (targetProper : target.IsProper)
    (otherProper : other.IsProper) :
    source.routeSpecifier target = source.routeSpecifier other ↔ target = other := by
  constructor
  · intro same
    have names := named_eq_of_routeSpecifier_eq sourceDotted targetProper.isDotted
      otherProper.isDotted same
    rw [targetProper.named_eq, otherProper.named_eq] at names
    exact eq_of_segments_eq names
  · rintro rfl
    rfl

theorem routeSpecifier_self (source : Namespace) : source.routeSpecifier source = "./" := by
  rw [routeSpecifier, Directory.route_self]
  rfl

theorem routeSpecifier_eq_here_iff (sourceDotted : source.IsDotted)
    (targetProper : target.IsProper) :
    source.routeSpecifier target = "./" ↔ target.segments = source.named := by
  constructor
  · intro here
    rw [← source.routeSpecifier_self] at here
    have names := named_eq_of_routeSpecifier_eq sourceDotted targetProper.isDotted sourceDotted here
    rwa [targetProper.named_eq] at names
  · intro own
    rw [← source.routeSpecifier_self, routeSpecifier, routeSpecifier, targetProper.named_eq, own]

end Namespace

namespace SourceModule

variable {workingDirectory : String} {home : Namespace} {module other : SourceModule}

def importEntries (home : Namespace) (imported : List Namespace) : List (String × Namespace) :=
  imported.eraseDups.map fun target => (home.routeSpecifier target, target)

theorem importEntries_append_known {imported : List Namespace} {target : Namespace}
    (known : target ∈ imported) :
    importEntries home (imported ++ [target]) = importEntries home imported := by
  rw [importEntries, List.eraseDups_append]
  simp [List.removeAll, known, importEntries]

theorem importEntries_append_new {imported : List Namespace} {target : Namespace}
    (new : target ∉ imported) :
    importEntries home (imported ++ [target]) =
      importEntries home imported ++ [(home.routeSpecifier target, target)] := by
  rw [importEntries, List.eraseDups_append]
  simp [List.removeAll, new, importEntries, List.eraseDups_cons]

def HasImported (home : Namespace) (module : SourceModule) (past : List Contribution) : Prop :=
  module.home = home ∧
    module.imports.entries = importEntries home (past.filterMap (·.imported?)) ∧
      ∀ imported ∈ past.filterMap (·.imported?), imported.IsProper

theorem HasImported.congr {past : List Contribution} (agree : AgreesOn .imports module other)
    (held : HasImported home other past) : HasImported home module past := by
  rw [HasImported, agree.home, agree.imports rfl]
  exact held

theorem HasImported.mem_keys_iff {past : List Contribution} {target : Namespace}
    (held : HasImported home module past) (homeDotted : home.IsDotted)
    (targetProper : target.IsProper) :
    home.routeSpecifier target ∈ module.imports.keys ↔
      target ∈ past.filterMap (·.imported?) := by
  rcases held with ⟨-, entries, proper⟩
  rw [Registry.keys, entries, importEntries, List.map_map, List.mem_map]
  constructor
  · rintro ⟨imported, member, same⟩
    rw [List.mem_eraseDups] at member
    have isTarget : imported = target :=
      (Namespace.routeSpecifier_inj homeDotted (proper imported member) targetProper).mp same
    rwa [← isTarget]
  · intro member
    exact ⟨target, List.mem_eraseDups.mpr member, rfl⟩

theorem contribute_importOf_of_isProper (homeDotted : module.home.IsDotted) {target : Namespace}
    (targetProper : target.IsProper) (rooted : Directory.isAbsolute workingDirectory = true) :
    module.contribute workingDirectory (.importOf target) =
      ⟨{ module with
          imports :=
            if module.home.routeSpecifier target ∈ module.imports.keys then module.imports
            else module.imports.put (module.home.routeSpecifier target) target },
        .ok none⟩ := by
  rw [contribute_importOf, Namespace.specifier_eq_routeSpecifier homeDotted targetProper.isDotted
    targetProper.path_ne_empty rooted]

theorem HasImported.step {past : List Contribution} {target : Namespace}
    (homeDotted : home.IsDotted) (rooted : Directory.isAbsolute workingDirectory = true)
    (targetProper : target.IsProper) (held : HasImported home module past) :
    HasImported home (module.contribute workingDirectory (.importOf target)).state
      (past ++ [.importOf target]) := by
  have known := held.mem_keys_iff homeDotted targetProper
  rcases held with ⟨rfl, entries, proper⟩
  have added : (past ++ [Contribution.importOf target]).filterMap (·.imported?) =
      past.filterMap (·.imported?) ++ [target] := List.filterMap_append
  rw [contribute_importOf_of_isProper homeDotted targetProper rooted, HasImported, added]
  refine ⟨rfl, ?_, ?_⟩
  · by_cases before : target ∈ past.filterMap (·.imported?)
    · simp only [if_pos (known.mpr before)]
      rw [importEntries_append_known before, entries]
    · have new := mt known.mp before
      simp only [if_neg new]
      rw [Registry.entries_put_of_new new, importEntries_append_new before, entries]
  · intro imported member
    rcases List.mem_append.mp member with inPast | isTarget
    · exact proper imported inPast
    · rw [List.mem_singleton.mp isTarget]
      exact targetProper

theorem hasImported_performAll (homeDotted : home.IsDotted)
    (rooted : Directory.isAbsolute workingDirectory = true) {calls : List ModuleCall}
    (proper : ∀ imported ∈ importedBy calls, imported.IsProper) :
    HasImported home (({ home } : SourceModule).performAll workingDirectory calls).1
      (contributionsIn .imports calls) := by
  have allowed : ∀ contribution ∈ contributionsIn .imports calls,
      ∃ imported, contribution = .importOf imported ∧ imported.IsProper := by
    intro contribution member
    rcases mem_contributionsIn_iff.mp member with ⟨called, concerned⟩
    cases contribution with
    | importOf imported => exact ⟨imported, rfl, proper imported (mem_importedBy_iff.mpr called)⟩
    | write label call => cases label <;> cases concerned
    | _ => cases concerned
  have start : HasImported home { home } [] := ⟨rfl, rfl, by simp⟩
  refine performAll_induction workingDirectory (by decide) (HasImported home) HasImported.congr ?_
    calls allowed start
  rintro module past _ ⟨imported, rfl, importedProper⟩ held
  exact held.step homeDotted rooted importedProper

/-- A module imports every namespace once, in the order of first import and under its
own identifier and directory, apart from the namespace it has itself. No two specifiers
are the same, and importing a namespace again changes nothing. -/
theorem importLines_exact (workingDirectory : String) (home : Namespace) (calls : List ModuleCall)
    (rooted : Directory.isAbsolute workingDirectory = true) (homeDotted : home.IsDotted)
    (proper : ∀ imported, .contribute (.importOf imported) ∈ calls → imported.IsProper) :
    let final := (({ home } : SourceModule).performAll workingDirectory calls).1
    let others := (importedBy calls).eraseDups.filter (·.segments ≠ home.named)
    (home.IsProper → others = (importedBy calls).eraseDups.filter (· ≠ home)) ∧
      (∀ imported ∈ importedBy calls,
        imported.specifier workingDirectory home.localDirectory =
          .ok (home.routeSpecifier imported)) ∧
      final.importLines = others.map (fun imported =>
        "import * as " ++ imported.identifier ++ " from '" ++ home.routeSpecifier imported ++
          "';") ∧
      (others.map home.routeSpecifier).Nodup ∧
      "./" ∉ others.map home.routeSpecifier ∧
      ∀ imported ∈ importedBy calls,
        final.contribute workingDirectory (.importOf imported) = ⟨final, .ok none⟩ := by
  intro final others
  have allProper : ∀ imported ∈ importedBy calls, imported.IsProper :=
    forall_importedBy_iff.mpr proper
  have held : HasImported home final (contributionsIn .imports calls) :=
    hasImported_performAll homeDotted rooted allProper
  have located : final.home = home := held.1
  have entries : final.imports.entries = importEntries home (importedBy calls) := held.2.1
  have fromHome : ∀ imported ∈ importedBy calls,
      (home.routeSpecifier imported = "./" ↔ imported.segments = home.named) :=
    fun imported member => Namespace.routeSpecifier_eq_here_iff homeDotted
      (allProper imported member)
  have shown : final.imports.entries.filter (fun entry => entry.1 ≠ "./") =
      others.map fun imported => (home.routeSpecifier imported, imported) := by
    rw [entries, importEntries, List.filter_map]
    congr 1
    apply List.filter_congr
    intro imported member
    simp [fromHome imported (List.mem_eraseDups.mp member)]
  have distinct : (others.map home.routeSpecifier).Nodup := by
    have keys := final.imports.distinct.sublist
      ((List.filter_sublist (p := fun entry => entry.1 ≠ "./")).map Prod.fst)
    rw [shown, List.map_map] at keys
    exact keys
  refine ⟨?_, ?_, ?_, distinct, ?_, ?_⟩
  · intro homeProper
    apply List.filter_congr
    intro imported _
    have own : imported.segments = home.named ↔ imported = home := by
      rw [homeProper.named_eq]
      exact ⟨Namespace.eq_of_segments_eq, congrArg Namespace.segments⟩
    simp [own]
  · intro imported member
    exact Namespace.specifier_eq_routeSpecifier homeDotted (allProper imported member).isDotted
      (allProper imported member).path_ne_empty rooted
  · rw [importLines, shown, List.map_map]
    rfl
  · intro here
    rcases List.mem_map.mp here with ⟨imported, member, isHere⟩
    rw [List.mem_filter, List.mem_eraseDups] at member
    have own := (fromHome imported member.1).mp isHere
    simp [own] at member
  · intro imported member
    have known := (held.mem_keys_iff homeDotted (allProper imported member)).mpr member
    rw [contribute_importOf_of_isProper (located ▸ homeDotted) (allProper imported member) rooted,
      located, if_pos known, ← located]

/-- A module that is nested in others, among its imports the outer ones and itself. -/
theorem importLines_exact_of_nested :
    let home : Namespace := ⟨["shop", "books"], by decide⟩
    let importOf (imported : Namespace) : ModuleCall := .contribute (.importOf imported)
    let calls : List ModuleCall :=
      [importOf ⟨["_"], by decide⟩, importOf ⟨["shop", "books"], by decide⟩,
        importOf ⟨["shop"], by decide⟩, .typeDefinitions, importOf ⟨["_"], by decide⟩,
        importOf ⟨["shop", "books", "detail"], by decide⟩, importOf ⟨[], by decide⟩]
    Directory.isAbsolute "/work" = true ∧ home.IsDotted ∧
      (∀ imported, .contribute (.importOf imported) ∈ calls → imported.IsProper) ∧
      (({ home } : SourceModule).performAll "/work" calls).1.importLines =
        ["import * as __ from './../../_';", "import * as _shop from './..';",
          "import * as _shop_books_detail from './detail';", "import * as _ from './../..';"] := by
  intro home importOf calls
  have rooted : Directory.isAbsolute "/work" = true := by decide
  have homeDotted : home.IsDotted := by decide
  have proper : ∀ imported, .contribute (.importOf imported) ∈ calls → imported.IsProper :=
    forall_importedBy_iff.mp (by decide)
  rcases importLines_exact "/work" home calls rooted homeDotted proper with
    ⟨-, -, lines, -, -, -⟩
  refine ⟨rooted, homeDotted, proper, ?_⟩
  rw [lines]
  decide

/-- A module with an empty segment lies in the directory of another one, which it takes for
itself. -/
theorem importLines_eq_nil_of_empty_segment :
    let home : Namespace := ⟨["a", "", "b"], by decide⟩
    let imported : Namespace := ⟨["a", "b"], by decide⟩
    let calls : List ModuleCall := [.contribute (.importOf imported)]
    Namespace.ofDotted "a..b" = .ok home ∧ Namespace.ofDotted "a.b" = .ok imported ∧
      imported.IsProper ∧ (importedBy calls).eraseDups.filter (· ≠ home) = [imported] ∧
      imported.specifier "/work" home.localDirectory = .ok "./" ∧
      (({ home } : SourceModule).performAll "/work" calls).1.importLines = [] := by
  decide +kernel

end SourceModule

end TypedModules
