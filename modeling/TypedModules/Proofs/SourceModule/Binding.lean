import Mathlib.Data.List.Nodup
import TypedModules.Proofs.SourceModule.Importing

/-! # Names that imports bind

An import binds the identifier of a namespace, which joins its segments with
underscores. As segments may hold underscores themselves, an identifier tells the
words between underscores, and not how segments are made up of them.
-/

namespace TypedModules

namespace Namespace

variable {first second : Namespace}

def words (module : Namespace) : List String :=
  module.segments.flatMap (Text.pieces '_')

theorem pieces_intercalate_eq_flatMap {segments : List String} (nonempty : segments ≠ []) :
    Text.pieces '_' ("_".intercalate segments) = segments.flatMap (Text.pieces '_') := by
  induction segments with
  | nil => exact absurd rfl nonempty
  | cons segment rest induction =>
      cases rest with
      | nil => simp
      | cons next others =>
          have cut := Text.pieces_append '_' segment ("_".intercalate (next :: others))
          rw [induction (List.cons_ne_nil next others)] at cut
          rw [String.intercalate_cons_cons, List.flatMap_cons]
          exact cut

theorem words_eq_nil_iff : first.words = [] ↔ first.segments = [] := by
  cases segments : first.segments with
  | nil => simp [words, segments]
  | cons segment rest => simp [words, segments, Text.pieces_ne_nil]

theorem intercalate_segments_eq_empty_iff (proper : first.IsProper) :
    "_".intercalate first.segments = "" ↔ first.segments = [] := by
  constructor
  · intro empty
    cases segments : first.segments with
    | nil => rfl
    | cons segment rest =>
        have named := (proper segment (segments ▸ List.mem_cons_self)).1
        rw [segments] at empty
        cases rest with
        | nil => exact absurd (by simpa using empty) named
        | cons next others =>
            rw [String.intercalate_cons_cons, String.append_eq_empty_iff,
              String.append_eq_empty_iff] at empty
            exact absurd empty.1.1 named
  · intro none
    rw [none]
    rfl

theorem identifier_eq_iff (firstProper : first.IsProper) (secondProper : second.IsProper) :
    first.identifier = second.identifier ↔ first.words = second.words := by
  have joined : first.identifier = second.identifier ↔
      "_".intercalate first.segments = "_".intercalate second.segments := by
    simp [identifier]
  rw [joined]
  by_cases firstEmpty : first.segments = []
  · rw [(intercalate_segments_eq_empty_iff firstProper).mpr firstEmpty,
      words_eq_nil_iff.mpr firstEmpty, eq_comm, intercalate_segments_eq_empty_iff secondProper,
      eq_comm (a := []), words_eq_nil_iff]
  · by_cases secondEmpty : second.segments = []
    · rw [(intercalate_segments_eq_empty_iff secondProper).mpr secondEmpty,
        words_eq_nil_iff.mpr secondEmpty, intercalate_segments_eq_empty_iff firstProper,
        words_eq_nil_iff]
    · rw [words, words, ← pieces_intercalate_eq_flatMap firstEmpty,
        ← pieces_intercalate_eq_flatMap secondEmpty]
      constructor
      · exact congrArg (Text.pieces '_')
      · intro same
        calc
          "_".intercalate first.segments
          _ = "_".intercalate (Text.pieces '_' ("_".intercalate first.segments)) :=
            (Text.intercalate_pieces '_' _).symm
          _ = "_".intercalate second.segments := by
            rw [same]
            exact Text.intercalate_pieces '_' _

theorem words_eq_segments (plain : ∀ segment ∈ first.segments, '_' ∉ segment.toList) :
    first.words = first.segments := by
  have single : ∀ segment ∈ first.segments, Text.pieces '_' segment = [segment] := by
    intro segment member
    have free : ∀ text ∈ [segment], '_' ∉ text.toList := by simpa using plain segment member
    simpa using Text.pieces_intercalate free (List.cons_ne_nil segment [])
  rw [words, List.flatMap_congr single]
  simp

end Namespace

namespace SourceModule

open Namespace

/-- Imports bind their identifiers, and these are distinct exactly if no two of the
namespaces have the same words. So they are as long as no segment holds an underscore. -/
theorem identifiers_nodup_iff (workingDirectory : String) (home : Namespace)
    (calls : List ModuleCall) (rooted : Directory.isAbsolute workingDirectory = true)
    (homeDotted : home.IsDotted)
    (proper : ∀ imported, .contribute (.importOf imported) ∈ calls → imported.IsProper) :
    let final := (({ home } : SourceModule).performAll workingDirectory calls).1
    let others := (importedBy calls).eraseDups.filter (home.routeSpecifier · ≠ "./")
    final.importLines =
        others.map (fun imported => importLine (home.routeSpecifier imported) imported) ∧
      ((others.map identifier).Nodup ↔
        ∀ first ∈ others, ∀ second ∈ others, first.words = second.words → first = second) ∧
      ((∀ imported ∈ others, ∀ segment ∈ imported.segments, '_' ∉ segment.toList) →
        (others.map identifier).Nodup) := by
  intro final others
  have allProper : ∀ imported ∈ importedBy calls, imported.IsProper :=
    forall_importedBy_iff.mpr proper
  have otherProper : ∀ imported ∈ others, imported.IsProper := fun imported member =>
    allProper imported (List.mem_eraseDups.mp (List.mem_of_mem_filter member))
  have held : HasImported home final (contributionsIn .imports calls) :=
    hasImported_performAll homeDotted rooted allProper
  have entries : final.imports.entries = importEntries home (importedBy calls) := held.2.1
  have othersDistinct : others.Nodup := by
    have keys := final.imports.distinct
    rw [entries, importEntries] at keys
    exact ((keys.of_map _).of_map _).filter _
  have exact : (others.map identifier).Nodup ↔
      ∀ first ∈ others, ∀ second ∈ others, first.words = second.words → first = second := by
    rw [List.nodup_map_iff_inj_on othersDistinct]
    refine forall₄_congr fun first firstMember second secondMember => ?_
    rw [identifier_eq_iff (otherProper first firstMember) (otherProper second secondMember)]
  refine ⟨?_, exact, ?_⟩
  · rw [importLines, entries, importEntries, List.filter_map, List.map_map]
    rfl
  · intro plain
    rw [exact]
    intro first firstMember second secondMember same
    rw [words_eq_segments (plain first firstMember),
      words_eq_segments (plain second secondMember)] at same
    exact eq_of_segments_eq same

/-- Among the imports of a shop, underscores do no harm where the words differ. -/
theorem identifiers_nodup_iff_of_shop :
    let home : Namespace := ⟨["shop"], by decide⟩
    let importOf (imported : Namespace) : ModuleCall := .contribute (.importOf imported)
    let calls : List ModuleCall :=
      [importOf ⟨["order_items"], by decide⟩, importOf ⟨["order", "notes"], by decide⟩,
        importOf ⟨["shop"], by decide⟩, .typeDefinitions, importOf ⟨["_"], by decide⟩,
        importOf ⟨[], by decide⟩]
    let others := (importedBy calls).eraseDups.filter (home.routeSpecifier · ≠ "./")
    Directory.isAbsolute "/work" = true ∧ home.IsDotted ∧
      (∀ imported, .contribute (.importOf imported) ∈ calls → imported.IsProper) ∧
      others.map identifier = ["_order_items", "_order_notes", "__", "_"] ∧
      (others.map identifier).Nodup := by
  intro home importOf calls others
  have rooted : Directory.isAbsolute "/work" = true := by decide
  have homeDotted : home.IsDotted := by decide
  have proper : ∀ imported, .contribute (.importOf imported) ∈ calls → imported.IsProper :=
    forall_importedBy_iff.mp (by decide)
  refine ⟨rooted, homeDotted, proper, by decide, ?_⟩
  rw [(identifiers_nodup_iff "/work" home calls rooted homeDotted proper).2.1]
  decide

/-- A segment with an underscore and two segments without one bind the same name. -/
theorem not_nodup_identifiers_of_underscore :
    let home : Namespace := ⟨["shop"], by decide⟩
    let nested : Namespace := ⟨["a", "b"], by decide⟩
    let flat : Namespace := ⟨["a_b"], by decide⟩
    let calls : List ModuleCall :=
      [.contribute (.importOf nested), .contribute (.importOf flat)]
    Namespace.ofDotted "a.b" = .ok nested ∧ Namespace.ofDotted "a_b" = .ok flat ∧
      (∀ imported ∈ [nested, flat], ∀ segment ∈ imported.segments,
        MemberName.isIdentifier segment.toList = true) ∧
      (({ home } : SourceModule).performAll "/work" calls).1.importLines =
        ["import * as _a_b from './../a/b';", "import * as _a_b from './../a_b';"] ∧
      ¬([nested, flat].map identifier).Nodup := by
  decide +kernel

end SourceModule

end TypedModules
