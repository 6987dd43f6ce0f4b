import TypedModules.Proofs.Library.Collecting
import TypedModules.Proofs.Pattern.Itself

/-! # Paths that are taken literally

The path of a directory is taken as it is. The path of a file is read as a pattern, and so it
only leads to this file if it stands for itself, both where files are asked for and where
they are excluded.
-/

namespace TypedModules.Library.Search

open FileTree Directory Pattern

variable {search : Search} {tree : FileTree} {content : ByteArray} {text : String}

theorem mem_matched_self_iff
    (isFile : tree.find? (append search.root text) = some (.file content)) :
    append search.root text ∈ search.matched tree text ↔
      StandsForItself search.recursive (append search.root text) :=
  mem_expand_self_iff ⟨tree, search.recursive⟩ isFile

theorem mem_found_self_iff
    (isFile : tree.find? (append search.root text) = some (.file content)) :
    append search.root text ∈ search.found tree text ↔
      StandsForItself search.recursive (append search.root text) := by
  have noDirectory : tree.leadsToDirectory (append search.root text) = false := by
    simp [leadsToDirectory, isFile]
  rw [found, noDirectory, if_neg Bool.false_ne_true]
  exact mem_expand_self_iff ⟨tree, search.recursive⟩ isFile

theorem isPattern_append_eq_false {directory : String}
    (literal : Wildcard.isPattern directory = false)
    (textLiteral : Wildcard.isPattern text = false) :
    Wildcard.isPattern (append directory text) = false := by
  rw [append]
  split_ifs
  · exact textLiteral
  · simp_all [Wildcard.isPattern]
  · simp_all [Wildcard.isPattern]

/-- The path of a file is found by itself, or excluded by itself, exactly if it stands for
itself as a pattern. It does if it holds no wildcards, and if it holds neither brackets nor
needless slashes, so that stars and question marks do no harm. In general, it does if it is
spelled by its parts and each of its names accepts itself, and without recursion only then. -/
theorem path_taken_literally_iff (search : Search) (tree : FileTree) :
    (∀ text content, tree.find? (append search.root text) = some (.file content) →
      (append search.root text ∈ (search.alone text).paths tree ↔
        StandsForItself search.recursive (append search.root text)) ∧
      (append search.root text ∈ search.matched tree text ↔
        StandsForItself search.recursive (append search.root text)) ∧
      (StandsForItself search.recursive (append search.root text) →
        (text ∈ search.patterns →
          (∀ exclude ∈ search.excludes,
            append search.root text ∉ search.matched tree exclude) →
              append search.root text ∈ search.paths tree) ∧
        (text ∈ search.excludes → append search.root text ∉ search.paths tree))) ∧
    (∀ text, Wildcard.isPattern search.root = false → Wildcard.isPattern text = false →
      StandsForItself search.recursive (append search.root text)) ∧
    (∀ path content, tree.find? path = some (.file content) → '[' ∉ path.toList →
      ¬['/', '/'] <:+: path.toList → StandsForItself search.recursive path) ∧
    (∀ path, AcceptsItself path → StandsForItself search.recursive path) ∧
    (search.recursive = false →
      ∀ path, StandsForItself search.recursive path → AcceptsItself path) := by
  refine ⟨fun text content isFile => ⟨?_, mem_matched_self_iff isFile, fun stands => ⟨?_, ?_⟩⟩,
    ?_, ?_, fun path accepts => accepts.standsForItself, ?_⟩
  · rw [mem_paths_alone]
    exact mem_found_self_iff isFile
  · intro given unexcluded
    have found := (mem_found_self_iff isFile).mpr stands
    exact mem_paths_iff.mpr ⟨⟨text, given, found⟩, unexcluded⟩
  · intro asked member
    exact (mem_paths_iff.mp member).2 text asked ((mem_matched_self_iff isFile).mpr stands)
  · intro text rootLiteral textLiteral
    exact standsForItself_of_not_isPattern (isPattern_append_eq_false rootLiteral textLiteral)
  · intro path content isFile bracketFree single
    have closed : endsWithSlash path = false := by
      simpa using (not_or.mp (closed_of_file isFile)).2
    exact standsForItself_of_bracketFree closed single bracketFree
  · intro flat path stands
    rw [flat] at stands
    exact stands.acceptsItself

def markedLibraries : FileTree where
  entries :=
    [(["a[1].ts"], .file .empty), (["libs"], .directory), (["libs", "b[2].ts"], .file .empty),
      (["libs", "c*.ts"], .file .empty)]
  distinct := by decide
  inDirectory := by
    simp only [List.forall_mem_cons]
    exact ⟨⟨[], "a[1].ts", by decide⟩, ⟨[], "libs", by decide⟩,
      ⟨["libs"], "b[2].ts", by decide⟩, ⟨["libs"], "c*.ts", by decide⟩, by simp⟩

/-- A star accepts itself. -/
theorem path_taken_literally_iff_of_star :
    let search : Search :=
      { root := "/", patterns := ["libs/c*.ts"], excludes := ["libs/b[2].ts"], recursive := true }
    markedLibraries.find? (append search.root "libs/c*.ts") = some (.file .empty) ∧
      StandsForItself search.recursive (append search.root "libs/c*.ts") ∧
      append search.root "libs/c*.ts" ∉ search.matched markedLibraries "libs/b[2].ts" ∧
      append search.root "libs/c*.ts" ∈ search.paths markedLibraries := by
  intro search
  have isFile : markedLibraries.find? (append search.root "libs/c*.ts") = some (.file .empty) := by
    decide +kernel
  have bracketFree : '[' ∉ (append search.root "libs/c*.ts").toList := by decide +kernel
  have single : ¬['/', '/'] <:+: (append search.root "libs/c*.ts").toList := by decide +kernel
  have unmatched :
      append search.root "libs/c*.ts" ∉ search.matched markedLibraries "libs/b[2].ts" := by
    decide +kernel
  rcases path_taken_literally_iff search markedLibraries with ⟨taken, -, literal, -⟩
  have stands := literal _ _ isFile bracketFree single
  have given := ((taken _ _ isFile).2.2 stands).1 (List.mem_singleton_self _)
  refine ⟨isFile, stands, unmatched, given ?_⟩
  rw [List.forall_mem_singleton]
  exact unmatched

/-- Brackets stand for one of the characters between them, so a file that is asked for by its
path is not found, and one that is excluded by its path is. -/
theorem not_taken_literally_of_brackets :
    let search : Search :=
      { root := "/", patterns := ["a[1].ts", "libs"], excludes := ["libs/b[2].ts"],
        recursive := false }
    markedLibraries.find? "/a[1].ts" = some (.file .empty) ∧
      markedLibraries.find? "/libs/b[2].ts" = some (.file .empty) ∧
      search.excluded markedLibraries = [] ∧
      search.paths markedLibraries = ["/libs/b[2].ts", "/libs/c*.ts"] := by
  intro search
  have unexcluded : search.excluded markedLibraries = [] := by decide +kernel
  have found : search.patterns.flatMap (search.found markedLibraries) =
      ["/libs/b[2].ts", "/libs/c*.ts"] := by decide +kernel
  have isFile : markedLibraries.find? "/a[1].ts" = some (.file .empty) ∧
      markedLibraries.find? "/libs/b[2].ts" = some (.file .empty) := by decide +kernel
  refine ⟨isFile.1, isFile.2, unexcluded, paths_eq_of_rises _ ?_ ?_ fun _ => Iff.rfl⟩
  · rw [found, unexcluded]
    rfl
  · decide

end TypedModules.Library.Search
