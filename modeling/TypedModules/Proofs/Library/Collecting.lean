import TypedModules.Library.Search
import TypedModules.Proofs.Pattern.Agreement

/-! # A search as a set

What a search finds is put together from what each of its patterns yields alone, less
what each of its excludes matches alone. So neither order nor repetition matters, be it
of patterns, of excludes or of the entries of a directory.
-/

namespace TypedModules.Library.Search

open FileTree

variable {search : Search} {tree : FileTree} {path : String}

def alone (search : Search) (pattern : String) : Search :=
  { search with patterns := [pattern], excludes := [] }

def matched (search : Search) (tree : FileTree) (exclude : String) : List String :=
  (Pattern.Lookup.mk tree search.recursive).expand (Directory.append search.root exclude)

theorem mem_excluded_iff :
    path ∈ search.excluded tree ↔ ∃ exclude ∈ search.excludes, path ∈ search.matched tree exclude :=
  List.mem_flatMap

theorem mem_paths_iff :
    path ∈ search.paths tree ↔
      (∃ pattern ∈ search.patterns, path ∈ search.found tree pattern) ∧
        ∀ exclude ∈ search.excludes, path ∉ search.matched tree exclude := by
  rw [paths, Text.mem_distinct, List.mem_filter, List.mem_flatMap]
  simp [mem_excluded_iff]

theorem mem_paths_alone {pattern : String} :
    path ∈ (search.alone pattern).paths tree ↔ path ∈ search.found tree pattern := by
  simp [mem_paths_iff, alone, found]

theorem paths_eq_of_rises (kept : List String) {paths : List String}
    (found : ((search.patterns.flatMap (search.found tree)).filter fun path =>
      !(search.excluded tree).contains path) = kept)
    (rising : paths.Pairwise (· < ·)) (same : ∀ path, path ∈ kept ↔ path ∈ paths) :
    search.paths tree = paths := by
  rw [Search.paths, found, Text.distinct_congr same, Text.distinct_of_rises rising]

end TypedModules.Library.Search
