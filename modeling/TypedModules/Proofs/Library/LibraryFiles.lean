import TypedModules.Proofs.Library.Finding
import TypedModules.Proofs.Pattern.Endings

/-! # What is found are library files

Directories are searched for files with the names of libraries. What paths and patterns stand
for is taken as it is, whatever it is called and whatever it is.
-/

namespace TypedModules.Library

open FileTree

variable {search : Search} {tree : FileTree} {directory name path pattern : String}

def IsLibraryFile (tree : FileTree) (path : String) : Prop :=
  hasLibraryName path = true ∧ ∃ content, tree.find? path = some (.file content)

/-! ## Names of libraries -/

theorem hasLibraryName_iff : hasLibraryName name = true ↔ ".ts".toList <:+ name.toList := by
  rw [hasLibraryName, List.isSuffixOf_iff_suffix]

theorem isPlainEnding_suffix : Pattern.IsPlainEnding ".ts".toList where
  filled := by decide
  plain := by simp

theorem hasLibraryName_append (named : hasLibraryName name = true) :
    hasLibraryName (Directory.append directory name) = true := by
  rw [hasLibraryName_iff] at named ⊢
  exact named.trans (Pattern.suffix_append directory name)

theorem hasLibraryName_intercalate {names : Location}
    (named : names.getLast?.any hasLibraryName = true) :
    hasLibraryName ("/".intercalate names) = true := by
  rcases List.eq_nil_or_concat names with rfl | ⟨outer, last, rfl⟩
  · cases named
  · simp only [List.concat_eq_append, List.getLast?_append, List.getLast?_singleton,
      Option.some_or, Option.any_some] at named
    rw [hasLibraryName_iff] at named ⊢
    rw [List.concat_eq_append]
    exact named.trans (Pattern.suffix_intercalate_concat outer last)

theorem hasLibraryName_of_mem_expand {lookup : Pattern.Lookup}
    (named : hasLibraryName pattern = true) (found : path ∈ lookup.expand pattern) :
    hasLibraryName path = true := by
  rw [hasLibraryName_iff] at named ⊢
  exact Pattern.Lookup.isSuffix_of_mem_expand isPlainEnding_suffix named found

/-! ## Files of libraries -/

theorem isLibraryFile_iff (leads : tree.LeadsIfFollowed path) :
    IsLibraryFile tree path ↔
      IsFollowed path ∧ hasLibraryName path = true ∧ tree.leadsToDirectory path = false := by
  constructor
  · rintro ⟨named, content, found⟩
    rcases find?_eq_some_iff.mp found with ⟨location, located, -⟩
    refine ⟨(locate_eq_ok_iff.mp located).2.1, named, ?_⟩
    simp [leadsToDirectory, found]
  · rintro ⟨followed, named, noDirectory⟩
    rcases leads followed with ⟨entry, found⟩
    cases entry with
    | directory =>
        rw [leadsToDirectory_iff.mpr found] at noDirectory
        cases noDirectory
    | file content => exact ⟨named, content, found⟩

theorem leadsToDirectory_append_intercalate {names location : Location} {entry : FileEntry}
    (below : names ≠ []) (stands : tree.lookup (location ++ names) = some entry)
    (located : tree.locate directory = .ok location) (isFile : entry ≠ .directory) :
    tree.leadsToDirectory (Directory.append directory ("/".intercalate names)) = false := by
  by_contra isDirectory
  rw [Bool.not_eq_false, leadsToDirectory_iff] at isDirectory
  rcases find?_eq_some_iff.mp isDirectory with ⟨place, placed, -⟩
  have followed := (locate_eq_ok_iff.mp placed).2.1
  rw [find?_append_intercalate below stands located followed, Option.some.injEq] at isDirectory
  exact isFile isDirectory

namespace Search

theorem of_mem_filesIn (found : path ∈ filesIn tree directory) :
    IsFollowed path ∧ hasLibraryName path = true ∧ tree.leadsToDirectory path = false := by
  rw [filesIn, List.mem_filter, decide_eq_true_iff] at found
  rcases found with ⟨member, followed⟩
  rcases List.mem_map.mp member with ⟨⟨name, entry⟩, kept, rfl⟩
  rw [List.mem_filter, Bool.and_eq_true, decide_eq_true_iff] at kept
  rcases kept with ⟨listed, isFile, named⟩
  rcases mem_list_iff.mp listed with ⟨location, located, stands⟩
  have noDirectory :=
    leadsToDirectory_append_intercalate (List.cons_ne_nil name []) stands located isFile
  rw [String.intercalate_singleton] at noDirectory
  exact ⟨followed, hasLibraryName_append named, noDirectory⟩

theorem of_mem_filesBelow (found : path ∈ filesBelow tree directory) :
    hasLibraryName path = true ∧ tree.leadsToDirectory path = false := by
  rcases List.mem_map.mp found with ⟨⟨names, entry⟩, kept, rfl⟩
  rw [List.mem_filter, Bool.and_eq_true, decide_eq_true_iff] at kept
  rcases kept with ⟨listed, isFile, named⟩
  rcases mem_listAll_iff.mp listed with ⟨-, below, location, located, stands⟩
  exact ⟨hasLibraryName_append (hasLibraryName_intercalate named),
    leadsToDirectory_append_intercalate below stands located isFile⟩

theorem of_mem_found_of_leadsToDirectory
    (isDirectory : tree.leadsToDirectory (Directory.append search.root pattern) = true)
    (found : path ∈ search.found tree pattern) :
    hasLibraryName path = true ∧ tree.leadsToDirectory path = false ∧
      (search.recursive = false → IsFollowed path) := by
  rw [Search.found, if_pos isDirectory] at found
  split at found
  · rename_i recursive
    rcases of_mem_filesBelow found with ⟨named, noDirectory⟩
    exact ⟨named, noDirectory, fun flat => absurd recursive (by simp [flat])⟩
  · rcases of_mem_filesIn found with ⟨followed, named, noDirectory⟩
    exact ⟨named, noDirectory, fun _ => followed⟩

/-- Directories yield library files, unless the paths of what is below them are too long to be
followed. Other patterns yield library files as far as what they stand for has the names of
libraries, as it does if they end like these themselves, and is no directory. So these are the
only conditions for all that is found to be library files. -/
theorem paths_are_libraryFiles_iff (search : Search) (tree : FileTree) :
    (∀ pattern, tree.leadsToDirectory (Directory.append search.root pattern) = true →
      ∀ path ∈ search.found tree pattern,
        hasLibraryName path = true ∧ tree.leadsToDirectory path = false ∧
          (search.recursive = false ∨ IsFollowed path → IsLibraryFile tree path)) ∧
    ((∀ path ∈ search.paths tree, IsLibraryFile tree path) ↔
      ∀ path ∈ search.paths tree, IsFollowed path ∧
        ∀ pattern ∈ search.patterns,
          tree.leadsToDirectory (Directory.append search.root pattern) = false →
            path ∈ search.found tree pattern →
              hasLibraryName path = true ∧ tree.leadsToDirectory path = false) ∧
    ((∀ pattern ∈ search.patterns,
        tree.leadsToDirectory (Directory.append search.root pattern) = true ∨
          hasLibraryName pattern = true) →
      ∀ path ∈ search.paths tree, hasLibraryName path = true ∧
        (IsLibraryFile tree path ↔ IsFollowed path ∧ tree.leadsToDirectory path = false)) := by
  refine ⟨fun pattern isDirectory path found => ?_, ⟨fun all path member => ?_, ?_⟩, ?_⟩
  · rcases of_mem_found_of_leadsToDirectory isDirectory found with ⟨named, noDirectory, followed⟩
    exact ⟨named, noDirectory, fun reached =>
      (isLibraryFile_iff (leadsIfFollowed_of_mem_found found)).mpr
        ⟨reached.elim followed id, named, noDirectory⟩⟩
  · have leads := leadsIfFollowed_of_mem_paths member
    rcases (isLibraryFile_iff leads).mp (all path member) with ⟨followed, named, noDirectory⟩
    exact ⟨followed, fun _ _ _ _ => ⟨named, noDirectory⟩⟩
  · intro conditions path member
    rcases conditions path member with ⟨followed, expanded⟩
    rcases (mem_paths_iff.mp member).1 with ⟨pattern, given, found⟩
    refine (isLibraryFile_iff (leadsIfFollowed_of_mem_paths member)).mpr ⟨followed, ?_⟩
    cases kind : tree.leadsToDirectory (Directory.append search.root pattern) with
    | true =>
        rcases of_mem_found_of_leadsToDirectory kind found with ⟨named, noDirectory, -⟩
        exact ⟨named, noDirectory⟩
    | false => exact expanded pattern given kind found
  · intro suited path member
    rcases (mem_paths_iff.mp member).1 with ⟨pattern, given, found⟩
    have named : hasLibraryName path = true := by
      cases kind : tree.leadsToDirectory (Directory.append search.root pattern) with
      | true => exact (of_mem_found_of_leadsToDirectory kind found).1
      | false =>
          have ends : hasLibraryName pattern = true := by simpa [kind] using suited pattern given
          rw [Search.found, kind, if_neg Bool.false_ne_true] at found
          exact hasLibraryName_of_mem_expand (hasLibraryName_append ends) found
    refine ⟨named, ?_⟩
    rw [isLibraryFile_iff (leadsIfFollowed_of_mem_paths member)]
    simp [named]

def mixedLibraries : FileTree where
  entries :=
    [(["libs"], .directory), (["libs", "a.ts"], .file .empty),
      (["libs", "notes.txt"], .file .empty), (["libs", "old.ts"], .directory),
      (["libs", "old.ts", "b.ts"], .file .empty)]
  distinct := by decide
  inDirectory := by
    simp only [List.forall_mem_cons]
    exact ⟨⟨[], "libs", by decide⟩, ⟨["libs"], "a.ts", by decide⟩,
      ⟨["libs"], "notes.txt", by decide⟩, ⟨["libs"], "old.ts", by decide⟩,
      ⟨["libs", "old.ts"], "b.ts", by decide⟩, by simp⟩

/-- A directory and a pattern with the ending of libraries. -/
theorem paths_are_libraryFiles_iff_of_directory :
    let search : Search :=
      { root := "/", patterns := ["libs", "libs/old.ts/*.ts"], excludes := [], recursive := false }
    search.paths mixedLibraries = ["/libs/a.ts", "/libs/old.ts/b.ts"] ∧
      ∀ path ∈ search.paths mixedLibraries, IsLibraryFile mixedLibraries path := by
  intro search
  have found : search.paths mixedLibraries = ["/libs/a.ts", "/libs/old.ts/b.ts"] := by
    apply paths_of_rises <;> decide +kernel
  rcases paths_are_libraryFiles_iff search mixedLibraries with ⟨-, -, named⟩
  have suited : ∀ pattern ∈ search.patterns,
      mixedLibraries.leadsToDirectory (Directory.append search.root pattern) = true ∨
        hasLibraryName pattern = true := by decide
  refine ⟨found, fun path member => ((named suited) path member).2.mpr ?_⟩
  have all : ∀ path ∈ ["/libs/a.ts", "/libs/old.ts/b.ts"],
      IsFollowed path ∧ mixedLibraries.leadsToDirectory path = false := by decide
  exact all path (found ▸ member)

/-- A pattern finds the text and the directory as well. -/
theorem not_libraryFile_of_star :
    let search : Search :=
      { root := "/", patterns := ["libs/*"], excludes := [], recursive := false }
    search.paths mixedLibraries = ["/libs/a.ts", "/libs/notes.txt", "/libs/old.ts"] ∧
      hasLibraryName "/libs/notes.txt" = false ∧
      mixedLibraries.find? "/libs/old.ts" = some .directory ∧
      ¬∀ path ∈ search.paths mixedLibraries, IsLibraryFile mixedLibraries path := by
  intro search
  let lookup : Pattern.Lookup := ⟨mixedLibraries, false⟩
  have names : ["/libs"].flatMap (fun directory =>
      (lookup.names false directory "*").map (Directory.append directory)) =
        ["/libs/a.ts", "/libs/notes.txt", "/libs/old.ts"] := by
    decide +kernel
  have shape : Pattern.PathPattern.ofPath? "/libs/*" = some ⟨"/libs", ["*"]⟩ := by decide
  have expanded : lookup.expand "/libs/*" = ["/libs/a.ts", "/libs/notes.txt", "/libs/old.ts"] := by
    rw [Pattern.Lookup.expand, shape]
    simp only [Pattern.Lookup.paths, List.isEmpty_nil, Bool.not_true]
    rw [names, Text.distinct_of_rises (by decide)]
    decide
  have found : search.paths mixedLibraries =
      ["/libs/a.ts", "/libs/notes.txt", "/libs/old.ts"] := by
    have joined : Directory.append search.root "libs/*" = "/libs/*" := by decide
    have noDirectory : mixedLibraries.leadsToDirectory "/libs/*" = false := by decide
    apply paths_of_rises
    · rw [List.flatMap_singleton, Search.found, joined, noDirectory, if_neg Bool.false_ne_true]
      exact expanded
    · rfl
    · decide
  have other : hasLibraryName "/libs/notes.txt" = false := by decide
  refine ⟨found, other, by decide, fun all => ?_⟩
  have named := (all "/libs/notes.txt" (by simp [found])).1
  rw [other] at named
  cases named

end Search

end TypedModules.Library
