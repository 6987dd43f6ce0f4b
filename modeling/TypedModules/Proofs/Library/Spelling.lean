import TypedModules.Proofs.Library.Collecting
import TypedModules.Proofs.Library.Finding
import TypedModules.Proofs.Pattern.Spelling

/-! # One text for each file

A search compares paths as texts. Where all that is searched for and excluded is spelled
plainly, two texts never lead to the same file. But a path can be spelled with needless
steps, and these are kept.
-/

namespace TypedModules.Library.Search

open FileTree Directory

variable {search : Search} {tree : FileTree} {path pattern exclude : String}

theorem isNeat_of_mem_found (plain : IsPlain (append search.root pattern))
    (member : path ∈ search.found tree pattern) : tree.IsNeat path := by
  rcases plain.exists_route with ⟨mark, steps, route, spells⟩
  rw [found] at member
  split at member
  · split at member
    · rcases List.mem_map.mp member with ⟨⟨names, entry⟩, kept, rfl⟩
      rcases mem_listAll_iff.mp (List.mem_of_mem_filter kept) with ⟨-, below, location, -, stands⟩
      exact isNeat_append_names route spells below (isOrdinary_of_mem stands)
    · rcases List.mem_map.mp (List.mem_of_mem_filter member) with ⟨⟨name, entry⟩, kept, rfl⟩
      rcases mem_list_iff.mp (List.mem_of_mem_filter kept) with ⟨location, -, stands⟩
      have neat : tree.IsNeat (append (append search.root pattern) ("/".intercalate [name])) :=
        isNeat_append_names route spells (List.cons_ne_nil name []) (isOrdinary_of_mem stands)
      rwa [String.intercalate_singleton] at neat
  · exact Pattern.Lookup.isNeat_of_mem_expand plain member

theorem eq_of_normalize_eq {first second : String} (neat : tree.IsNeat first)
    (otherNeat : tree.IsNeat second) (spells : first ≠ "") (otherSpells : second ≠ "")
    (same : Directory.normalize first = Directory.normalize second) :
    first = second ∨ tree.leadsToDirectory (Directory.normalize first) := by
  rcases neat.eq_normalize spells with normal | isDirectory
  · rcases otherNeat.eq_normalize otherSpells with otherNormal | isDirectory
    · exact .inl (normal.trans (same.trans otherNormal.symm))
    · exact .inr (same ▸ isDirectory)
  · exact .inr isDirectory

/-- If everything is spelled plainly, no file is found under two texts, and no file
that an exclude matches is found at all. -/
theorem paths_tell_files_apart
    (plain : ∀ text ∈ search.patterns ++ search.excludes, IsPlain (append search.root text))
    (tree : FileTree) :
    (∀ first ∈ search.paths tree, ∀ second ∈ search.paths tree,
        Directory.normalize first = Directory.normalize second →
          first = second ∨ tree.leadsToDirectory (Directory.normalize first)) ∧
      ∀ path ∈ search.paths tree, ∀ exclude ∈ search.excludes,
        ∀ other ∈ search.matched tree exclude,
          Directory.normalize path = Directory.normalize other →
            tree.leadsToDirectory (Directory.normalize path) := by
  rw [List.forall_mem_append] at plain
  have neat : ∀ path ∈ search.paths tree, tree.IsNeat path := by
    intro path member
    rcases mem_paths_iff.mp member with ⟨⟨pattern, given, found⟩, -⟩
    exact isNeat_of_mem_found (plain.1 pattern given) found
  constructor
  · intro first member second otherMember same
    exact eq_of_normalize_eq (neat first member) (neat second otherMember)
      (ne_empty_of_mem_paths member) (ne_empty_of_mem_paths otherMember) same
  · intro path member exclude given other isMatch same
    have otherNeat := Pattern.Lookup.isNeat_of_mem_expand (plain.2 exclude given) isMatch
    have otherSpells := (Pattern.Lookup.leadsIfFollowed_of_mem_expand isMatch).ne_empty
    rcases eq_of_normalize_eq (neat path member) otherNeat (ne_empty_of_mem_paths member)
      otherSpells same with rfl | isDirectory
    · exact absurd isMatch ((mem_paths_iff.mp member).2 exclude given)
    · exact isDirectory

def twoLibraries : FileTree where
  entries :=
    [(["libs"], .directory), (["libs", "a.ts"], .file .empty), (["libs", "b.ts"], .file .empty)]
  distinct := by decide
  inDirectory := by
    simp only [List.forall_mem_cons]
    exact ⟨⟨[], "libs", by decide⟩, ⟨["libs"], "a.ts", by decide⟩, ⟨["libs"], "b.ts", by decide⟩,
      by simp⟩

/-- A directory and a file in it yield that file once, and not the excluded one. -/
theorem paths_tell_files_apart_of_directory :
    let search : Search :=
      { root := "/", patterns := ["libs/a.ts", "libs/"], excludes := ["libs/b.ts"],
        recursive := false }
    (∀ text ∈ search.patterns ++ search.excludes, IsPlain (append search.root text)) ∧
      search.paths twoLibraries = ["/libs/a.ts"] ∧
      search.matched twoLibraries "libs/b.ts" = ["/libs/b.ts"] ∧
      Directory.normalize "/libs/a.ts" ≠ Directory.normalize "/libs/b.ts" := by
  intro search
  have plain : ∀ text ∈ search.patterns ++ search.excludes, IsPlain (append search.root text) := by
    decide
  have found : search.paths twoLibraries = ["/libs/a.ts"] := by
    apply paths_eq_of_rises ["/libs/a.ts", "/libs/a.ts"]
    · decide
    · exact List.pairwise_singleton _ _
    · simp
  have isMatch : search.matched twoLibraries "libs/b.ts" = ["/libs/b.ts"] := by decide
  refine ⟨plain, found, isMatch, fun same => ?_⟩
  have apart := (paths_tell_files_apart plain twoLibraries).2 "/libs/a.ts"
    (found ▸ List.mem_singleton_self _) "libs/b.ts" (List.mem_singleton_self _) "/libs/b.ts"
    (isMatch ▸ List.mem_singleton_self _) same
  have noDirectory : twoLibraries.leadsToDirectory (Directory.normalize "/libs/a.ts") = false := by
    decide
  rw [noDirectory] at apart
  cases apart

/-- A needless step makes another text for the same file. It is found twice, although
it is excluded. -/
theorem not_told_apart_of_needless_steps :
    let search : Search :=
      { root := "/", patterns := ["libs/a.ts", "libs//a.ts"], excludes := ["libs/./a.ts"],
        recursive := false }
    search.paths twoLibraries = ["/libs//a.ts", "/libs/a.ts"] ∧
      search.matched twoLibraries "libs/./a.ts" = ["/libs/./a.ts"] ∧
      (∀ text ∈ ["/libs//a.ts", "/libs/a.ts", "/libs/./a.ts"],
        Directory.normalize text = "/libs/a.ts") ∧
      twoLibraries.find? "/libs/a.ts" = some (.file .empty) := by
  intro search
  refine ⟨paths_eq_of_rises ["/libs/a.ts", "/libs//a.ts"] ?_ ?_ ?_, ?_⟩
  · decide
  · decide
  · simp [or_comm]
  · decide

end TypedModules.Library.Search
