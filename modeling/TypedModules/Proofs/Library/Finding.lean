import TypedModules.Library.Load
import TypedModules.Proofs.Library.Collecting
import TypedModules.Proofs.Pattern.Finding

/-! # What a search for libraries finds

A search finds each path once, in order. What it finds can be loaded, unless the path
is too long, leads to a directory, or leads to a file that is no text.
-/

namespace TypedModules.Library

open FileTree

/-! ## Found paths -/

namespace Search

variable {search : Search} {tree : FileTree} {directory path pattern : String}

theorem leadsIfFollowed_of_mem_filesIn (found : path ∈ filesIn tree directory) :
    tree.LeadsIfFollowed path := by
  rcases List.mem_map.mp (List.mem_of_mem_filter found) with ⟨⟨name, entry⟩, kept, rfl⟩
  rcases mem_list_iff.mp (List.mem_of_mem_filter kept) with ⟨location, located, stands⟩
  intro followed
  have leads := find?_append_intercalate (List.cons_ne_nil name []) stands located
  rw [String.intercalate_singleton] at leads
  exact ⟨entry, leads followed⟩

theorem leadsIfFollowed_of_mem_filesBelow (found : path ∈ filesBelow tree directory) :
    tree.LeadsIfFollowed path := by
  rcases List.mem_map.mp found with ⟨⟨names, entry⟩, kept, rfl⟩
  rcases mem_listAll_iff.mp (List.mem_of_mem_filter kept) with
    ⟨-, below, location, located, stands⟩
  exact fun followed => ⟨entry, find?_append_intercalate below stands located followed⟩

theorem leadsIfFollowed_of_mem_found (member : path ∈ search.found tree pattern) :
    tree.LeadsIfFollowed path := by
  rw [found] at member
  split at member
  · split at member
    · exact leadsIfFollowed_of_mem_filesBelow member
    · exact leadsIfFollowed_of_mem_filesIn member
  · exact Pattern.Lookup.leadsIfFollowed_of_mem_expand member

theorem leadsIfFollowed_of_mem_paths (member : path ∈ search.paths tree) :
    tree.LeadsIfFollowed path := by
  rw [paths, Text.mem_distinct] at member
  rcases List.mem_flatMap.mp (List.mem_of_mem_filter member) with ⟨pattern, -, found⟩
  exact leadsIfFollowed_of_mem_found found

theorem paths_of_rises {paths : List String}
    (found : search.patterns.flatMap (search.found tree) = paths)
    (unexcluded : search.excludes = []) (rising : paths.Pairwise (· < ·)) :
    search.paths tree = paths := by
  refine paths_eq_of_rises paths ?_ rising fun _ => Iff.rfl
  rw [found, List.filter_eq_self]
  simp [excluded, unexcluded]

theorem ne_empty_of_mem_paths (member : path ∈ search.paths tree) : path ≠ "" :=
  (leadsIfFollowed_of_mem_paths member).ne_empty

end Search

/-! ## Loading -/

def homeAt (path : String) : Namespace :=
  home { file := path, contents := "" }

/-- Why nothing can be loaded from a path, and the fault that says so. -/
inductive Unloadable (tree : FileTree) (path : String) : LoadFault → Prop
  | tooLong (long : ¬IsFollowed path) : Unloadable tree path (.unreadable .nameTooLong path)
  | directory (found : tree.find? path = some .directory) :
      Unloadable tree path (.unreadable .isDirectory path)
  | notText {content : ByteArray} (found : tree.find? path = some (.file content))
      (invalid : ¬content.IsValidUTF8) : Unloadable tree path (.encoding path)

variable {tree : FileTree} {search : Search} {path : String}
  {content : ByteArray} {fault : LoadFault} {library : Library}

theorem file_of_load (loaded : load tree path = .ok library) : library.file = path := by
  rw [load] at loaded
  split at loaded
  · cases loaded
  · split at loaded
    · cases loaded
      rfl
    · cases loaded

theorem textOf?_eq_none_iff : textOf? content = none ↔ ¬content.IsValidUTF8 := by
  rw [textOf?, Option.map_eq_none_iff, String.fromUTF8?]
  split <;> simp_all

theorem load_of_not_isFollowed (nonempty : path ≠ "") (long : ¬IsFollowed path) :
    load tree path = .error (.unreadable .nameTooLong path) := by
  simp [load, FileTree.read, locate, nonempty, long]

theorem load_of_directory (found : tree.find? path = some .directory) :
    load tree path = .error (.unreadable .isDirectory path) := by
  rcases find?_eq_some_iff.mp found with ⟨location, located, stands⟩
  simp [load, FileTree.read, located, stands]

theorem load_of_file (found : tree.find? path = some (.file content)) :
    load tree path =
      match textOf? content with
      | some contents => .ok { file := path, contents }
      | none => .error (.encoding path) := by
  cases text : textOf? content <;> simp [load, read_eq_ok_iff.mpr found, text]

theorem load_of_unloadable (nonempty : path ≠ "") (unloadable : Unloadable tree path fault) :
    load tree path = .error fault := by
  cases unloadable with
  | tooLong long => exact load_of_not_isFollowed nonempty long
  | directory found => exact load_of_directory found
  | notText found invalid => rw [load_of_file found, textOf?_eq_none_iff.mpr invalid]

theorem load_eq_error_iff (member : path ∈ search.paths tree) :
    load tree path = .error fault ↔ Unloadable tree path fault := by
  refine ⟨fun failed => ?_, load_of_unloadable (Search.ne_empty_of_mem_paths member)⟩
  by_cases followed : IsFollowed path
  · rcases Search.leadsIfFollowed_of_mem_paths member followed with ⟨entry, found⟩
    cases entry with
    | directory =>
        rw [load_of_directory found] at failed
        cases failed
        exact .directory found
    | file content =>
        rw [load_of_file found] at failed
        cases text : textOf? content with
        | some contents => simp [text] at failed
        | none =>
            simp only [text, Except.error.injEq] at failed
            rw [← failed]
            exact .notText found (textOf?_eq_none_iff.mp text)
  · rw [load_of_not_isFollowed (Search.ne_empty_of_mem_paths member) followed] at failed
    cases failed
    exact .tooLong followed

end TypedModules.Library
