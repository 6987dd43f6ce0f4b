import Mathlib.Data.List.DropRight
import TypedModules.Pattern.Expansion
import TypedModules.Proofs.FileTree.Following

/-! # What the expansion of a pattern finds

The names of a pattern are looked up one after the other. Whatever directories a
lookup starts from, the paths that it finds lead to entries of the tree, unless they
are too long to be followed.
-/

namespace TypedModules.Pattern

open FileTree

namespace Lookup

variable {lookup : Lookup} {directory name path pattern : String} {directoriesOnly : Bool}

/-! ## Names in one directory -/

theorem locate_here (tree : FileTree) : tree.locate "." = .ok [] :=
  locate_eq_ok_iff.mpr ⟨by decide, by decide, by
    have segments : Directory.segments "." = ["."] := by decide
    simp [segments, follow, isDirectory_nil]⟩

theorem leadsIfFollowed_append_intercalate {location names : Location} {entry : FileEntry}
    (located : lookup.tree.locate (listed directory) = .ok location) (below : names ≠ [])
    (found : lookup.tree.lookup (location ++ names) = some entry) :
    lookup.tree.LeadsIfFollowed (Directory.append directory ("/".intercalate names)) := by
  intro followed
  rw [listed] at located
  split at located
  · rename_i present
    rw [locate_here, Except.ok.injEq] at located
    subst present
    subst located
    have alone : Directory.append "" ("/".intercalate names) = "/".intercalate names := by
      simp [Directory.append]
    rw [alone] at followed ⊢
    exact ⟨entry, find?_intercalate below found followed⟩
  · exact ⟨entry, find?_append_intercalate below found located followed⟩

theorem leads_of_mem_namesBelow (found : name ∈ lookup.namesBelow directoriesOnly directory) :
    Directory.append directory name = "" ∨
      lookup.tree.LeadsIfFollowed (Directory.append directory name) := by
  rw [namesBelow, List.mem_append, List.mem_map] at found
  rcases found with itself | ⟨⟨names, entry⟩, listed, rfl⟩
  · rw [List.mem_ite_nil_right, List.mem_singleton] at itself
    rcases itself with ⟨start, rfl⟩
    rw [Bool.or_eq_true, decide_eq_true_iff] at start
    rcases start with rfl | isDirectory
    · exact .inl rfl
    · exact .inr (leadsIfFollowed_append_empty isDirectory)
  · rcases mem_listAll_iff.mp (List.mem_of_mem_filter listed) with
      ⟨-, below, location, located, found⟩
    exact .inr (leadsIfFollowed_append_intercalate located below found)

theorem leads_of_mem_namesMatching
    (found : name ∈ lookup.namesMatching directoriesOnly directory pattern) :
    lookup.tree.LeadsIfFollowed (Directory.append directory name) := by
  rcases List.mem_map.mp found with ⟨⟨name, entry⟩, listed, rfl⟩
  rcases mem_list_iff.mp (List.mem_of_mem_filter listed) with ⟨location, located, found⟩
  have leads := leadsIfFollowed_append_intercalate located (List.cons_ne_nil name []) found
  rwa [String.intercalate_singleton] at leads

theorem leads_of_mem_names (found : name ∈ lookup.names directoriesOnly directory pattern) :
    Directory.append directory name = "" ∨
      lookup.tree.LeadsIfFollowed (Directory.append directory name) := by
  rw [names] at found
  split_ifs at found with isPattern deep isEmpty isDirectory isThere
  · exact leads_of_mem_namesBelow found
  · exact .inr (leads_of_mem_namesMatching found)
  · rw [List.mem_singleton.mp found]
    exact .inr (leadsIfFollowed_append_empty isDirectory)
  · simp at found
  · rw [List.mem_singleton.mp found]
    exact .inr fun _ => leadsToEntry_iff.mp isThere
  · simp at found

/-! ## Names in a row -/

theorem exists_of_mem_paths {names : List String} (nonempty : names ≠ []) :
    ∀ directories, path ∈ lookup.paths directories names →
      ∃ directory, ∃ name ∈ lookup.names false directory (names.getLast nonempty),
        path = Directory.append directory name := by
  induction names with
  | nil => exact absurd rfl nonempty
  | cons first rest induction =>
      intro directories found
      rw [paths] at found
      by_cases last : rest = []
      · subst last
        rw [paths, Text.mem_distinct, List.mem_flatMap] at found
        rcases found with ⟨directory, -, member⟩
        rcases List.mem_map.mp member with ⟨name, named, rfl⟩
        exact ⟨directory, name, named, rfl⟩
      · rw [List.getLast_cons last]
        exact induction last _ found

/-- The last step decides, so the start of a lookup need not lead anywhere. -/
theorem leads_of_mem_paths {names : List String} (nonempty : names ≠ [])
    (directories : List String) (found : path ∈ lookup.paths directories names) :
    path = "" ∨ lookup.tree.LeadsIfFollowed path := by
  rcases exists_of_mem_paths nonempty directories found with ⟨directory, name, named, rfl⟩
  exact leads_of_mem_names named

/-! ## Paths without a pattern -/

theorem segments_literalStart {segments : List String}
    (slashFree : ∀ segment ∈ segments, '/' ∉ segment.toList)
    (filled : segments.all (· = "") = false) :
    Directory.segments (PathPattern.literalStart segments) = segments.rdropWhile (· = "") := by
  have cut : segments.rdropWhile (· = "") ++ segments.rtakeWhile (· = "") = segments :=
    List.rdropWhile_append_rtakeWhile ..
  have nonempty : segments.rdropWhile (· = "") ≠ [] := by
    rw [Ne, List.rdropWhile_eq_nil_iff]
    simpa using filled
  have free : ∀ segment ∈ segments.rdropWhile (· = ""), '/' ∉ segment.toList :=
    fun segment member => slashFree segment (cut ▸ List.mem_append_left _ member)
  rw [PathPattern.literalStart, filled, if_neg Bool.false_ne_true]
  exact Directory.segments_intercalate free nonempty

theorem literalStart_of_getLast {literal : List String} (named : literal ≠ [])
    (last : literal.getLast named ≠ "") :
    PathPattern.literalStart literal = "/".intercalate literal := by
  have kept : literal.rdropWhile (· = "") = literal :=
    List.rdropWhile_eq_self_iff.mpr fun _ => by simpa using last
  have filled : literal.all (· = "") = false := by
    rw [List.all_eq_false]
    exact ⟨_, List.getLast_mem named, by simpa using last⟩
  rw [PathPattern.literalStart, filled, if_neg Bool.false_ne_true]
  change "/".intercalate (literal.rdropWhile (· = "")) = _
  rw [kept]
theorem follow_segments_of_literalStart {tree : FileTree} {segments : List String}
    (slashFree : ∀ segment ∈ segments, '/' ∉ segment.toList)
    (isDirectory : tree.leadsToDirectory (PathPattern.literalStart segments)) :
    ∃ location, tree.IsDirectory location ∧ tree.follow [] segments = .ok location := by
  cases empty : segments.all (· = "") with
  | true =>
      exact ⟨[], tree.isDirectory_nil,
        follow_of_forall_empty tree.isDirectory_nil (by simpa using empty)⟩
  | false =>
      have cut : segments.rdropWhile (· = "") ++ segments.rtakeWhile (· = "") = segments :=
        List.rdropWhile_append_rtakeWhile ..
      rcases find?_eq_some_iff.mp (leadsToDirectory_iff.mp isDirectory) with
        ⟨location, located, found⟩
      have leads := (locate_eq_ok_iff.mp located).2.2
      rw [segments_literalStart slashFree empty] at leads
      refine ⟨location, found, ?_⟩
      rw [← cut, follow_append, leads]
      exact follow_of_forall_empty found fun segment member => by
        simpa using List.mem_rtakeWhile_imp member

theorem leadsIfFollowed_of_leadsSomewhere (found : lookup.leadsSomewhere path) :
    lookup.tree.LeadsIfFollowed path := by
  intro followed
  rw [leadsSomewhere] at found
  split at found
  · rename_i slashed
    rcases Directory.eq_append_slash_of_endsWithSlash slashed with ⟨start, rfl⟩
    rw [Directory.segments_slash_end, List.dropLast_concat] at found
    rcases follow_segments_of_literalStart
      (fun _ member => Directory.slash_notMem_of_mem_segments member) found with
      ⟨location, isDirectory, leads⟩
    have leadsOn : lookup.tree.follow [] (Directory.segments (start ++ "/")) = .ok location := by
      rw [Directory.segments_slash_end, follow_append, leads]
      exact follow_of_forall_empty isDirectory (by decide)
    exact ⟨.directory, find?_eq_some_iff.mpr
      ⟨location, locate_eq_ok_iff.mpr ⟨by simp, followed, leadsOn⟩, isDirectory⟩⟩
  · exact leadsToEntry_iff.mp found

theorem exists_segments_of_ofPath? {shape : PathPattern}
    (cut : PathPattern.ofPath? path = some shape) :
    ∃ literal first rest, Directory.segments path = literal ++ first :: rest ∧
      Wildcard.isPattern first = true ∧ shape.start = PathPattern.literalStart literal ∧
      shape.names = first :: rest.dropLast.filter (· ≠ "") ++ rest.getLast?.toList := by
  have whole : (Directory.segments path).takeWhile (fun segment => !Wildcard.isPattern segment) ++
      (Directory.segments path).dropWhile (fun segment => !Wildcard.isPattern segment) =
        Directory.segments path := List.takeWhile_append_dropWhile
  rw [PathPattern.ofPath?] at cut
  split at cut
  · cases cut
  · rename_i first rest behind
    cases cut
    have isPattern := List.head?_dropWhile_not (fun segment => !Wildcard.isPattern segment)
      (Directory.segments path)
    rw [behind] at whole isPattern
    exact ⟨_, first, rest, whole.symm, by simpa using isPattern, rfl, rfl⟩

theorem names_ne_nil_of_ofPath? {shape : PathPattern}
    (cut : PathPattern.ofPath? path = some shape) : shape.names ≠ [] := by
  rcases exists_segments_of_ofPath? cut with ⟨-, first, rest, -, -, -, names⟩
  rw [names, List.cons_append]
  exact List.cons_ne_nil _ _

theorem leadsIfFollowed_of_mem_expand (found : path ∈ lookup.expand pattern) :
    lookup.tree.LeadsIfFollowed path := by
  rw [expand] at found
  split at found
  · rw [List.mem_ite_nil_right, List.mem_singleton] at found
    rw [found.2]
    exact leadsIfFollowed_of_leadsSomewhere found.1
  · rename_i shape cut
    rw [List.mem_filter, decide_eq_true_iff] at found
    exact (leads_of_mem_paths (names_ne_nil_of_ofPath? cut) _ found.1).resolve_left found.2

end Lookup

end TypedModules.Pattern
