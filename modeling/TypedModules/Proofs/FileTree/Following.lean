import Mathlib.Data.List.Induction
import TypedModules.FileTree.Path
import TypedModules.Proofs.Directory.Resolution
import TypedModules.Proofs.FileTree.Lookup
import TypedModules.Proofs.Registry.Comparison

/-! # Where paths lead

A path that names the entries of a directory below the path of the directory itself
leads to these entries, as long as it is not too long to be followed.
-/

namespace TypedModules.FileTree

variable {tree : FileTree} {location parent : Location} {names : List String}
  {name path : String} {entry : FileEntry}

/-! ## Entries and the directories they lie in -/

theorem lookup_eq_some_iff (below : location ≠ []) :
    tree.lookup location = some entry ↔ (location, entry) ∈ tree.entries := by
  rw [lookup_of_ne_nil below]
  exact Registry.lookup_eq_some_iff_mem tree.distinct

theorem isDirectory_of_lookup (found : tree.lookup (parent ++ [name]) = some entry) :
    tree.IsDirectory parent := by
  rw [lookup_eq_some_iff (by simp)] at found
  rcases tree.inDirectory _ found with ⟨outer, last, split, -, inOuter⟩
  rcases List.append_inj' split rfl with ⟨rfl, -⟩
  rcases inOuter with rfl | listed
  · exact tree.isDirectory_nil
  · by_cases atRoot : parent = []
    · rw [atRoot]
      exact tree.isDirectory_nil
    · exact (lookup_eq_some_iff atRoot).mpr listed

theorem isEntryName_of_mem (found : tree.lookup (location ++ names) = some entry) :
    ∀ name ∈ names, IsEntryName name := by
  induction names using List.reverseRecOn generalizing entry with
  | nil => simp
  | append_singleton outer last induction =>
      rw [← List.append_assoc] at found
      rw [List.forall_mem_append]
      refine ⟨induction (isDirectory_of_lookup found), fun name member => ?_⟩
      rw [List.mem_singleton.mp member]
      exact isEntryName_of_lookup found

theorem isOrdinary_of_isEntryName (named : IsEntryName name) : Directory.IsOrdinary name :=
  ⟨named.1, named.2.1, named.2.2.1, named.2.2.2.1⟩

theorem isOrdinary_of_mem (found : tree.lookup (location ++ names) = some entry) :
    ∀ name ∈ names, Directory.IsOrdinary name :=
  fun name member => isOrdinary_of_isEntryName (isEntryName_of_mem found name member)

theorem mem_below_iff :
    (names, entry) ∈ tree.below location ↔
      names ≠ [] ∧ tree.lookup (location ++ names) = some entry := by
  rw [below, List.mem_filterMap]
  constructor
  · rintro ⟨listed, member, found⟩
    cases cut : location.isPrefixOf? listed.1 with
    | none => simp [cut] at found
    | some rest =>
        cases rest with
        | nil => simp [cut] at found
        | cons first others =>
            simp only [cut, Option.some.injEq, Prod.mk.injEq] at found
            rcases found with ⟨rfl, rfl⟩
            rw [List.isPrefixOf?_eq_some_iff_append_eq] at cut
            refine ⟨List.cons_ne_nil _ _, ?_⟩
            rw [cut, lookup_eq_some_iff (by simp [← cut])]
            exact member
  · rintro ⟨filled, found⟩
    rw [lookup_eq_some_iff (by simp [filled])] at found
    refine ⟨_, found, ?_⟩
    have cut : location.isPrefixOf? (location ++ names) = some names :=
      List.isPrefixOf?_eq_some_iff_append_eq.mpr rfl
    cases names with
    | nil => exact absurd rfl filled
    | cons first others => simp [cut]

theorem mem_children_iff :
    (name, entry) ∈ tree.children location ↔
      tree.lookup (location ++ [name]) = some entry := by
  have single : tree.lookup (location ++ [name]) = some entry ↔
      ([name], entry) ∈ tree.below location := by
    simp [mem_below_iff]
  rw [single, children, List.mem_filterMap]
  constructor
  · rintro ⟨⟨names, found⟩, member, shown⟩
    match names, shown with
    | [only], shown =>
        rcases Prod.mk.inj (Option.some.inj shown) with ⟨rfl, rfl⟩
        exact member
  · intro member
    exact ⟨_, member, rfl⟩

/-! ## Following names -/

theorem follow_append (tree : FileTree) (first second : List String) :
    ∀ location, tree.follow location (first ++ second) =
      (tree.follow location first).bind (tree.follow · second) := by
  induction first with
  | nil => intro location; rfl
  | cons segment rest induction =>
      intro location
      rw [List.cons_append, follow, follow]
      split_ifs
      all_goals first | rfl | exact induction _

theorem follow_name (found : tree.lookup (location ++ [name]) = some entry) :
    tree.follow location [name] = .ok (location ++ [name]) := by
  have isDirectory := isDirectory_of_lookup found
  have named := isEntryName_of_lookup found
  simp [follow, isDirectory, found, named.1, named.2.1, named.2.2.1,
    Nat.not_lt.mpr named.2.2.2.2]

theorem follow_names (found : tree.lookup (location ++ names) = some entry) :
    tree.follow location names = .ok (location ++ names) := by
  induction names using List.reverseRecOn generalizing entry with
  | nil => rw [List.append_nil, follow]
  | append_singleton outer last induction =>
      rw [← List.append_assoc] at found ⊢
      rw [follow_append, induction (isDirectory_of_lookup found)]
      exact follow_name found

theorem follow_of_forall_empty (isDirectory : tree.IsDirectory location) {segments : List String}
    (empty : ∀ segment ∈ segments, segment = "") :
    tree.follow location segments = .ok location := by
  induction segments with
  | nil => rw [follow]
  | cons first rest induction =>
      rw [List.forall_mem_cons] at empty
      rw [follow, if_neg (not_not.mpr isDirectory), if_pos (.inl empty.1)]
      exact induction empty.2

/-! ## Paths below a directory -/

theorem locate_eq_ok_iff :
    tree.locate path = .ok location ↔
      path ≠ "" ∧ IsFollowed path ∧ tree.follow [] (Directory.segments path) = .ok location := by
  rw [locate]
  by_cases empty : path = ""
  · simp [empty]
  · by_cases followed : IsFollowed path <;> simp [empty, followed]

theorem find?_eq_some_iff :
    tree.find? path = some entry ↔
      ∃ location, tree.locate path = .ok location ∧ tree.lookup location = some entry := by
  rw [find?]
  cases tree.locate path with
  | ok location => simp
  | error fault => simp

theorem read_eq_ok_iff {content : ByteArray} :
    tree.read path = .ok content ↔ tree.find? path = some (.file content) := by
  rw [read, find?]
  cases tree.locate path with
  | error fault => simp
  | ok location =>
      cases found : tree.lookup location with
      | none => simp [found]
      | some entry => cases entry <;> simp [found]

theorem mem_list_iff :
    (name, entry) ∈ tree.list path ↔
      ∃ location, tree.locate path = .ok location ∧
        tree.lookup (location ++ [name]) = some entry := by
  rw [list]
  cases tree.locate path with
  | ok location => simp [mem_children_iff]
  | error fault => simp

theorem mem_listAll_iff :
    (names, entry) ∈ tree.listAll path ↔
      IsFollowed (pathBelow path names.dropLast) ∧ names ≠ [] ∧
        ∃ location, tree.locate path = .ok location ∧
          tree.lookup (location ++ names) = some entry := by
  rw [listAll]
  cases tree.locate path with
  | ok location => simp [mem_below_iff, and_comm, and_assoc]
  | error fault => simp

theorem follow_segments_append {further : String}
    (relative : Directory.isAbsolute further = false) (nonempty : path ≠ "")
    (leads : tree.follow [] (Directory.segments path) = .ok location) :
    tree.follow [] (Directory.segments (Directory.append path further)) =
      tree.follow location (Directory.segments further) := by
  rw [Directory.append, relative, if_neg Bool.false_ne_true]
  split
  · rename_i open_
    rcases Directory.eq_append_slash_of_endsWithSlash (open_.resolve_left nonempty) with
      ⟨start, rfl⟩
    -- Without the slash, the first path already leads to the directory.
    rw [Directory.segments_slash_end, follow_append] at leads
    rw [Directory.segments_append_slash, follow_append]
    cases outer : tree.follow [] (Directory.segments start) with
    | error fault =>
        rw [outer] at leads
        cases leads
    | ok reached =>
        rw [outer] at leads
        have stays : reached = location := by
          by_cases reachedDirectory : tree.IsDirectory reached
          · simpa [Except.bind, follow, reachedDirectory] using leads
          · simp [Except.bind, follow, reachedDirectory] at leads
        rw [stays]
        rfl
  · rw [Directory.segments_append_slash, follow_append, leads]
    rfl

theorem locate_append {further : String} {place : Location}
    (relative : Directory.isAbsolute further = false)
    (located : tree.locate path = .ok location)
    (leads : tree.follow location (Directory.segments further) = .ok place)
    (followed : IsFollowed (Directory.append path further)) :
    tree.locate (Directory.append path further) = .ok place := by
  rcases locate_eq_ok_iff.mp located with ⟨nonempty, -, start⟩
  refine locate_eq_ok_iff.mpr ⟨?_, followed, ?_⟩
  · rw [Directory.append, relative, if_neg Bool.false_ne_true]
    split <;> simp [String.append_eq_empty_iff, nonempty]
  · rw [follow_segments_append relative nonempty start, leads]

theorem find?_append_intercalate (below : names ≠ [])
    (found : tree.lookup (location ++ names) = some entry)
    (located : tree.locate path = .ok location)
    (followed : IsFollowed (Directory.append path ("/".intercalate names))) :
    tree.find? (Directory.append path ("/".intercalate names)) = some entry := by
  have ordinary := isOrdinary_of_mem found
  have leads : tree.follow location (Directory.segments ("/".intercalate names)) =
      .ok (location ++ names) := by
    rw [Directory.segments_intercalate (fun name member => (ordinary name member).slashFree) below]
    exact follow_names found
  have relative := Directory.isAbsolute_intercalate_of_ordinary ordinary
  exact find?_eq_some_iff.mpr ⟨_, locate_append relative located leads followed, found⟩

theorem find?_intercalate (below : names ≠ []) (found : tree.lookup names = some entry)
    (followed : IsFollowed ("/".intercalate names)) :
    tree.find? ("/".intercalate names) = some entry := by
  rw [← List.nil_append names] at found
  have ordinary := isOrdinary_of_mem found
  have slashFree : ∀ name ∈ names, '/' ∉ name.toList := fun name member =>
    (ordinary name member).slashFree
  have nonempty : "/".intercalate names ≠ "" :=
    Directory.intercalate_ne_of_notMem slashFree below (by decide)
      fun member => (ordinary "" member).nonempty rfl
  have leads : tree.follow [] (Directory.segments ("/".intercalate names)) =
      .ok ([] ++ names) := by
    rw [Directory.segments_intercalate slashFree below]
    exact follow_names found
  exact find?_eq_some_iff.mpr ⟨_, locate_eq_ok_iff.mpr ⟨nonempty, followed, leads⟩, found⟩

theorem find?_append_empty (isDirectory : tree.find? path = some .directory)
    (followed : IsFollowed (Directory.append path "")) :
    tree.find? (Directory.append path "") = some .directory := by
  rcases find?_eq_some_iff.mp isDirectory with ⟨location, located, found⟩
  have stays : tree.follow location (Directory.segments "") = .ok location :=
    follow_of_forall_empty found (by decide)
  exact find?_eq_some_iff.mpr ⟨location, locate_append rfl located stays followed, found⟩

/-! ## What paths lead to -/

def LeadsIfFollowed (tree : FileTree) (path : String) : Prop :=
  IsFollowed path → ∃ entry, tree.find? path = some entry

theorem leadsToEntry_iff : tree.leadsToEntry path ↔ ∃ entry, tree.find? path = some entry := by
  rw [leadsToEntry, Option.isSome_iff_exists]

theorem leadsToDirectory_iff :
    tree.leadsToDirectory path ↔ tree.find? path = some .directory := by
  rw [leadsToDirectory, decide_eq_true_iff]

theorem not_leadsToEntry_empty (tree : FileTree) : ¬tree.leadsToEntry "" := by
  simp [leadsToEntry, find?, locate]

theorem LeadsIfFollowed.ne_empty (leads : tree.LeadsIfFollowed path) : path ≠ "" := by
  rintro rfl
  exact tree.not_leadsToEntry_empty (leadsToEntry_iff.mpr (leads (by decide)))

theorem leadsIfFollowed_append_empty (isDirectory : tree.leadsToDirectory path) :
    tree.LeadsIfFollowed (Directory.append path "") := fun followed =>
  ⟨.directory, find?_append_empty (leadsToDirectory_iff.mp isDirectory) followed⟩

end TypedModules.FileTree
