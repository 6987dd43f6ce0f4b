import TypedModules.Proofs.FileTree.Lookup

/-! # Effects on a tree

What an operation leaves behind is told by the entries that it puts into the
tree. The entries do not depend on directories that are there already.
-/

namespace TypedModules.FileTree

/-! ## Entries put into a tree -/

/-- The lookups after entries have been put at locations, one after the other. -/
def written (before : Location → Option FileEntry) (writes : List (Location × FileEntry)) :
    Location → Option FileEntry :=
  writes.foldl (fun lookup write => Function.update lookup write.1 (some write.2)) before

def Consistent (writes : List (Location × FileEntry)) : Prop :=
  ∀ first ∈ writes, ∀ second ∈ writes, first.1 = second.1 → first.2 = second.2

section Writes

variable {before : Location → Option FileEntry} {writes : List (Location × FileEntry)}
  {location : Location} {entry : FileEntry}

theorem written_nil (before : Location → Option FileEntry) : written before [] = before := rfl

theorem written_append (before : Location → Option FileEntry)
    (first second : List (Location × FileEntry)) :
    written before (first ++ second) = written (written before first) second :=
  List.foldl_append

theorem written_cases (before : Location → Option FileEntry)
    (writes : List (Location × FileEntry)) (location : Location) :
    ((∀ write ∈ writes, write.1 ≠ location) ∧ written before writes location = before location) ∨
      ∃ entry, (location, entry) ∈ writes ∧ written before writes location = some entry := by
  -- The last write to the location counts, so the rest is looked at first.
  induction writes generalizing before with
  | nil => exact .inl ⟨by simp, rfl⟩
  | cons first rest induction =>
      rw [written, List.foldl_cons]
      rcases induction (Function.update before first.1 (some first.2)) with
        ⟨elsewhere, unchanged⟩ | ⟨entry, member, found⟩
      · by_cases same : first.1 = location
        · refine .inr ⟨first.2, ?_, ?_⟩
          · rw [← same]
            exact List.mem_cons_self
          · rw [← same] at unchanged ⊢
            exact unchanged.trans (Function.update_self _ _ _)
        · refine .inl ⟨?_, unchanged.trans (Function.update_of_ne (Ne.symm same) _ _)⟩
          intro write member
          rcases List.mem_cons.mp member with rfl | later
          · exact same
          · exact elsewhere write later
      · exact .inr ⟨entry, List.mem_cons_of_mem first member, found⟩

theorem written_of_notMem (elsewhere : ∀ write ∈ writes, write.1 ≠ location) :
    written before writes location = before location := by
  rcases written_cases before writes location with ⟨_, unchanged⟩ | ⟨entry, member, _⟩
  · exact unchanged
  · exact absurd rfl (elsewhere _ member)

theorem written_apply_congr {other : Location → Option FileEntry}
    (same : before location = other location) :
    written before writes location = written other writes location := by
  induction writes generalizing before other with
  | nil => exact same
  | cons first rest induction =>
      rw [written, written, List.foldl_cons, List.foldl_cons]
      apply induction
      rw [Function.update_apply, Function.update_apply, same]

theorem written_of_mem (consistent : Consistent writes) (member : (location, entry) ∈ writes) :
    written before writes location = some entry := by
  rcases written_cases before writes location with ⟨elsewhere, _⟩ | ⟨other, otherMember, found⟩
  · exact absurd rfl (elsewhere _ member)
  · have same : other = entry := consistent _ otherMember _ member rfl
    rw [found, same]

end Writes

/-! ## Making directories -/

/-- At a location, another tree differs at most by a directory where there was
nothing. -/
def GainsDirectory (tree other : FileTree) (location : Location) : Prop :=
  other.lookup location = tree.lookup location ∨
    tree.lookup location = none ∧ other.lookup location = some .directory

variable {tree : FileTree} {mark name : String} {parent : Location} {rest : List String}

theorem GainsDirectory.lookup_of_some {other : FileTree} {location : Location} {entry : FileEntry}
    (gains : tree.GainsDirectory other location) (found : tree.lookup location = some entry) :
    other.lookup location = some entry := by
  rcases gains with same | ⟨missing, _⟩
  · rw [same, found]
  · rw [found] at missing
    cases missing

theorem GainsDirectory.trans {middle after : FileTree} {location : Location}
    (first : tree.GainsDirectory middle location)
    (second : middle.GainsDirectory after location) : tree.GainsDirectory after location := by
  rcases second with same | ⟨free, gained⟩
  · rw [GainsDirectory, same]
    exact first
  · rcases first with unchanged | ⟨_, taken⟩
    · exact .inr ⟨unchanged ▸ free, gained⟩
    · rw [taken] at free
      cases free

theorem makeDirectories_of_directory (followed : IsFollowed (spelled mark (parent ++ [name])))
    (found : tree.lookup (parent ++ [name]) = some .directory) :
    tree.makeDirectories mark parent (name :: rest) =
      tree.makeDirectories mark (parent ++ [name]) rest := by
  simp [makeDirectories, followed, found]

theorem makeDirectories_of_created {after : FileTree}
    (followed : IsFollowed (spelled mark (parent ++ [name])))
    (free : tree.lookup (parent ++ [name]) = none)
    (created : tree.create parent name .directory = .ok after) :
    tree.makeDirectories mark parent (name :: rest) =
      after.makeDirectories mark (parent ++ [name]) rest := by
  simp [makeDirectories, followed, free, created]

theorem makeDirectories_of_refused {fault : FileFault}
    (followed : IsFollowed (spelled mark (parent ++ [name])))
    (free : tree.lookup (parent ++ [name]) = none)
    (refused : tree.create parent name .directory = .error fault) :
    tree.makeDirectories mark parent (name :: rest) =
      ⟨tree, .error (fault, spelled mark (parent ++ [name]))⟩ := by
  simp [makeDirectories, followed, free, refused]

theorem makeDirectories_of_not_followed
    (unfollowed : ¬IsFollowed (spelled mark (parent ++ [name]))) :
    tree.makeDirectories mark parent (name :: rest) =
      ⟨tree, .error (.nameTooLong, spelled mark (parent ++ [name]))⟩ := by
  simp [makeDirectories, unfollowed]

theorem makeDirectories_of_file (followed : IsFollowed (spelled mark (parent ++ [name])))
    (rest : List String) :
    ∃ failure, ∀ (tree : FileTree) (content : ByteArray),
      tree.lookup (parent ++ [name]) = some (.file content) →
        tree.makeDirectories mark parent (name :: rest) = ⟨tree, .error failure⟩ := by
  cases rest with
  | nil =>
      refine ⟨(.taken, spelled mark (parent ++ [name])), fun tree content found => ?_⟩
      simp [makeDirectories, followed, found]
  | cons next others =>
      let below := spelled mark (parent ++ [name] ++ [next])
      refine ⟨(if IsFollowed below then .notDirectory else .nameTooLong, below),
        fun tree content found => ?_⟩
      simp [makeDirectories, followed, found, below]

theorem isDirectory_of_makeDirectories (names : List String) :
    ∀ {tree : FileTree} {parent : Location}, tree.IsDirectory parent →
      (tree.makeDirectories mark parent names).answer = .ok () →
      (tree.makeDirectories mark parent names).state.IsDirectory (parent ++ names) := by
  induction names with
  | nil =>
      intro tree parent isDirectory _
      rw [List.append_nil]
      exact isDirectory
  | cons name rest induction =>
      intro tree parent isDirectory
      rw [List.append_cons]
      by_cases followed : IsFollowed (spelled mark (parent ++ [name]))
      · cases found : tree.lookup (parent ++ [name]) with
        | some entry =>
            cases entry with
            | directory =>
                rw [makeDirectories_of_directory followed found]
                exact induction found
            | file content =>
                rcases makeDirectories_of_file followed rest with ⟨failure, failed⟩
                rw [failed tree content found]
                nofun
        | none =>
            by_cases named : IsEntryName name
            · rcases create_of_isEntryName isDirectory found named .directory with
                ⟨after, created, lookups⟩
              rw [makeDirectories_of_created followed found created]
              apply induction
              rw [IsDirectory, lookups, Function.update_self]
            · have refused := create_of_not_isEntryName isDirectory named .directory
              rw [makeDirectories_of_refused followed found refused]
              nofun
      · rw [makeDirectories_of_not_followed followed]
        nofun

theorem makeDirectories_of_gainsDirectory {other : FileTree}
    (followed : IsFollowed (spelled mark (parent ++ [name])))
    (isDirectory : other.IsDirectory parent) (named : IsEntryName name)
    (free : tree.lookup (parent ++ [name]) = none)
    (gains : tree.GainsDirectory other (parent ++ [name])) (rest : List String) :
    ∃ after : FileTree,
      other.makeDirectories mark parent (name :: rest) =
          after.makeDirectories mark (parent ++ [name]) rest ∧
        after.lookup = Function.update other.lookup (parent ++ [name]) (some .directory) := by
  rcases gains with same | ⟨_, gained⟩
  · rw [free] at same
    rcases create_of_isEntryName isDirectory same named .directory with ⟨after, created, lookups⟩
    exact ⟨after, makeDirectories_of_created followed same created, lookups⟩
  · refine ⟨other, makeDirectories_of_directory followed gained, ?_⟩
    rw [← gained, Function.update_eq_self]

/-- The directories that are made below a parent, in a tree and in all others that
at most have gained directories on the way. -/
structure DirectoryPlan (tree : FileTree) (mark : String) (parent : Location)
    (names : List String) (writes : List (Location × FileEntry)) : Prop where
  directories : ∀ write ∈ writes, write.2 = .directory ∧ tree.lookup write.1 = none ∧
    write.1 <+: parent ++ names
  performed : ∀ other : FileTree, other.IsDirectory parent →
    (∀ location, location <+: parent ++ names → tree.GainsDirectory other location) →
      (other.makeDirectories mark parent names).answer =
          (tree.makeDirectories mark parent names).answer ∧
        (other.makeDirectories mark parent names).state.lookup = written other.lookup writes

namespace DirectoryPlan

theorem nil (tree : FileTree) (mark : String) (parent : Location) :
    DirectoryPlan tree mark parent [] [] where
  directories := by simp
  performed _ _ _ := ⟨rfl, (written_nil _).symm⟩

theorem of_failure (failure : FileFault × String) (isDirectory : tree.IsDirectory parent)
    (failed : ∀ other : FileTree, other.IsDirectory parent →
      tree.GainsDirectory other (parent ++ [name]) →
        other.makeDirectories mark parent (name :: rest) = ⟨other, .error failure⟩) :
    DirectoryPlan tree mark parent (name :: rest) [] where
  directories := by simp
  performed other otherIsDirectory gains := by
    rw [failed tree isDirectory (.inl rfl), failed other otherIsDirectory (gains _ (by simp))]
    exact ⟨rfl, (written_nil _).symm⟩

theorem of_directory {writes : List (Location × FileEntry)}
    (followed : IsFollowed (spelled mark (parent ++ [name])))
    (found : tree.lookup (parent ++ [name]) = some .directory)
    (plan : DirectoryPlan tree mark (parent ++ [name]) rest writes) :
    DirectoryPlan tree mark parent (name :: rest) writes := by
  refine ⟨?_, ?_⟩
  · rw [List.append_cons parent name rest]
    exact plan.directories
  · rw [List.append_cons parent name rest, makeDirectories_of_directory followed found]
    intro other _ gains
    have otherFound : other.lookup (parent ++ [name]) = some .directory :=
      (gains _ (List.prefix_append _ _)).lookup_of_some found
    rw [makeDirectories_of_directory followed otherFound]
    exact plan.performed other otherFound gains

theorem of_created {after : FileTree} {writes : List (Location × FileEntry)}
    (followed : IsFollowed (spelled mark (parent ++ [name]))) (named : IsEntryName name)
    (free : tree.lookup (parent ++ [name]) = none)
    (created : tree.create parent name .directory = .ok after)
    (lookups : after.lookup = Function.update tree.lookup (parent ++ [name]) (some .directory))
    (plan : DirectoryPlan after mark (parent ++ [name]) rest writes) :
    DirectoryPlan tree mark parent (name :: rest)
      ((parent ++ [name], .directory) :: writes) := by
  have onTheWay : parent ++ [name] <+: parent ++ [name] ++ rest := List.prefix_append _ _
  refine ⟨?_, ?_⟩
  · rw [List.append_cons parent name rest]
    intro write member
    rcases List.mem_cons.mp member with rfl | later
    · exact ⟨rfl, free, onTheWay⟩
    · rcases plan.directories write later with ⟨isDirectory, stillFree, before⟩
      -- What is made later was not there before either.
      rw [lookups] at stillFree
      have different : write.1 ≠ parent ++ [name] := by
        intro same
        rw [same, Function.update_self] at stillFree
        cases stillFree
      rw [Function.update_of_ne different] at stillFree
      exact ⟨isDirectory, stillFree, before⟩
  · rw [List.append_cons parent name rest, makeDirectories_of_created followed free created]
    intro other isDirectory gains
    rcases makeDirectories_of_gainsDirectory followed isDirectory named free
      (gains _ onTheWay) rest with ⟨otherAfter, continued, otherLookups⟩
    rw [continued, written, List.foldl_cons, ← otherLookups]
    apply plan.performed otherAfter
    · rw [IsDirectory, otherLookups, Function.update_self]
    · intro location before
      rw [GainsDirectory, lookups, otherLookups]
      by_cases same : location = parent ++ [name]
      · rw [same, Function.update_self, Function.update_self]
        exact .inl rfl
      · rw [Function.update_of_ne same, Function.update_of_ne same]
        exact gains location before

end DirectoryPlan

/-- Directories that are there already do not change which of them can be made,
nor what stands where in the end. -/
theorem exists_directoryPlan (mark : String) (names : List String) :
    ∀ {tree : FileTree} {parent : Location}, tree.IsDirectory parent →
      ∃ writes, DirectoryPlan tree mark parent names writes := by
  induction names with
  | nil => exact fun {tree parent} _ => ⟨[], .nil tree mark parent⟩
  | cons name rest induction =>
      intro tree parent isDirectory
      -- The path and the name are judged without looking at the tree, so only what
      -- stands at the location can make a difference.
      by_cases followed : IsFollowed (spelled mark (parent ++ [name]))
      · cases found : tree.lookup (parent ++ [name]) with
        | some entry =>
            cases entry with
            | directory =>
                rcases induction found with ⟨writes, plan⟩
                exact ⟨writes, plan.of_directory followed found⟩
            | file content =>
                rcases makeDirectories_of_file followed rest with ⟨failure, failed⟩
                refine ⟨[], .of_failure failure isDirectory fun other _ gains => ?_⟩
                exact failed other content (gains.lookup_of_some found)
        | none =>
            by_cases named : IsEntryName name
            · rcases create_of_isEntryName isDirectory found named .directory with
                ⟨after, created, lookups⟩
              have nowDirectory : after.IsDirectory (parent ++ [name]) := by
                rw [IsDirectory, lookups, Function.update_self]
              rcases induction nowDirectory with ⟨writes, plan⟩
              exact ⟨_, plan.of_created followed named found created lookups⟩
            · let fault := if longestName < name.utf8ByteSize then FileFault.nameTooLong else .taken
              refine ⟨[], .of_failure (fault, spelled mark (parent ++ [name])) isDirectory
                fun other otherIsDirectory gains => ?_⟩
              have otherFree : other.lookup (parent ++ [name]) = none := by
                rcases gains with same | ⟨_, gained⟩
                · rw [same, found]
                · exact absurd (isEntryName_of_lookup gained) named
              exact makeDirectories_of_refused followed otherFree
                (create_of_not_isEntryName otherIsDirectory named .directory)
      · exact ⟨[], .of_failure _ isDirectory fun _ _ _ =>
          makeDirectories_of_not_followed followed⟩

end TypedModules.FileTree
