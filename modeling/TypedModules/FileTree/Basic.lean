/-! # File trees

A file tree consists of directories and files. Each is known by its location,
which is the list of names that lead to it from the root directory. Every entry
lies in a directory of the tree, and no two entries share a location.
-/

namespace TypedModules

/-- The names that lead from the root directory to an entry. -/
abbrev Location := List String

def longestName : Nat := 255

/-- Whether an entry of a directory can have a name: it is not empty and not too
long, holds no slash, and does not stand for a directory that is there already. -/
def IsEntryName (name : String) : Prop :=
  name ≠ "" ∧ name ≠ "." ∧ name ≠ ".." ∧ '/' ∉ name.toList ∧ name.utf8ByteSize ≤ longestName

instance (name : String) : Decidable (IsEntryName name) :=
  inferInstanceAs (Decidable (_ ∧ _))

inductive FileEntry where
  | directory
  | file (content : ByteArray)

instance : DecidableEq FileEntry
  | .directory, .directory => isTrue rfl
  | .directory, .file _ => isFalse nofun
  | .file _, .directory => isFalse nofun
  | .file content, .file other =>
      match ByteArray.instDecidableEq content other with
      | isTrue same => isTrue (congrArg FileEntry.file same)
      | isFalse differ => isFalse fun same => differ (FileEntry.file.inj same)

/-- The entries of a file tree with their locations. The root directory is always
there and is not listed. -/
structure FileTree where
  entries : List (Location × FileEntry)
  distinct : (entries.map Prod.fst).Nodup
  inDirectory : ∀ entry ∈ entries, ∃ parent name, entry.1 = parent ++ [name] ∧
    IsEntryName name ∧ (parent = [] ∨ (parent, FileEntry.directory) ∈ entries)

namespace FileTree

def empty : FileTree where
  entries := []
  distinct := by simp
  inDirectory := by simp

def lookup (tree : FileTree) (location : Location) : Option FileEntry :=
  if location = [] then some .directory
  else tree.entries.lookup location

def IsDirectory (tree : FileTree) (location : Location) : Prop :=
  tree.lookup location = some .directory

instance (tree : FileTree) (location : Location) : Decidable (tree.IsDirectory location) :=
  inferInstanceAs (Decidable (_ = _))

private theorem mem_of_lookup {entries : List (Location × FileEntry)} {location : Location}
    {entry : FileEntry} (found : entries.lookup location = some entry) :
    (location, entry) ∈ entries := by
  induction entries with
  | nil => simp at found
  | cons first rest induction =>
      rw [List.lookup_cons] at found
      split at found
      · rename_i same
        simp only [beq_iff_eq] at same
        simp only [Option.some.injEq] at found
        exact List.mem_cons.2 (.inl (by cases first; simp_all))
      · exact List.mem_cons_of_mem _ (induction found)

theorem eq_nil_or_mem_of_isDirectory {tree : FileTree} {location : Location}
    (isDirectory : tree.IsDirectory location) :
    location = [] ∨ (location, FileEntry.directory) ∈ tree.entries := by
  unfold IsDirectory lookup at isDirectory
  split at isDirectory
  · exact .inl ‹_›
  · exact .inr (mem_of_lookup isDirectory)

def insert (tree : FileTree) (parent : Location) (name : String) (entry : FileEntry)
    (named : IsEntryName name) (isDirectory : tree.IsDirectory parent)
    (free : parent ++ [name] ∉ tree.entries.map Prod.fst) : FileTree where
  entries := tree.entries ++ [(parent ++ [name], entry)]
  distinct := by
    rw [List.map_append, List.nodup_append]
    refine ⟨tree.distinct, by simp, ?_⟩
    intro first firstMember second secondMember same
    simp only [List.map_cons, List.map_nil, List.mem_singleton] at secondMember
    exact free (secondMember ▸ same ▸ firstMember)
  inDirectory := by
    intro listed member
    rcases List.mem_append.1 member with old | new
    · obtain ⟨outer, last, split, lastNamed, inOuter⟩ := tree.inDirectory listed old
      exact ⟨outer, last, split, lastNamed, inOuter.imp id (List.mem_append_left _)⟩
    · simp only [List.mem_singleton] at new
      subst new
      exact ⟨parent, name, rfl, named,
        (eq_nil_or_mem_of_isDirectory isDirectory).imp id (List.mem_append_left _)⟩

def overwrite (tree : FileTree) (location : Location) (content : ByteArray) : FileTree where
  entries := tree.entries.map fun entry =>
    (entry.1,
      match entry.2 with
      | .directory => .directory
      | .file old => if entry.1 = location then .file content else .file old)
  distinct := by
    simpa [List.map_map, Function.comp_def] using tree.distinct
  inDirectory := by
    intro listed member
    obtain ⟨old, oldMember, rfl⟩ := List.mem_map.1 member
    obtain ⟨outer, last, split, lastNamed, inOuter⟩ := tree.inDirectory old oldMember
    refine ⟨outer, last, split, lastNamed, inOuter.imp id fun listedOuter => ?_⟩
    exact List.mem_map.2 ⟨_, listedOuter, rfl⟩

def below (tree : FileTree) (location : Location) : List (Location × FileEntry) :=
  tree.entries.filterMap fun entry =>
    match location.isPrefixOf? entry.1 with
    | none | some [] => none
    | some names => some (names, entry.2)

def children (tree : FileTree) (location : Location) : List (String × FileEntry) :=
  (tree.below location).filterMap fun entry =>
    match entry.1 with
    | [name] => some (name, entry.2)
    | _ => none

end FileTree

end TypedModules
