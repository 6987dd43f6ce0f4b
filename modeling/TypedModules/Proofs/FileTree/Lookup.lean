import TypedModules.FileTree.Write
import Mathlib.Logic.Function.Basic

/-! # What stands where

A tree is known by its lookups. Adding an entry and replacing the content of a
file change the lookup of one location only.
-/

namespace TypedModules.FileTree

variable {tree : FileTree} {location parent : Location} {name : String}

@[simp]
theorem lookup_nil (tree : FileTree) : tree.lookup [] = some .directory := by
  simp [lookup]

theorem isDirectory_nil (tree : FileTree) : tree.IsDirectory [] :=
  tree.lookup_nil

theorem lookup_of_ne_nil (below : location ≠ []) :
    tree.lookup location = tree.entries.lookup location := by
  rw [lookup, if_neg below]

theorem lookup_eq_none_iff :
    tree.lookup (parent ++ [name]) = none ↔ parent ++ [name] ∉ tree.entries.map Prod.fst := by
  rw [lookup_of_ne_nil (by simp), List.lookup_eq_none_iff]
  constructor
  · intro different listed
    rcases List.mem_map.mp listed with ⟨entry, member, located⟩
    simpa [located] using different entry member
  · intro free entry member
    simp only [bne_iff_ne, ne_eq]
    rintro located
    exact free (List.mem_map.mpr ⟨entry, member, located.symm⟩)

theorem isEntryName_of_lookup {entry : FileEntry}
    (found : tree.lookup (parent ++ [name]) = some entry) : IsEntryName name := by
  have listed : parent ++ [name] ∈ tree.entries.map Prod.fst := by
    by_contra free
    rw [lookup_eq_none_iff.mpr free] at found
    cases found
  rcases List.mem_map.mp listed with ⟨existing, member, located⟩
  rcases tree.inDirectory existing member with ⟨outer, last, split, named, _⟩
  rw [located] at split
  rcases List.append_inj' split rfl with ⟨_, sameName⟩
  rw [List.singleton_inj.mp sameName]
  exact named

theorem lookup_insert (entry : FileEntry) (named : IsEntryName name)
    (isDirectory : tree.IsDirectory parent)
    (free : parent ++ [name] ∉ tree.entries.map Prod.fst) :
    (tree.insert parent name entry named isDirectory free).lookup =
      Function.update tree.lookup (parent ++ [name]) (some entry) := by
  have missing := lookup_eq_none_iff.mpr free
  rw [lookup_of_ne_nil (by simp)] at missing
  funext location
  by_cases same : location = parent ++ [name]
  · subst location
    rw [Function.update_self, lookup_of_ne_nil (by simp), insert, List.lookup_append, missing]
    simp
  · rw [Function.update_of_ne same]
    by_cases below : location = []
    · simp [below]
    · have unlisted : [(parent ++ [name], entry)].lookup location = none :=
        List.lookup_eq_none_iff.mpr (by simpa using same)
      rw [lookup_of_ne_nil below, lookup_of_ne_nil below, insert, List.lookup_append, unlisted,
        Option.or_none]

theorem lookup_map (entries : List (Location × FileEntry))
    (transform : Location × FileEntry → FileEntry) (location : Location) :
    (entries.map fun entry => (entry.1, transform entry)).lookup location =
      (entries.lookup location).map fun entry => transform (location, entry) := by
  induction entries with
  | nil => rfl
  | cons first rest induction =>
      rw [List.map_cons, List.lookup_cons, List.lookup_cons, induction]
      cases same : location == first.1 with
      | false => rfl
      | true =>
          have isFirst : first = (location, first.2) := Prod.ext (eq_of_beq same).symm rfl
          simp [← isFirst]

theorem lookup_overwrite {old : ByteArray} (found : tree.lookup location = some (.file old))
    (content : ByteArray) :
    (tree.overwrite location content).lookup =
      Function.update tree.lookup location (some (.file content)) := by
  have below : location ≠ [] := by
    rintro rfl
    simp at found
  funext place
  by_cases same : place = location
  · subst place
    rw [lookup_of_ne_nil below] at found
    rw [Function.update_self, lookup_of_ne_nil below, overwrite, lookup_map, found]
    simp
  · rw [Function.update_of_ne same]
    by_cases atRoot : place = []
    · simp [atRoot]
    · rw [lookup_of_ne_nil atRoot, lookup_of_ne_nil atRoot, overwrite, lookup_map]
      cases tree.entries.lookup place with
      | none => rfl
      | some entry => cases entry <;> simp [same]

/-! ## Creating entries -/

theorem create_of_isEntryName (isDirectory : tree.IsDirectory parent)
    (free : tree.lookup (parent ++ [name]) = none) (named : IsEntryName name)
    (entry : FileEntry) :
    ∃ after, tree.create parent name entry = .ok after ∧
      after.lookup = Function.update tree.lookup (parent ++ [name]) (some entry) := by
  have unlisted := lookup_eq_none_iff.mp free
  refine ⟨tree.insert parent name entry named isDirectory unlisted, ?_, lookup_insert ..⟩
  rw [create, dif_pos isDirectory, dif_pos named, dif_pos unlisted]

theorem create_of_not_isEntryName (isDirectory : tree.IsDirectory parent)
    (unnamed : ¬IsEntryName name) (entry : FileEntry) :
    tree.create parent name entry =
      .error (if longestName < name.utf8ByteSize then .nameTooLong else .taken) := by
  rw [create, dif_pos isDirectory, dif_neg unnamed]
  split <;> rfl

theorem putFile_alike (parent : Location) (name : String) (content : ByteArray)
    (existing : Option FileEntry) :
    (∃ fault, ∀ tree : FileTree, tree.IsDirectory parent →
        tree.lookup (parent ++ [name]) = existing →
          tree.putFile parent name content = .error fault) ∨
      ∀ tree : FileTree, tree.IsDirectory parent → tree.lookup (parent ++ [name]) = existing →
        ∃ after, tree.putFile parent name content = .ok after ∧
          after.lookup =
            Function.update tree.lookup (parent ++ [name]) (some (.file content)) := by
  cases existing with
  | none =>
      by_cases named : IsEntryName name
      · refine .inr fun tree isDirectory free => ?_
        rw [putFile, free]
        exact create_of_isEntryName isDirectory free named (.file content)
      · refine .inl ⟨if longestName < name.utf8ByteSize then .nameTooLong else .taken,
          fun tree isDirectory free => ?_⟩
        rw [putFile, free]
        exact create_of_not_isEntryName isDirectory named (.file content)
  | some entry =>
      cases entry with
      | directory =>
          refine .inl ⟨.isDirectory, fun tree _ found => ?_⟩
          rw [putFile, found]
      | file old =>
          refine .inr fun tree _ found => ⟨tree.overwrite (parent ++ [name]) content, ?_, ?_⟩
          · rw [putFile, found]
          · exact lookup_overwrite found content

end TypedModules.FileTree
