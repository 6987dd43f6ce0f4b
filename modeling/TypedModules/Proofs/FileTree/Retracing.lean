import TypedModules.Proofs.FileTree.Spelling

/-! # Paths cut in two

A path that leads to an entry has led to a directory before, wherever it is cut. Names that
do not lead elsewhere are just those of the entry below that directory.
-/

namespace TypedModules.FileTree

open Directory

variable {tree : FileTree} {location place : Location} {names : List String} {entry : FileEntry}
  {path further : String}

/-! ## Names behind a path -/

theorem size_le_append (relative : isAbsolute further = false) :
    path.utf8ByteSize ≤ (append path further).utf8ByteSize := by
  rw [append, if_neg (by simp [relative])]
  split <;> simp only [String.utf8ByteSize_append] <;> omega

theorem append_intercalate_closed (named : names ≠ [])
    (filled : ∀ name ∈ names, name ≠ "" ∧ '/' ∉ name.toList) (path : String) :
    ¬(append path ("/".intercalate names) = "" ∨
      endsWithSlash (append path ("/".intercalate names)) = true) := by
  have closed := endsWithSlash_append_intercalate (append path "") filled named
  rw [← append_of_relative (isAbsolute_intercalate filled)] at closed
  rw [closed, not_or]
  refine ⟨fun empty => named ?_, Bool.false_ne_true⟩
  rw [append_of_relative (isAbsolute_intercalate filled), String.append_eq_empty_iff] at empty
  rw [← names_intercalate filled, empty.2]
  rfl

theorem pathBelow_append {steps : List String}
    (filled : ∀ name ∈ names ++ steps, name ≠ "" ∧ '/' ∉ name.toList)
    (further : steps = [] → names ≠ []) (path : String) :
    pathBelow (append path ("/".intercalate names)) steps = pathBelow path (names ++ steps) := by
  have isWhole := isAbsolute_intercalate filled
  rw [List.forall_mem_append] at filled
  by_cases last : steps = []
  · rw [pathBelow, if_pos last, last, List.append_nil, pathBelow, if_neg (further last)]
  · rw [pathBelow, if_neg last, pathBelow, if_neg (by simp [last])]
    have relative := isAbsolute_intercalate filled.2
    by_cases none : names = []
    · rw [none, String.intercalate_nil, List.nil_append]
      exact append_append_empty path relative
    · have closed := append_intercalate_closed none filled.1 path
      rw [append_of_relative relative, append_empty_of_not_isOpen closed,
        append_of_relative (isAbsolute_intercalate filled.1), append_of_relative isWhole,
        String.intercalate_append_of_ne_nil none last]
      simp only [String.append_assoc]

/-! ## Where a path has led before -/

theorem eq_append_of_follow (ordinary : ∀ name ∈ names, IsOrdinary name)
    (leads : tree.follow location names = .ok place) : place = location ++ names := by
  induction names generalizing location with
  | nil =>
      rw [follow, Except.ok.injEq] at leads
      rw [List.append_nil, leads]
  | cons first rest induction =>
      rw [List.forall_mem_cons] at ordinary
      have named := ordinary.1
      rw [follow] at leads
      simp only [named.nonempty, named.notHere, named.notUp, or_self, if_false] at leads
      split_ifs at leads
      rw [induction ordinary.2 leads, List.append_assoc, List.singleton_append]

theorem isDirectory_of_follow {segments : List String} (named : segments ≠ [])
    (leads : tree.follow location segments = .ok place) : tree.IsDirectory location := by
  cases segments with
  | nil => exact absurd rfl named
  | cons first rest =>
      by_contra noDirectory
      rw [follow, if_pos noDirectory] at leads
      cases leads

theorem exists_location_of_follow_append (relative : isAbsolute further = false)
    (nonempty : path ≠ "")
    (leads : tree.follow [] (segments (append path further)) = .ok place) :
    ∃ location, tree.follow [] (segments path) = .ok location ∧ tree.IsDirectory location ∧
      tree.follow location (segments further) = .ok place := by
  rcases append_cases relative path with ⟨empty, -⟩ | ⟨start, spelled, appended⟩
  · exact absurd empty nonempty
  · rw [appended, segments_append_slash, follow_append] at leads
    cases reached : tree.follow [] (segments start) with
    | error fault =>
        rw [reached] at leads
        cases leads
    | ok location =>
        rw [reached] at leads
        change tree.follow location (segments further) = .ok place at leads
        have isDirectory := isDirectory_of_follow (Text.pieces_ne_nil '/' further) leads
        refine ⟨location, ?_, isDirectory, leads⟩
        rcases spelled with rfl | rfl
        · -- The slash at the end leads to the directory that it stands behind.
          rw [segments_slash_end, follow_append, reached]
          exact follow_of_forall_empty isDirectory (by decide)
        · exact reached

theorem exists_location_of_find?_append (relative : isAbsolute further = false)
    (nonempty : path ≠ "") (found : tree.find? (append path further) = some entry) :
    ∃ location, tree.locate path = .ok location ∧ tree.IsDirectory location ∧
      ∃ place, tree.follow location (segments further) = .ok place ∧
        tree.lookup place = some entry := by
  rcases find?_eq_some_iff.mp found with ⟨place, located, stands⟩
  rcases locate_eq_ok_iff.mp located with ⟨-, followed, leads⟩
  rcases exists_location_of_follow_append relative nonempty leads with
    ⟨location, start, isDirectory, leadsOn⟩
  have before : IsFollowed path := Nat.le_trans (size_le_append relative) followed
  exact ⟨location, locate_eq_ok_iff.mpr ⟨nonempty, before, start⟩, isDirectory, place, leadsOn,
    stands⟩

end TypedModules.FileTree
