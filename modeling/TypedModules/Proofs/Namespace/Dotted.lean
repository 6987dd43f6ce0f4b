import TypedModules.Proofs.Namespace.Placement
import TypedModules.Proofs.Text.Joining

/-! # Dotted texts and namespaces

A text is cut at its dots and a namespace is joined by dots. Nothing is lost on the way
from a text to a namespace and back. On the way from a namespace to a text and back, dots
inside segments become cuts, and a single empty segment is lost, because the empty text is
not cut into pieces at all.
-/

namespace TypedModules

theorem Text.exists_mem_pieces {separator character : Char} {text : String}
    (differs : character ≠ separator) (inText : character ∈ text.toList) :
    ∃ piece ∈ pieces separator text, character ∈ piece.toList := by
  by_contra none
  push Not at none
  have notInGlue : character ∉ (String.singleton separator).toList := by simpa using differs
  have notInText := notMem_intercalate notInGlue none
  rw [intercalate_pieces] at notInText
  exact notInText inText

namespace Namespace

variable {text : String} {module : Namespace}

theorem ofDotted_eq_ok_iff :
    ofDotted text = .ok module ↔
      module.segments = if text = "" then [] else Text.pieces '.' text :=
  ofSegments_eq_ok_iff _ module

theorem dotted_of_ofDotted (read : ofDotted text = .ok module) : module.dotted = text := by
  rw [ofDotted_eq_ok_iff] at read
  rw [dotted, read]
  split
  · rename_i empty
    rw [empty]
    rfl
  · exact Text.intercalate_pieces '.' text

theorem exists_ofDotted_of_slashFree (slashFree : '/' ∉ text.toList) :
    ∃ module, ofDotted text = .ok module := by
  have pieceFree : ∀ piece ∈ Text.pieces '.' text, '/' ∉ piece.toList :=
    fun piece isPiece holdsSlash => slashFree (Text.mem_of_mem_pieces isPiece holdsSlash)
  by_cases empty : text = ""
  · refine ⟨⟨[], by simp⟩, ?_⟩
    rw [ofDotted_eq_ok_iff, if_pos empty]
  · refine ⟨⟨Text.pieces '.' text, pieceFree⟩, ?_⟩
    rw [ofDotted_eq_ok_iff, if_neg empty]

theorem exists_fault_of_slash (slashed : '/' ∈ text.toList) :
    ∃ before segment after, Text.pieces '.' text = before ++ segment :: after ∧
      (∀ piece ∈ before, '/' ∉ piece.toList) ∧ '/' ∈ segment.toList ∧
      ofDotted text = .error (.separator segment) := by
  have filled : text ≠ "" := by
    rintro rfl
    cases slashed
  rcases Text.exists_mem_pieces (by decide : '/' ≠ '.') slashed with ⟨piece, isPiece, holdsSlash⟩
  have isSome : ((Text.pieces '.' text).find? fun piece => '/' ∈ piece.toList).isSome :=
    List.find?_isSome.mpr ⟨piece, isPiece, by simpa using holdsSlash⟩
  rcases Option.isSome_iff_exists.mp isSome with ⟨segment, found⟩
  have refused : ofDotted text = .error (.separator segment) := by
    rw [ofDotted, if_neg filled]
    exact (ofSegments_eq_error_iff _ segment).mpr found
  rcases List.find?_eq_some_iff_append.mp found with ⟨holds, before, after, cut, free⟩
  exact ⟨before, segment, after, cut, by simpa using free, by simpa using holds, refused⟩

theorem dotted_eq_empty_iff (isDotted : module.IsDotted) :
    module.dotted = "" ↔ module.segments = [] ∨ module.segments = [""] := by
  constructor
  · intro empty
    by_cases none : module.segments = []
    · exact .inl none
    · -- The empty text is one empty piece.
      have cut := Text.pieces_intercalate isDotted none
      change Text.pieces '.' module.dotted = module.segments at cut
      rw [empty] at cut
      exact .inr cut.symm
  · rintro (none | single)
    · rw [dotted, none]
      rfl
    · rw [dotted, single]
      rfl

theorem ofDotted_dotted_eq_iff :
    ofDotted module.dotted = .ok module ↔ module.IsDotted ∧ module.segments ≠ [""] := by
  constructor
  · intro read
    refine ⟨isDotted_of_ofDotted read, fun single => ?_⟩
    have written : module.dotted = "" := by
      rw [dotted, single]
      rfl
    rw [ofDotted_eq_ok_iff, if_pos written, single] at read
    cases read
  · rintro ⟨isDotted, notSingle⟩
    rw [ofDotted_eq_ok_iff]
    split
    · rename_i empty
      exact ((dotted_eq_empty_iff isDotted).mp empty).resolve_right notSingle
    · rename_i filled
      have named : module.segments ≠ [] := fun none =>
        filled ((dotted_eq_empty_iff isDotted).mpr (.inl none))
      exact (Text.pieces_intercalate isDotted named).symm

/-- Every text without slashes is the dotted form of the namespace that is read from it.
Of any other text, the first piece between dots that holds a slash is reported. A namespace
is read back from its dotted form exactly if no segment holds a dot and it does not consist
of one empty segment. -/
theorem dotted_and_back :
    (∀ text, '/' ∉ text.toList → ∃ module, ofDotted text = .ok module ∧ module.dotted = text) ∧
    (∀ text, '/' ∈ text.toList → ∃ before segment after,
      ".".intercalate (before ++ segment :: after) = text ∧
      (∀ piece ∈ before ++ segment :: after, '.' ∉ piece.toList) ∧
      (∀ piece ∈ before, '/' ∉ piece.toList) ∧ '/' ∈ segment.toList ∧
      ofDotted text = .error (.separator segment) ∧
      (NamespaceFault.separator segment).message =
        "Path part '" ++ segment ++ "' must not contain a path separator.") ∧
    ∀ module : Namespace, ofDotted module.dotted = .ok module ↔
      (∀ segment ∈ module.segments, '.' ∉ segment.toList) ∧ module.segments ≠ [""] := by
  refine ⟨fun text slashFree => ?_, fun text slashed => ?_, fun module => ?_⟩
  · rcases exists_ofDotted_of_slashFree slashFree with ⟨module, read⟩
    exact ⟨module, read, dotted_of_ofDotted read⟩
  · rcases exists_fault_of_slash slashed with ⟨before, segment, after, cut, free, holds, refused⟩
    refine ⟨before, segment, after, ?_, ?_, free, holds, refused, rfl⟩
    · rw [← cut]
      exact Text.intercalate_pieces '.' text
    · rw [← cut]
      exact fun piece isPiece => Text.notMem_of_mem_pieces isPiece
  · exact ofDotted_dotted_eq_iff

/-- Empty segments are kept, and of two segments with a slash the first one is reported. -/
theorem dotted_and_back_of_empty_segments :
    '/' ∉ ".shop.".toList ∧ '/' ∈ ".a/b.c/d".toList ∧
      (∃ module, ofDotted ".shop." = .ok module ∧ module.segments = ["", "shop", ""] ∧
        module.dotted = ".shop.") ∧
      ofDotted ".a/b.c/d" = .error (.separator "a/b") := by
  have slashFree : '/' ∉ ".shop.".toList := by decide
  have slashed : '/' ∈ ".a/b.c/d".toList := by decide
  rcases dotted_and_back with ⟨readable, refused, -⟩
  rcases readable ".shop." slashFree with ⟨module, read, written⟩
  rcases refused ".a/b.c/d" slashed with
    ⟨before, segment, after, joined, free, first, holds, fault, -⟩
  have segments : module.segments = ["", "shop", ""] := ofDotted_eq_ok_iff.mp read
  have isFirst : segment = "a/b" := by
    have cut := Text.pieces_intercalate free (by simp)
    change Text.pieces '.' (".".intercalate (before ++ segment :: after)) = _ at cut
    rw [joined] at cut
    have found : (Text.pieces '.' ".a/b.c/d").find? (fun piece => '/' ∈ piece.toList) =
        some segment := by
      rw [cut, List.find?_append, List.find?_eq_none.mpr (by simpa using first)]
      simp [holds]
    exact Option.some.inj (found.symm.trans (by decide))
  exact ⟨slashFree, slashed, ⟨module, read, segments, written⟩, isFirst ▸ fault⟩

end Namespace

end TypedModules
