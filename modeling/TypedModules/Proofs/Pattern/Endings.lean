import Mathlib.Data.List.Infix
import TypedModules.Proofs.Pattern.Finding

/-! # Endings of found paths

What a pattern ends with, all paths end with that it stands for, as long as the ending is
made of plain characters.
-/

namespace TypedModules.Pattern

/-! ## Endings of texts -/

structure IsPlainEnding (ending : List Char) : Prop where
  filled : ending ≠ []
  plain : ∀ character ∈ ending, character ∉ ['*', '?', '[', ']', '/']

variable {ending : List Char}

theorem isSuffix_of_notMem {separator : Char} {rest whole : List Char}
    (absent : separator ∉ ending) (ends : ending <:+ whole) (cut : separator :: rest <:+ whole) :
    ending <:+ rest := by
  rcases List.suffix_or_suffix_of_suffix ends cut with within | beyond
  · rcases List.suffix_cons_iff.mp within with rfl | within
    · exact absurd List.mem_cons_self absent
    · exact within
  · exact absurd (beyond.mem List.mem_cons_self) absent

theorem IsPlainEnding.notMem (isPlain : IsPlainEnding ending) {character : Char}
    (special : character ∈ ['*', '?', '[', ']', '/']) : character ∉ ending :=
  fun member => isPlain.plain character member special

/-! ## Accepted names -/

namespace Wildcard

theorem mem_remainders_iff {text remainder : List Char} :
    remainder ∈ remainders text ↔ remainder <:+ text := by
  induction text with
  | nil => simp [remainders]
  | cons character rest induction =>
      rw [remainders, List.mem_cons, induction, List.suffix_cons_iff]

theorem isSuffix_of_bracketed? {text content after : List Char}
    (found : bracketed? text = some (content, after)) : ']' :: after <:+ text := by
  rw [bracketed?] at found
  split at found
  · cases found
  · rename_i closing rest cut
    cases found
    have closes : closing = ']' := by
      have head := List.head?_dropWhile_not (· ≠ ']') (text.drop (unclosing text))
      rw [cut] at head
      simpa using head
    rw [closes] at cut
    rw [← cut]
    exact (List.dropWhile_suffix _).trans (List.drop_suffix _ _)

theorem ofPattern_of_isPlain {pattern : List Char}
    (plain : ∀ character ∈ pattern, character ∉ ['*', '?', '[', ']', '/']) :
    ofPattern pattern = pattern.map literal := by
  induction pattern with
  | nil => rw [ofPattern, List.map_nil]
  | cons first rest induction =>
      rw [List.forall_mem_cons] at plain
      have special := plain.1
      simp only [List.mem_cons, not_or] at special
      rw [ofPattern, induction plain.2, List.map_cons]
      · exact special.1
      · exact special.2.1
      · exact special.2.2.1

theorem isSuffix_of_matchAll_cons {wildcard : Wildcard} {rest : List Wildcard} {name : List Char}
    (behind : ∀ {name}, matchAll rest name = true → ending <:+ name)
    (accepted : matchAll (wildcard :: rest) name = true) : ending <:+ name := by
  cases wildcard with
  | anyText =>
      rw [matchAll, List.any_eq_true] at accepted
      rcases accepted with ⟨remainder, isRemainder, accepted⟩
      exact (behind accepted).trans (mem_remainders_iff.mp isRemainder)
  | one set | literal expected =>
      cases name with
      | nil => cases accepted
      | cons first others =>
          rw [matchAll, Bool.and_eq_true] at accepted
          exact (behind accepted.2).trans (List.suffix_cons first others)

theorem isSuffix_of_matchAll (isPlain : IsPlainEnding ending) {pattern name : List Char}
    (ends : ending <:+ pattern) (accepted : matchAll (ofPattern pattern) name = true) :
    ending <:+ name := by
  have within {separator : Char} (special : separator ∈ ['*', '?', '[', ']', '/'])
      {rest whole : List Char} (ends : ending <:+ whole) (cut : separator :: rest <:+ whole) :
      ending <:+ rest :=
    isSuffix_of_notMem (isPlain.notMem special) ends cut
  fun_induction ofPattern pattern generalizing name with
  | case1 => exact absurd (List.suffix_nil.mp ends) isPlain.filled
  | case2 rest induction =>
      exact isSuffix_of_matchAll_cons (induction (within (by decide) ends List.suffix_rfl)) accepted
  | case3 rest induction =>
      exact isSuffix_of_matchAll_cons (induction (within (by decide) ends List.suffix_rfl)) accepted
  | case4 rest content after found induction =>
      have closed := (isSuffix_of_bracketed? found).trans (List.suffix_cons '[' rest)
      exact isSuffix_of_matchAll_cons (induction (within (by decide) ends closed)) accepted
  | case5 rest unclosed induction =>
      exact isSuffix_of_matchAll_cons (induction (within (by decide) ends List.suffix_rfl)) accepted
  | case6 character rest notStar notMark notBracket induction =>
      rcases List.suffix_cons_iff.mp ends with rfl | further
      · -- The ending is all that is left, and accepts itself only.
        rw [ofPattern_of_isPlain (List.forall_mem_cons.mp isPlain.plain).2, ← List.map_cons,
          matchAll_literal] at accepted
        rw [accepted]
      · exact isSuffix_of_matchAll_cons (induction further) accepted

theorem isSuffix_of_accepts (isPlain : IsPlainEnding ending) {pattern name : String}
    (ends : ending <:+ pattern.toList) (accepted : accepts pattern name = true) :
    ending <:+ name.toList := by
  rw [accepts_eq_matchAll] at accepted
  exact isSuffix_of_matchAll isPlain ends accepted

end Wildcard

/-! ## Endings of paths -/

theorem suffix_append (directory path : String) :
    path.toList <:+ (Directory.append directory path).toList := by
  rw [Directory.append]
  split_ifs
  · exact List.suffix_rfl
  · rw [String.toList_append]
    exact List.suffix_append _ _
  · rw [String.toList_append]
    exact List.suffix_append _ _

theorem slash_suffix_intercalate (first : String) (others : List String) (last : String) :
    '/' :: last.toList <:+ ("/".intercalate (first :: others ++ [last])).toList := by
  induction others generalizing first with
  | nil => simp
  | cons second rest induction =>
      rw [List.cons_append, List.cons_append, String.intercalate_cons_cons, String.toList_append]
      exact (induction second).trans (List.suffix_append _ _)

theorem suffix_intercalate_concat (names : List String) (last : String) :
    last.toList <:+ ("/".intercalate (names ++ [last])).toList := by
  cases names with
  | nil => simp
  | cons first others =>
      exact (List.suffix_cons '/' _).trans (slash_suffix_intercalate first others last)

theorem segments_ne_nil (path : String) : Directory.segments path ≠ [] :=
  Text.pieces_ne_nil '/' path

theorem isSuffix_getLast_segments (isPlain : IsPlainEnding ending) {path : String}
    (ends : ending <:+ path.toList) :
    ending <:+ ((Directory.segments path).getLast (segments_ne_nil path)).toList := by
  have joined : "/".intercalate (Directory.segments path) = path := Text.intercalate_pieces '/' path
  have cut := List.dropLast_concat_getLast (segments_ne_nil path)
  rw [← joined, ← cut] at ends
  cases front : (Directory.segments path).dropLast with
  | nil =>
      rw [front, List.nil_append, String.intercalate_singleton] at ends
      exact ends
  | cons first others =>
      rw [front] at ends
      exact isSuffix_of_notMem (isPlain.notMem (by decide)) ends (slash_suffix_intercalate ..)

namespace Lookup

variable {lookup : Lookup} {directory name path pattern : String} {directoriesOnly : Bool}

theorem isSuffix_of_mem_names (isPlain : IsPlainEnding ending) (ends : ending <:+ pattern.toList)
    (found : name ∈ lookup.names directoriesOnly directory pattern) : ending <:+ name.toList := by
  rw [names] at found
  split_ifs at found with isPattern deep isEmpty isDirectory isThere
  · rw [Bool.and_eq_true, decide_eq_true_iff] at deep
    -- Two stars end with nothing but stars.
    rcases List.exists_mem_of_ne_nil _ isPlain.filled with ⟨character, member⟩
    have star : character = '*' := by simpa [deep.2] using ends.mem member
    exact absurd (star ▸ member) (isPlain.notMem (by decide))
  · rcases List.mem_map.mp found with ⟨entry, listed, rfl⟩
    have accepted := List.of_mem_filter listed
    rw [Bool.and_eq_true] at accepted
    exact Wildcard.isSuffix_of_accepts isPlain ends accepted.2
  · rw [isEmpty] at ends
    exact absurd (List.suffix_nil.mp ends) isPlain.filled
  · cases found
  · rwa [List.mem_singleton.mp found]
  · cases found

theorem getLast_names_of_ofPath? {shape : PathPattern}
    (cut : PathPattern.ofPath? path = some shape) :
    shape.names.getLast (names_ne_nil_of_ofPath? cut) =
      (Directory.segments path).getLast (segments_ne_nil path) := by
  apply Option.some.inj
  rw [← List.getLast?_eq_some_getLast, ← List.getLast?_eq_some_getLast]
  rcases exists_segments_of_ofPath? cut with ⟨literal, first, rest, split, -, -, names⟩
  rw [names, split]
  rcases List.eq_nil_or_concat rest with rfl | ⟨front, last, rfl⟩
  · simp
  · simp [List.getLast?_append, List.getLast?_cons]

theorem isSuffix_of_mem_expand (isPlain : IsPlainEnding ending) (ends : ending <:+ pattern.toList)
    (found : path ∈ lookup.expand pattern) : ending <:+ path.toList := by
  rw [expand] at found
  split at found
  · rw [List.mem_ite_nil_right, List.mem_singleton] at found
    rwa [found.2]
  · rename_i shape cut
    rcases exists_of_mem_paths (names_ne_nil_of_ofPath? cut) _ (List.mem_of_mem_filter found) with
      ⟨directory, name, named, rfl⟩
    have lastEnds := isSuffix_getLast_segments isPlain ends
    rw [← getLast_names_of_ofPath? cut] at lastEnds
    exact (isSuffix_of_mem_names isPlain lastEnds named).trans (suffix_append directory name)

end Lookup

end TypedModules.Pattern
