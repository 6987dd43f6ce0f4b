import Mathlib.Data.List.Induction
import TypedModules.Proofs.Directory.Resolution

/-! # Paths that climb, and directories within others

Whatever segments a relative path has, it climbs some levels first and goes down
along ordinary names from there. This does not depend on the place it starts from.
A place is left exactly if the names below the last common directory are not those
that the path has climbed before.
-/

namespace TypedModules.Directory

/-! ## Climbing -/

/-- Following segments climbs some levels and then goes down along names, with the
last one first. An unknown place is left by as many steps up, and a known one loses
as many names. -/
structure Leads (path : List String) (climb : Nat) (down : List String) : Prop where
  ordinary : ∀ name ∈ down, IsOrdinary name
  unknown : path.foldl (enter false) [] = down ++ List.replicate climb ".."
  known : ∀ stack : List String, ".." ∉ stack →
    path.foldl (enter true) stack = down ++ stack.drop climb

namespace Leads

variable {path down : List String} {climb : Nat} {segment : String}

theorem nil : Leads [] 0 [] where
  ordinary := by simp
  unknown := rfl
  known _ _ := rfl

theorem concat_of_stay (leads : Leads path climb down) (stays : segment = "" ∨ segment = ".") :
    Leads (path ++ [segment]) climb down where
  ordinary := leads.ordinary
  unknown := by simp [leads.unknown, enter, stays]
  known stack noUp := by simp [leads.known stack noUp, enter, stays]

theorem concat_of_ordinary (leads : Leads path climb down) (ordinary : IsOrdinary segment) :
    Leads (path ++ [segment]) climb (segment :: down) where
  ordinary := List.forall_mem_cons.mpr ⟨ordinary, leads.ordinary⟩
  unknown := by simp [leads.unknown, enter_ordinary _ _ ordinary]
  known stack noUp := by simp [leads.known stack noUp, enter_ordinary _ _ ordinary]

/-- A step up takes the last name away. -/
theorem concat_of_up_of_cons {last : String} (leads : Leads path climb (last :: down)) :
    Leads (path ++ [".."]) climb down where
  ordinary := (List.forall_mem_cons.mp leads.ordinary).2
  unknown := by
    have notUp := (leads.ordinary last List.mem_cons_self).notUp
    simp [leads.unknown, enter, notUp]
  known stack noUp := by
    have notUp := (leads.ordinary last List.mem_cons_self).notUp
    simp [leads.known stack noUp, enter, notUp]

theorem concat_of_up_of_nil (leads : Leads path climb []) :
    Leads (path ++ [".."]) (climb + 1) [] where
  ordinary := by simp
  unknown := by
    rw [List.foldl_append, leads.unknown, List.nil_append, List.foldl_cons, List.foldl_nil]
    cases climb with
    | zero => rfl
    | succ more => rfl
  known stack noUp := by
    rw [List.foldl_append, leads.known stack noUp, List.nil_append, ← List.drop_drop]
    exact foldl_enter_up 1 _ fun member => noUp (List.mem_of_mem_drop member)

end Leads

theorem exists_leads (path : List String) (slashFree : ∀ segment ∈ path, '/' ∉ segment.toList) :
    ∃ climb down, Leads path climb down := by
  induction path using List.reverseRecOn with
  | nil => exact ⟨0, [], .nil⟩
  | append_singleton path segment induction =>
      rw [List.forall_mem_append] at slashFree
      rcases induction slashFree.1 with ⟨climb, down, leads⟩
      by_cases stays : segment = "" ∨ segment = "."
      · exact ⟨climb, down, leads.concat_of_stay stays⟩
      · by_cases up : segment = ".."
        · subst up
          cases down with
          | nil => exact ⟨climb + 1, [], leads.concat_of_up_of_nil⟩
          | cons last outer => exact ⟨climb, outer, leads.concat_of_up_of_cons⟩
        · rw [not_or] at stays
          have ordinary : IsOrdinary segment :=
            ⟨stays.1, stays.2, up, slashFree.2 segment (List.mem_singleton_self segment)⟩
          exact ⟨climb, segment :: down, leads.concat_of_ordinary ordinary⟩

/-! ## Directories within others -/

/-- A directory itself, or one that names lead to from there. -/
def IsWithin (outer inner : String) : Prop :=
  inner = outer ∨ ∃ below : List String, below ≠ [] ∧ (∀ name ∈ below, IsOrdinary name) ∧
    inner = append outer ("/".intercalate below)

theorem endsWithSlash_append_of_slashFree (left : String) {segment : String}
    (nonempty : segment ≠ "") (slashFree : '/' ∉ segment.toList) :
    endsWithSlash (left ++ segment) = false := by
  have last : segment.toList.getLast? ≠ some '/' := fun found =>
    slashFree (List.mem_of_getLast? found)
  simp [endsWithSlash, last, nonempty]

theorem endsWithSlash_append_intercalate (left : String) {names : List String}
    (filled : ∀ name ∈ names, name ≠ "" ∧ '/' ∉ name.toList) (named : names ≠ []) :
    endsWithSlash (left ++ "/".intercalate names) = false := by
  have last := filled _ (List.getLast_mem named)
  rw [← List.dropLast_concat_getLast named]
  by_cases single : names.dropLast = []
  · rw [single, List.nil_append, String.intercalate_singleton]
    exact endsWithSlash_append_of_slashFree _ last.1 last.2
  · rw [String.intercalate_append_of_ne_nil single (List.cons_ne_nil _ _),
      String.intercalate_singleton, ← String.append_assoc]
    exact endsWithSlash_append_of_slashFree _ last.1 last.2

theorem endsWithSlash_normalize {path : String} (rooted : isAbsolute path = true)
    (named : trail path ≠ []) : endsWithSlash (normalize path) = false := by
  rw [normalize_of_absolute rooted]
  refine endsWithSlash_append_intercalate _ (fun name member => ?_) named
  have ordinary := ordinary_of_mem_trail member
  exact ⟨ordinary.nonempty, ordinary.slashFree⟩

theorem normalize_eq_append {outer inner : String} (outerRooted : isAbsolute outer = true)
    (innerRooted : isAbsolute inner = true) (sameMark : rootMark outer = rootMark inner)
    {below : List String} (filled : below ≠ []) (further : trail inner = trail outer ++ below) :
    normalize inner = append (normalize outer) ("/".intercalate below) := by
  have ordinary : ∀ name ∈ below, IsOrdinary name := fun name member =>
    ordinary_of_mem_trail (further ▸ List.mem_append_right _ member)
  have relative := isAbsolute_intercalate_of_ordinary ordinary
  rw [append, relative, if_neg Bool.false_ne_true, normalize_of_absolute innerRooted, further,
    ← sameMark]
  by_cases atRoot : trail outer = []
  · -- A root mark ends with a slash, so none is added.
    have ends : normalize outer = "" ∨ endsWithSlash (normalize outer) = true := by
      rw [normalize_of_absolute outerRooted, atRoot, String.intercalate_nil, String.append_empty]
      rcases rootMark_cases outer with mark | mark | mark <;> rw [mark] <;> decide
    rw [if_pos ends, normalize_of_absolute outerRooted, atRoot, String.intercalate_nil,
      String.append_empty, List.nil_append]
  · have nonempty : normalize outer ≠ "" := by
      intro empty
      have absolute := isAbsolute_normalize outerRooted
      rw [empty] at absolute
      cases absolute
    have open_ : ¬(normalize outer = "" ∨ endsWithSlash (normalize outer) = true) := by
      simp [nonempty, endsWithSlash_normalize outerRooted atRoot]
    rw [if_neg open_, normalize_of_absolute outerRooted,
      String.intercalate_append_of_ne_nil atRoot filled]
    simp only [String.append_assoc]

theorem isWithin_normalize_iff {outer inner : String} (outerRooted : isAbsolute outer = true)
    (innerRooted : isAbsolute inner = true) :
    IsWithin (normalize outer) (normalize inner) ↔
      rootMark outer = rootMark inner ∧ trail outer <+: trail inner := by
  constructor
  · rintro (same | ⟨below, -, ordinary, lower⟩)
    · rw [← rootMark_normalize outerRooted, ← trail_normalize outerRooted, ← same,
        rootMark_normalize innerRooted, trail_normalize innerRooted]
      exact ⟨rfl, List.prefix_refl _⟩
    · have relative := isAbsolute_intercalate_of_ordinary ordinary
      rw [← rootMark_normalize innerRooted, ← trail_normalize innerRooted, lower,
        rootMark_append _ relative, trail_append _ relative, ← foldl_enter_names,
        names_intercalate_of_ordinary ordinary, foldl_enter_ordinary _ _ ordinary,
        rootMark_normalize outerRooted, trail_normalize outerRooted]
      simp
  · rintro ⟨sameMark, below, further⟩
    by_cases here : below = []
    · rw [here, List.append_nil] at further
      exact .inl (normalize_eq_normalize innerRooted outerRooted sameMark.symm further.symm)
    · refine .inr ⟨below, here, ?_, normalize_eq_append outerRooted innerRooted sameMark here
        further.symm⟩
      intro name member
      have onTrail : name ∈ trail inner := further ▸ List.mem_append_right _ member
      exact ordinary_of_mem_trail onTrail

end TypedModules.Directory
