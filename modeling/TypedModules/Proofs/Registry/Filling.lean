import Mathlib.Tactic.ByContra
import TypedModules.Registry

/-! # Registries that are filled

Entries are put in order. As long as entries under one key agree, the registry holds
exactly what was put.
-/

namespace TypedModules.Registry

variable {α : Type} {entries : List (String × α)} {key : String} {value : α}

def putAll (registry : Registry α) (entries : List (String × α)) : Registry α :=
  entries.foldl (fun reached entry => reached.put entry.1 entry.2) registry

theorem putAll_append (registry : Registry α) (first second : List (String × α)) :
    registry.putAll (first ++ second) = (registry.putAll first).putAll second :=
  List.foldl_append

theorem find?_putAll_of_not_mem (registry : Registry α) (other : ∀ old, (key, old) ∉ entries) :
    (registry.putAll entries).find? key = registry.find? key := by
  induction entries generalizing registry with
  | nil => rfl
  | cons first rest induction =>
      have different : key ≠ first.1 := by
        rintro rfl
        exact other first.2 List.mem_cons_self
      have otherInRest : ∀ old, (key, old) ∉ rest := fun old member =>
        other old (List.mem_cons_of_mem first member)
      exact (induction _ otherInRest).trans (find?_put_other registry first.2 different)

theorem find?_putAll_of_mem (registry : Registry α) (member : (key, value) ∈ entries)
    (only : ∀ other, (key, other) ∈ entries → other = value) :
    (registry.putAll entries).find? key = some value := by
  induction entries generalizing registry with
  | nil => cases member
  | cons first rest induction =>
      have onlyInRest : ∀ other, (key, other) ∈ rest → other = value := fun other inRest =>
        only other (List.mem_cons_of_mem first inRest)
      by_cases again : (key, value) ∈ rest
      · exact induction _ again onlyInRest
      · have isFirst : first = (key, value) := by
          rcases List.mem_cons.mp member with same | inRest
          · exact same.symm
          · exact absurd inRest again
        have notInRest : ∀ other, (key, other) ∉ rest := fun other inRest =>
          again (onlyInRest other inRest ▸ inRest)
        have put := find?_putAll_of_not_mem (registry.put first.1 first.2) notInRest
        rw [isFirst, find?_put_same] at put
        rw [isFirst]
        exact put

/-- As long as entries with the same key agree, exactly the entries are found. -/
theorem find?_putAll_empty_eq_some_iff
    (consistent : ∀ key first second, (key, first) ∈ entries → (key, second) ∈ entries →
      first = second) :
    ((empty : Registry α).putAll entries).find? key = some value ↔ (key, value) ∈ entries := by
  constructor
  · intro found
    by_contra absent
    by_cases known : ∃ other, (key, other) ∈ entries
    · rcases known with ⟨other, member⟩
      have put := find?_putAll_of_mem empty member
        fun another same => consistent key another other same member
      rw [put, Option.some.injEq] at found
      exact absent (found ▸ member)
    · have unknown := find?_putAll_of_not_mem (empty : Registry α) (not_exists.mp known)
      rw [unknown] at found
      cases found
  · intro member
    exact find?_putAll_of_mem empty member fun other same => consistent key other value same member

end TypedModules.Registry
