import Mathlib.Data.List.Basic

/-! # Lists without their repeats

Of items that are repeated in a list, the first one stays. So the items that stay are in
the order in which they occur first.
-/

namespace TypedModules

variable {α β : Type} [DecidableEq α] [DecidableEq β] {items : List α}

theorem idxOf_lt_of_idxOf_filter_lt {keeps : α → Bool} {first second : α}
    (firstKept : keeps first = true) (secondKept : keeps second = true)
    (before : (items.filter keeps).idxOf first < (items.filter keeps).idxOf second) :
    items.idxOf first < items.idxOf second := by
  induction items with
  | nil => exact before
  | cons next rest induction =>
      by_cases kept : keeps next = true
      · rw [List.filter_cons_of_pos kept] at before
        by_cases isFirst : next = first
        · by_cases isSecond : next = second
          · rw [← isFirst, ← isSecond] at before
            exact absurd before (Nat.lt_irrefl _)
          · rw [isFirst, List.idxOf_cons_self, List.idxOf_cons_ne _ (isFirst ▸ isSecond)]
            exact Nat.succ_pos _
        · by_cases isSecond : next = second
          · rw [isSecond, List.idxOf_cons_self] at before
            exact absurd before (Nat.not_lt_zero _)
          · rw [List.idxOf_cons_ne _ isFirst, List.idxOf_cons_ne _ isSecond] at before ⊢
            exact Nat.succ_lt_succ (induction (Nat.lt_of_succ_lt_succ before))
      · rw [List.filter_cons_of_neg kept] at before
        have notFirst : next ≠ first := fun same => kept (same ▸ firstKept)
        have notSecond : next ≠ second := fun same => kept (same ▸ secondKept)
        rw [List.idxOf_cons_ne _ notFirst, List.idxOf_cons_ne _ notSecond]
        exact Nat.succ_lt_succ (induction before)

theorem eraseDups_rises (items : List α) :
    items.eraseDups.Pairwise fun first second => items.idxOf first < items.idxOf second := by
  match items with
  | [] => exact .nil
  | first :: rest =>
      rw [List.eraseDups_cons, List.pairwise_cons]
      have others : ∀ item ∈ (rest.filter (!· == first)).eraseDups, item ≠ first := by
        intro item member
        simpa using List.of_mem_filter (List.mem_eraseDups.mp member)
      constructor
      · intro item member
        rw [List.idxOf_cons_self, List.idxOf_cons_ne _ (others item member).symm]
        exact Nat.succ_pos _
      · refine (eraseDups_rises (rest.filter (!· == first))).imp_of_mem ?_
        intro item later member laterMember before
        have different := others item member
        have laterDifferent := others later laterMember
        rw [List.idxOf_cons_ne _ different.symm, List.idxOf_cons_ne _ laterDifferent.symm]
        exact Nat.succ_lt_succ (idxOf_lt_of_idxOf_filter_lt (by simpa using different)
          (by simpa using laterDifferent) before)
termination_by items.length
decreasing_by exact Nat.lt_succ_of_le (List.length_filter_le _ _)

theorem nodup_eraseDups (items : List α) : items.eraseDups.Nodup :=
  (eraseDups_rises items).imp fun before => by
    rintro rfl
    exact Nat.lt_irrefl _ before

theorem eraseDups_of_nodup (distinct : items.Nodup) : items.eraseDups = items := by
  induction items with
  | nil => rfl
  | cons first rest induction =>
      rw [List.nodup_cons] at distinct
      have others : rest.filter (!· == first) = rest := by
        rw [List.filter_eq_self]
        intro other member
        have different : other ≠ first := fun same => distinct.1 (same ▸ member)
        simpa using different
      rw [List.eraseDups_cons, others, induction distinct.2]

theorem eraseDups_map {f : α → β} (items : List α)
    (injective : ∀ first ∈ items, ∀ second ∈ items, f first = f second → first = second) :
    (items.map f).eraseDups = items.eraseDups.map f := by
  match items, injective with
  | [], _ => rfl
  | first :: rest, injective =>
      have same : (rest.map f).filter (!· == f first) = (rest.filter (!· == first)).map f := by
        rw [List.filter_map]
        congr 1
        apply List.filter_congr
        intro item member
        have apart : f item = f first ↔ item = first :=
          ⟨injective item (List.mem_cons_of_mem _ member) first List.mem_cons_self, congrArg f⟩
        simp [apart]
      have fewer : rest.filter (!· == first) ⊆ first :: rest :=
        (List.filter_sublist.trans (List.sublist_cons_self first rest)).subset
      rw [List.map_cons, List.eraseDups_cons, List.eraseDups_cons, same, List.map_cons,
        eraseDups_map (rest.filter (!· == first)) fun item member other otherMember =>
          injective item (fewer member) other (fewer otherMember)]
termination_by items.length
decreasing_by exact Nat.lt_succ_of_le (List.length_filter_le _ _)

end TypedModules
