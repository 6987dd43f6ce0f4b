import Mathlib.Data.List.Forall2
import TypedModules.Registry

/-! # Registries entry by entry

Registries are compared entry by entry when they have the same keys in the same
order. A registry that grows keeps its entries, with values that continue the
ones before, and gets new entries behind them.
-/

namespace TypedModules.Registry

variable {α : Type} {Relates Continues : α → α → Prop}
variable {first second third registry : Registry α} {key : String} {value other : α}

/-! ## Entries and lookup -/

theorem find?_eq_none_iff : registry.find? key = none ↔ key ∉ registry.keys := by
  rw [find?, List.lookup_eq_none_iff, keys, List.mem_map]
  constructor
  · rintro different ⟨entry, member, rfl⟩
    simpa using different entry member
  · intro unknown entry member
    rw [bne_iff_ne]
    rintro rfl
    exact unknown ⟨entry, member, rfl⟩

theorem lookup_eq_some_iff_mem {κ β : Type} [BEq κ] [LawfulBEq κ] {entries : List (κ × β)}
    (distinct : (entries.map Prod.fst).Nodup) {key : κ} {value : β} :
    entries.lookup key = some value ↔ (key, value) ∈ entries := by
  rw [List.lookup_eq_some_iff]
  constructor
  · rintro ⟨before, after, split, -⟩
    simp [split]
  · intro member
    rcases List.append_of_mem member with ⟨before, after, split⟩
    refine ⟨before, after, split, ?_⟩
    rw [split, List.map_append, List.map_cons, List.nodup_append] at distinct
    intro entry inBefore
    have differs := distinct.2.2 entry.1 (List.mem_map_of_mem inBefore) key List.mem_cons_self
    simpa using differs.symm

theorem find?_eq_some_iff : registry.find? key = some value ↔ (key, value) ∈ registry.entries :=
  lookup_eq_some_iff_mem registry.distinct

theorem entries_put_of_known (known : key ∈ registry.keys) (value : α) :
    (registry.put key value).entries =
      registry.entries.map fun entry => (entry.1, if entry.1 = key then value else entry.2) := by
  simp [put, known, mapValues]

theorem entries_put_of_new (new : key ∉ registry.keys) (value : α) :
    (registry.put key value).entries = registry.entries ++ [(key, value)] := by
  simp [put, new]

theorem put_of_find? (found : registry.find? key = some value) :
    registry.put key value = registry := by
  have known : key ∈ registry.keys := by
    by_contra unknown
    rw [find?_eq_none_iff.mpr unknown] at found
    cases found
  apply eq_of_entries
  rw [entries_put_of_known known]
  conv_rhs => rw [← List.map_id registry.entries]
  apply List.map_congr_left
  rintro ⟨name, old⟩ member
  by_cases same : name = key
  · subst same
    have recorded : registry.find? name = some old := find?_eq_some_iff.mpr member
    rw [recorded, Option.some.injEq] at found
    simp [found]
  · simp [same]

theorem put_put (registry : Registry α) (key : String) (value other : α) :
    (registry.put key value).put key other = registry.put key other := by
  have known : key ∈ (registry.put key value).keys := by
    rw [keys_put]
    split <;> simp [*]
  apply eq_of_entries
  rw [entries_put_of_known known]
  by_cases before : key ∈ registry.keys
  · rw [entries_put_of_known before, entries_put_of_known before, List.map_map]
    apply List.map_congr_left
    intro entry _
    by_cases same : entry.1 = key <;> simp [same]
  · rw [entries_put_of_new before, entries_put_of_new before, List.map_append]
    congr 1
    · conv_rhs => rw [← List.map_id registry.entries]
      apply List.map_congr_left
      intro entry member
      have different : entry.1 ≠ key := by
        rintro rfl
        exact before (List.mem_map_of_mem member)
      simp [different]
    · simp

theorem forall_mem_put {Holds : String → α → Prop}
    (all : ∀ entry ∈ registry.entries, Holds entry.1 entry.2) (holds : Holds key value) :
    ∀ entry ∈ (registry.put key value).entries, Holds entry.1 entry.2 := by
  by_cases known : key ∈ registry.keys
  · rw [entries_put_of_known known]
    intro entry member
    rcases List.mem_map.mp member with ⟨old, inRegistry, rfl⟩
    by_cases same : old.1 = key
    · simpa [same] using holds
    · simpa [same] using all old inRegistry
  · rw [entries_put_of_new known]
    intro entry member
    rcases List.mem_append.mp member with inRegistry | isNew
    · exact all entry inRegistry
    · rw [List.mem_singleton] at isNew
      subst isNew
      exact holds

/-! ## Related registries -/

def Pointwise (Relates : α → α → Prop) (first second : Registry α) : Prop :=
  List.Forall₂ (fun entry other => entry.1 = other.1 ∧ Relates entry.2 other.2)
    first.entries second.entries

namespace Pointwise

theorem refl (reflexive : ∀ value, Relates value value) (registry : Registry α) :
    Pointwise Relates registry registry :=
  List.forall₂_same.mpr fun entry _ => ⟨rfl, reflexive entry.2⟩

theorem keys_eq (related : Pointwise Relates first second) : first.keys = second.keys := by
  have same : List.Forall₂ (· = ·) (first.entries.map Prod.fst) (second.entries.map Prod.fst) := by
    rw [List.forall₂_map_left_iff, List.forall₂_map_right_iff]
    exact related.imp fun _ _ relates => relates.1
  rwa [List.forall₂_eq_eq_eq] at same

theorem find? (related : Pointwise Relates first second) (key : String) :
    (first.find? key = none ∧ second.find? key = none) ∨
      ∃ value other, first.find? key = some value ∧ second.find? key = some other ∧
        Relates value other := by
  unfold Pointwise at related
  unfold Registry.find?
  generalize first.entries = entries, second.entries = others at related
  induction related with
  | nil => simp
  | @cons entry other _ _ relates _ induction =>
      rw [List.lookup_cons, List.lookup_cons, relates.1]
      cases key == other.1 with
      | true => exact .inr ⟨entry.2, other.2, rfl, rfl, relates.2⟩
      | false => exact induction

theorem put (related : Pointwise Relates first second) (key : String)
    (relates : Relates value other) :
    Pointwise Relates (first.put key value) (second.put key other) := by
  unfold Pointwise at related ⊢
  by_cases known : key ∈ first.keys
  · rw [entries_put_of_known known, entries_put_of_known (keys_eq related ▸ known),
      List.forall₂_map_left_iff, List.forall₂_map_right_iff]
    apply related.imp
    intro entry counterpart both
    rw [both.1]
    by_cases same : counterpart.1 = key <;> simp [same, relates, both.2]
  · rw [entries_put_of_new known, entries_put_of_new (keys_eq related ▸ known)]
    exact List.rel_append related (.cons ⟨rfl, relates⟩ .nil)

end Pointwise

theorem forall_mem_of_forall₂ {RelatesEntry : String × α → String × α → Prop}
    {Holds : String × α → Prop} {entries others : List (String × α)}
    (related : List.Forall₂ RelatesEntry entries others)
    (passesOn : ∀ {entry other}, RelatesEntry entry other → Holds entry → Holds other)
    (all : ∀ entry ∈ entries, Holds entry) : ∀ other ∈ others, Holds other := by
  induction related with
  | nil => simp
  | cons relates _ induction =>
      rw [List.forall_mem_cons] at all ⊢
      exact ⟨passesOn relates all.1, induction all.2⟩

/-! ## Growth -/

inductive EntriesGrow (Continues : α → α → Prop) :
    List (String × α) → List (String × α) → Prop where
  | added {entries : List (String × α)} : EntriesGrow Continues [] entries
  | kept {name : String} {old new : α} {rest others : List (String × α)}
      (continued : Continues old new) (grown : EntriesGrow Continues rest others) :
      EntriesGrow Continues ((name, old) :: rest) ((name, new) :: others)

/-- The entries of one registry are continued by the first entries of another. -/
def Grows (Continues : α → α → Prop) (first second : Registry α) : Prop :=
  EntriesGrow Continues first.entries second.entries

namespace EntriesGrow

variable {before middle after : List (String × α)}

theorem append (reflexive : ∀ value, Continues value value)
    (entries further : List (String × α)) :
    EntriesGrow Continues entries (entries ++ further) := by
  induction entries with
  | nil => exact .added
  | cons entry rest induction => exact .kept (reflexive entry.2) induction

theorem of_forall₂
    (related : List.Forall₂ (fun entry other => entry.1 = other.1 ∧ Continues entry.2 other.2)
      before after) :
    EntriesGrow Continues before after := by
  induction related with
  | nil => exact .added
  | @cons entry other _ _ relates _ induction =>
      rcases entry with ⟨name, old⟩
      rcases other with ⟨sameName, new⟩
      rcases relates with ⟨rfl, continued⟩
      exact .kept continued induction

theorem trans
    (transitive : ∀ {old middle new}, Continues old middle → Continues middle new →
      Continues old new)
    (start : EntriesGrow Continues before middle) (rest : EntriesGrow Continues middle after) :
    EntriesGrow Continues before after := by
  induction start generalizing after with
  | added => exact .added
  | kept continued _ induction =>
      cases rest with
      | kept again grown => exact .kept (transitive continued again) (induction grown)

theorem isPrefix_of_frozen (grown : EntriesGrow Continues before after)
    (frozen : ∀ entry ∈ before, ∀ new, Continues entry.2 new → new = entry.2) :
    before <+: after := by
  induction grown with
  | added => exact List.nil_prefix
  | kept continued _ induction =>
      rw [List.forall_mem_cons] at frozen
      rw [frozen.1 _ continued, List.prefix_cons_inj]
      exact induction frozen.2

end EntriesGrow

/-- A registry grows by a value under a new key, or by one that continues the value
it replaces. -/
theorem grows_put (reflexive : ∀ value, Continues value value) (registry : Registry α)
    (continued : ∀ old, registry.find? key = some old → Continues old value) :
    Grows Continues registry (registry.put key value) := by
  by_cases known : key ∈ registry.keys
  · apply EntriesGrow.of_forall₂
    rw [entries_put_of_known known, List.forall₂_map_right_iff, List.forall₂_same]
    intro entry member
    refine ⟨rfl, ?_⟩
    by_cases same : entry.1 = key
    · subst same
      simpa using continued entry.2 (find?_eq_some_iff.mpr member)
    · simpa [same] using reflexive entry.2
  · rw [Grows, entries_put_of_new known]
    exact EntriesGrow.append reflexive registry.entries _

end TypedModules.Registry
