/-! # Registries

A registry keeps values under distinct keys, in the order in which the keys were
first put. Putting a value under a known key replaces the old value at its
place.
-/

namespace TypedModules

/-- Values under distinct keys, in the order of first registration. -/
structure Registry (α : Type) where
  entries : List (String × α) := []
  distinct : (entries.map Prod.fst).Nodup := by simp

namespace Registry

variable {α : Type}

instance [DecidableEq α] : DecidableEq (Registry α) := fun first second =>
  if same : first.entries = second.entries then
    isTrue (by cases first; cases second; simp_all)
  else
    isFalse fun equal => same (congrArg entries equal)

def empty : Registry α := {}

def keys (registry : Registry α) : List String :=
  registry.entries.map Prod.fst

def values (registry : Registry α) : List α :=
  registry.entries.map Prod.snd

def find? (registry : Registry α) (key : String) : Option α :=
  registry.entries.lookup key

def mapValues {β : Type} (registry : Registry α) (transform : String → α → β) : Registry β where
  entries := registry.entries.map fun entry => (entry.1, transform entry.1 entry.2)
  distinct := by
    simpa [List.map_map, Function.comp_def] using registry.distinct

/-- Put a value under a key: at the place of the key, or at the end if it is new. -/
def put (registry : Registry α) (key : String) (value : α) : Registry α :=
  if known : key ∈ registry.keys then
    registry.mapValues fun other old => if other = key then value else old
  else
    { entries := registry.entries ++ [(key, value)]
      distinct := by
        rw [List.map_append, List.nodup_append]
        refine ⟨registry.distinct, by simp, ?_⟩
        intro first firstMember second secondMember same
        simp only [List.map_cons, List.map_nil, List.mem_singleton] at secondMember
        exact known (by simpa [keys, ← secondMember, ← same] using firstMember) }

theorem keys_put (registry : Registry α) (key : String) (value : α) :
    (registry.put key value).keys =
      if key ∈ registry.keys then registry.keys else registry.keys ++ [key] := by
  unfold put
  split <;> simp [keys, mapValues, List.map_map, Function.comp_def]

private theorem lookup_map (entries : List (String × α)) (transform : String → α → α)
    (key : String) :
    (entries.map fun entry => (entry.1, transform entry.1 entry.2)).lookup key =
      (entries.lookup key).map (transform key) := by
  induction entries with
  | nil => rfl
  | cons first rest induction =>
      rw [List.map_cons, List.lookup_cons, List.lookup_cons, induction]
      cases same : key == first.1 with
      | false => rfl
      | true => simp [eq_of_beq same]

private theorem lookup_isSome {entries : List (String × α)} {key : String}
    (known : key ∈ entries.map Prod.fst) : (entries.lookup key).isSome = true := by
  induction entries with
  | nil => simp at known
  | cons first rest induction =>
      rw [List.lookup_cons]
      cases same : key == first.1 with
      | true => rfl
      | false =>
          rcases List.mem_cons.1 known with isFirst | inRest
          · simp [isFirst] at same
          · exact induction inRest

private theorem lookup_append_single (entries : List (String × α)) (key other : String)
    (value : α) (fresh : key ∉ entries.map Prod.fst) :
    (entries ++ [(key, value)]).lookup other =
      if other = key then some value else entries.lookup other := by
  induction entries with
  | nil =>
      by_cases same : other = key
      · simp [same]
      · simp [List.lookup_cons, same, beq_eq_false_iff_ne.2 same]
  | cons first rest induction =>
      simp only [List.map_cons, List.mem_cons, not_or] at fresh
      rw [List.cons_append, List.lookup_cons, List.lookup_cons, induction fresh.2]
      cases found : other == first.1 with
      | false => rfl
      | true =>
          have isFirst := eq_of_beq found
          have different : other ≠ key := fun same => fresh.1 (same ▸ isFirst)
          simp [different]

theorem find?_mapValues (registry : Registry α) (transform : String → α → α) (key : String) :
    (registry.mapValues transform).find? key = (registry.find? key).map (transform key) :=
  lookup_map registry.entries transform key

@[simp]
theorem find?_put_same (registry : Registry α) (key : String) (value : α) :
    (registry.put key value).find? key = some value := by
  unfold put
  split
  · rename_i known
    rw [find?_mapValues]
    cases found : registry.find? key with
    | none =>
        have isSome := lookup_isSome known
        rw [find?] at found
        simp [found] at isSome
    | some old => simp
  · rename_i fresh
    simp [find?, lookup_append_single _ _ _ _ fresh]

theorem find?_put_other (registry : Registry α) {key other : String} (value : α)
    (different : other ≠ key) : (registry.put key value).find? other = registry.find? other := by
  unfold put
  split
  · rw [find?_mapValues]
    cases registry.find? other with
    | none => rfl
    | some old => simp [different]
  · rename_i fresh
    simp [find?, lookup_append_single _ _ _ _ fresh, different]

theorem eq_of_entries {first second : Registry α} (same : first.entries = second.entries) :
    first = second := by
  cases first; cases second; simp_all

end Registry

end TypedModules
