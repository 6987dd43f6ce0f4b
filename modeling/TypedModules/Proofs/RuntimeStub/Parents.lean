import Mathlib.Data.List.Nodup
import TypedModules.Proofs.RuntimeStub.Export

/-! # Exports of nested names

A name with dots is assigned to a member of another export, which has to be there
first. Entities are put in order by the depth of their singular alone, so whether it
is there depends on how deep the other names of the entities are.
-/

namespace TypedModules

open StubStatement

/-- Every name comes after the names that it is nested in, if these occur at all. -/
def ParentsFirst (names : List String) : Prop :=
  ∀ before outer inner after, names = before ++ (outer ++ "." ++ inner) :: after →
    outer ∈ names → outer ∈ before

theorem exists_of_flatMap_eq {α β : Type} {lists : α → List β} {items : List α}
    {before after : List β} {found : β} (split : items.flatMap lists = before ++ found :: after) :
    ∃ front item back left right,
      items = front ++ item :: back ∧ lists item = left ++ found :: right ∧
        before = front.flatMap lists ++ left := by
  induction items generalizing before with
  | nil => simp at split
  | cons first rest induction =>
      rw [List.flatMap_cons, List.append_eq_append_iff] at split
      rcases split with ⟨skipped, rfl, inRest⟩ | ⟨left, inFirst, afterwards⟩
      · rcases induction inRest with ⟨front, item, back, left, right, rfl, here, rfl⟩
        exact ⟨first :: front, item, back, left, right, rfl, here, by simp⟩
      · cases left with
        | nil =>
            have inRest : rest.flatMap lists = [] ++ found :: after := by
              simpa using afterwards.symm
            rcases induction inRest with ⟨front, item, back, left, right, rfl, here, none⟩
            refine ⟨first :: front, item, back, left, right, rfl, here, ?_⟩
            simp only [List.append_nil] at inFirst
            rw [List.flatMap_cons, List.append_assoc, ← none, inFirst, List.append_nil]
        | cons next right =>
            rw [List.cons_append, List.cons.injEq] at afterwards
            rcases afterwards with ⟨rfl, -⟩
            exact ⟨[], first, rest, before, right, rfl, inFirst, rfl⟩

namespace Inflection

def exportNames (inflection : Inflection) : List String :=
  inflection.exported.names.eraseDups

def ExportsBefore (inflection : Inflection) (first second : String) : Prop :=
  ∃ front back, inflection.exportNames = front ++ second :: back ∧ first ∈ front

end Inflection

namespace SourceModule

variable {module : SourceModule} {inflection : Inflection} {outer inner : String}

def orderedInflections (module : SourceModule) : List Inflection :=
  module.inflections.mergeSort fun first second => first.depth ≤ second.depth

def aliasNames (module : SourceModule) : List String :=
  module.orderedInflections.flatMap Inflection.exportNames

theorem aliasLines_eq (module : SourceModule) :
    module.aliasLines = module.orderedInflections.flatMap fun inflection =>
      inflection.exportNames.map (assignmentLine · ("csn." ++ inflection.entity)) := by
  rw [aliasLines, orderedInflections, funext exportLines_eq]
  rfl

theorem mem_orderedInflections_iff :
    inflection ∈ module.orderedInflections ↔ inflection ∈ module.inflections :=
  List.mem_mergeSort

theorem depth_trans (first second third : Inflection)
    (firstLe : decide (first.depth ≤ second.depth) = true)
    (secondLe : decide (second.depth ≤ third.depth) = true) :
    decide (first.depth ≤ third.depth) = true := by
  rw [decide_eq_true_eq] at *
  exact Nat.le_trans firstLe secondLe

theorem depth_total (first second : Inflection) :
    (decide (first.depth ≤ second.depth) || decide (second.depth ≤ first.depth)) = true := by
  simpa using Nat.le_total first.depth second.depth

theorem orderedInflections_rises (module : SourceModule) :
    module.orderedInflections.Pairwise (·.depth ≤ ·.depth) := by
  have ordered := List.pairwise_mergeSort depth_trans depth_total module.inflections
  simpa [orderedInflections] using ordered

theorem parentsFirst_of_shallower
    (parents : ∀ inflection ∈ module.inflections, ∀ outer inner,
      outer ++ "." ++ inner ∈ inflection.exportNames →
      (∃ other ∈ module.inflections, outer ∈ other.exportNames) →
      (∃ other ∈ module.inflections, other.depth < inflection.depth ∧ outer ∈ other.exportNames) ∨
        inflection.ExportsBefore outer (outer ++ "." ++ inner)) :
    ParentsFirst module.aliasNames := by
  intro before outer inner after split exported
  rcases exists_of_flatMap_eq split with ⟨front, inflection, back, left, right, order, names, rfl⟩
  have member : inflection ∈ module.inflections := by
    rw [← mem_orderedInflections_iff, order]
    simp
  have nested : outer ++ "." ++ inner ∈ inflection.exportNames := by
    rw [names]
    simp
  have somewhere : ∃ other ∈ module.inflections, outer ∈ other.exportNames := by
    simpa only [aliasNames, List.mem_flatMap, mem_orderedInflections_iff] using exported
  rcases parents inflection member outer inner nested somewhere with
    ⟨other, otherMember, shallower, inOther⟩ | ⟨ownFront, ownBack, ownNames, inFront⟩
  · have rises := module.orderedInflections_rises
    rw [← mem_orderedInflections_iff, order] at otherMember
    rw [order, List.pairwise_append, List.pairwise_cons] at rises
    have inFront : other ∈ front := by
      rcases List.mem_append.mp otherMember with inFront | behind
      · exact inFront
      · rcases List.mem_cons.mp behind with rfl | inBack
        · exact absurd shallower (Nat.lt_irrefl _)
        · exact absurd shallower (Nat.not_lt.mpr (rises.2.1.1 other inBack))
    exact List.mem_append_left _ (List.mem_flatMap.mpr ⟨other, inFront, inOther⟩)
  · -- The name is exported once, so it stands at one place among those of its entity.
    have distinct : inflection.exportNames.Nodup := nodup_eraseDups _
    rw [names, List.nodup_middle, List.nodup_cons, List.mem_append, not_or] at distinct
    rw [names, List.append_cons_inj_of_notMem distinct.1.1 distinct.1.2] at ownNames
    exact List.mem_append_right _ (ownNames.1 ▸ inFront)

/-- As long as all names of an entity are nested equally deep, parents come first
whatever the order of registration is. -/
theorem parentsFirst_of_level
    (level : ∀ inflection ∈ module.inflections, ∀ name ∈ inflection.exportNames,
      name.toList.count '.' = inflection.depth) : ParentsFirst module.aliasNames := by
  apply parentsFirst_of_shallower
  rintro inflection member outer inner nested ⟨other, otherMember, inOther⟩
  have deeper := level inflection member _ nested
  have shallower := level other otherMember outer inOther
  have dot : ".".toList.count '.' = 1 := by decide
  have dots : (outer ++ "." ++ inner).toList.count '.' =
      outer.toList.count '.' + 1 + inner.toList.count '.' := by
    rw [String.toList_append, String.toList_append, List.count_append, List.count_append, dot]
  exact .inl ⟨other, otherMember, by omega, inOther⟩

theorem exists_of_parentsFirst_in_every_order
    (every : ∀ order : List Inflection, order.Perm module.inflections →
      ParentsFirst { module with inflections := order }.aliasNames)
    (member : inflection ∈ module.inflections)
    (nested : outer ++ "." ++ inner ∈ inflection.exportNames)
    (exported : ∃ other ∈ module.inflections, outer ∈ other.exportNames) :
    (∃ other ∈ module.inflections, other.depth < inflection.depth ∧ outer ∈ other.exportNames) ∨
      inflection.ExportsBefore outer (outer ++ "." ++ inner) := by
  let order := inflection :: module.inflections.erase inflection
  let reordered : SourceModule := { module with inflections := order }
  have rearranged : order.Perm module.inflections := (List.perm_cons_erase member).symm
  rcases List.mergeSort_cons depth_trans depth_total inflection
    (module.inflections.erase inflection) with ⟨front, back, sorted, -, shallower⟩
  rcases List.append_of_mem nested with ⟨left, right, names⟩
  have ordered : reordered.orderedInflections = front ++ inflection :: back := sorted
  have split : reordered.aliasNames = (front.flatMap Inflection.exportNames ++ left) ++
      (outer ++ "." ++ inner) :: (right ++ back.flatMap Inflection.exportNames) := by
    rw [aliasNames, ordered, List.flatMap_append, List.flatMap_cons, names]
    simp
  have somewhere : outer ∈ reordered.aliasNames := by
    rcases exported with ⟨other, otherMember, inOther⟩
    have kept : other ∈ reordered.orderedInflections :=
      mem_orderedInflections_iff.mpr (rearranged.mem_iff.mpr otherMember)
    exact List.mem_flatMap.mpr ⟨other, kept, inOther⟩
  have before := every order rearranged _ outer inner _ split somewhere
  rcases List.mem_append.mp before with inFront | inLeft
  · rcases List.mem_flatMap.mp inFront with ⟨other, otherInFront, inOther⟩
    have kept : other ∈ reordered.orderedInflections := by
      rw [ordered]
      exact List.mem_append_left _ otherInFront
    refine .inl ⟨other, rearranged.mem_iff.mp (mem_orderedInflections_iff.mp kept), ?_, inOther⟩
    simpa using shallower other otherInFront
  · exact .inr ⟨left, right, names, inLeft⟩

/-- Nested names come after their parents in every order of registration exactly if
each of them has a parent that belongs to an entity with a shallower singular, or to
the same entity and is exported before. -/
theorem parentsFirst_in_every_order_iff (module : SourceModule) :
    module.aliasLines = (module.orderedInflections.flatMap fun inflection =>
        inflection.exportNames.map (assignmentLine · ("csn." ++ inflection.entity))) ∧
      ((∀ order : List Inflection, order.Perm module.inflections →
          ParentsFirst { module with inflections := order }.aliasNames) ↔
        ∀ inflection ∈ module.inflections, ∀ outer inner,
          outer ++ "." ++ inner ∈ inflection.exportNames →
          (∃ other ∈ module.inflections, outer ∈ other.exportNames) →
          (∃ other ∈ module.inflections,
              other.depth < inflection.depth ∧ outer ∈ other.exportNames) ∨
            inflection.ExportsBefore outer (outer ++ "." ++ inner)) := by
  refine ⟨aliasLines_eq module, ?_, ?_⟩
  · intro every inflection member outer inner nested exported
    exact exists_of_parentsFirst_in_every_order every member nested exported
  · intro parents order rearranged
    apply parentsFirst_of_shallower
    simpa only [rearranged.mem_iff] using parents

/-- A nested entity with a shallow singular is assigned to a member of its parent
before the parent is there. -/
theorem not_parentsFirst_of_shallow_singular :
    let calls : List ModuleCall :=
      [.contribute (.inflection ⟨"Text", "Books.texts", "Books.texts"⟩),
        .contribute (.inflection ⟨"Book", "Books", "Books"⟩)]
    let final := (({ home := ⟨["bookshop"], by decide⟩ } : SourceModule).performAll "/" calls).1
    final.aliasLines =
        ["module.exports.Text = csn.Books.texts", "module.exports.Books.texts = csn.Books.texts",
          "module.exports.Book = csn.Books", "module.exports.Books = csn.Books"] ∧
      final.aliasNames = ["Text", "Books.texts", "Book", "Books"] ∧
      ¬ParentsFirst final.aliasNames := by
  intro calls final
  have ordered : final.orderedInflections = final.inflections :=
    List.mergeSort_of_pairwise (by decide)
  have names : final.aliasNames = ["Text", "Books.texts", "Book", "Books"] := by
    rw [aliasNames, ordered]
    decide
  refine ⟨?_, names, ?_⟩
  · rw [aliasLines_eq, ordered]
    decide
  · rw [names]
    intro parentsFirst
    have before := parentsFirst ["Text"] "Books" "texts" ["Book", "Books"] (by decide) (by decide)
    exact absurd before (by decide)

end SourceModule

end TypedModules
