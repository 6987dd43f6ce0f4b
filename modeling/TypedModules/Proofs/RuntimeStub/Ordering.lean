import TypedModules.Proofs.RuntimeStub.Parents

/-! # The order of aliases

Entities are exported in order of the depth of their singular, and in order of
registration where it is the same. This leaves one order only. In it, each entity has a
group of lines to itself, without repeats.
-/

namespace TypedModules

namespace Inflection

variable {registered ordered other : List Inflection}

/-- Entities in order of their depth, and otherwise in order of registration. -/
structure InDepthOrder (registered ordered : List Inflection) : Prop where
  rearranged : ordered.Perm registered
  rises : ordered.Pairwise (·.depth ≤ ·.depth)
  stable (depth : Nat) :
    ordered.filter (·.depth = depth) = registered.filter (·.depth = depth)

theorem depth_head_le {first inflection : Inflection} {rest : List Inflection}
    (rises : (first :: rest).Pairwise (·.depth ≤ ·.depth)) (member : inflection ∈ first :: rest) :
    first.depth ≤ inflection.depth := by
  rcases List.mem_cons.mp member with rfl | inRest
  · exact Nat.le_refl _
  · exact (List.pairwise_cons.mp rises).1 inflection inRest

theorem mem_iff_of_filter_eq (inflection : Inflection)
    (same : ∀ depth, ordered.filter (·.depth = depth) = other.filter (·.depth = depth)) :
    inflection ∈ ordered ↔ inflection ∈ other := by
  have members : inflection ∈ ordered.filter (·.depth = inflection.depth) ↔
      inflection ∈ other.filter (·.depth = inflection.depth) := by
    rw [same]
  simpa using members

theorem eq_of_filter_eq (rises : ordered.Pairwise (·.depth ≤ ·.depth))
    (otherRises : other.Pairwise (·.depth ≤ ·.depth))
    (same : ∀ depth, ordered.filter (·.depth = depth) = other.filter (·.depth = depth)) :
    ordered = other := by
  induction ordered generalizing other with
  | nil =>
      refine (List.eq_nil_iff_forall_not_mem.mpr fun inflection member => ?_).symm
      exact absurd ((mem_iff_of_filter_eq inflection same).mpr member) List.not_mem_nil
  | cons first rest induction =>
      have firstInOther := (mem_iff_of_filter_eq first same).mp List.mem_cons_self
      cases other with
      | nil => cases firstInOther
      | cons otherFirst otherRest =>
          have otherFirstIn := (mem_iff_of_filter_eq otherFirst same).mpr List.mem_cons_self
          have level : otherFirst.depth = first.depth :=
            Nat.le_antisymm (depth_head_le otherRises firstInOther)
              (depth_head_le rises otherFirstIn)
          have here := same first.depth
          simp only [List.filter_cons, level, decide_true, if_true, List.cons.injEq] at here
          rcases here with ⟨rfl, -⟩
          have sameRest (depth : Nat) :
              rest.filter (·.depth = depth) = otherRest.filter (·.depth = depth) := by
            have there := same depth
            by_cases concerned : first.depth = depth <;>
              simpa [List.filter_cons, concerned] using there
          exact congrArg (first :: ·) (induction rises.tail otherRises.tail sameRest)

theorem InDepthOrder.unique (inOrder : InDepthOrder registered ordered)
    (otherInOrder : InDepthOrder registered other) : ordered = other :=
  eq_of_filter_eq inOrder.rises otherInOrder.rises fun depth =>
    (inOrder.stable depth).trans (otherInOrder.stable depth).symm

theorem exists_split_of_rises (rises : ordered.Pairwise (·.depth ≤ ·.depth)) (depth : Nat) :
    ∃ shallow deep, ordered = shallow ++ deep ∧ (∀ inflection ∈ shallow, inflection.depth < depth) ∧
      ∀ inflection ∈ deep, depth ≤ inflection.depth := by
  induction rises with
  | nil => exact ⟨[], [], rfl, by simp, by simp⟩
  | @cons first rest least _ induction =>
      by_cases shallower : first.depth < depth
      · rcases induction with ⟨shallow, deep, rfl, inFront, behind⟩
        exact ⟨first :: shallow, deep, rfl, List.forall_mem_cons.mpr ⟨shallower, inFront⟩, behind⟩
      · have deeper : depth ≤ first.depth := Nat.le_of_not_lt shallower
        have behind : ∀ inflection ∈ first :: rest, depth ≤ inflection.depth :=
          List.forall_mem_cons.mpr ⟨deeper, fun inflection member =>
            deeper.trans (least inflection member)⟩
        exact ⟨[], first :: rest, rfl, by simp, behind⟩

theorem nodup_exportLines (inflection : Inflection) : inflection.exportLines.Nodup :=
  nodup_eraseDups _

example : (⟨"Sheep", "Flock", "Sheep"⟩ : Inflection).exportLines =
    ["module.exports.Sheep = csn.Sheep", "module.exports.Flock = csn.Sheep"] := by
  decide

end Inflection

namespace SourceModule

open Inflection

theorem inDepthOrder_orderedInflections (module : SourceModule) :
    InDepthOrder module.inflections module.orderedInflections where
  rearranged := List.mergeSort_perm _ _
  rises := module.orderedInflections_rises
  stable depth := by
    have level : (module.inflections.filter (·.depth = depth)).Pairwise
        fun first second => decide (first.depth ≤ second.depth) = true := by
      rw [List.pairwise_filter]
      refine List.pairwise_of_forall fun first second isFirst isSecond => ?_
      simp only [decide_eq_true_eq] at isFirst isSecond ⊢
      exact (isFirst.trans isSecond.symm).le
    -- They are in order already, so sorting has not moved them past each other.
    have kept : (module.inflections.filter (·.depth = depth)).Sublist module.orderedInflections :=
      List.sublist_mergeSort depth_trans depth_total level List.filter_sublist
    have inFilter := kept.filter (·.depth = depth)
    rw [List.filter_filter] at inFilter
    simp only [Bool.and_self] at inFilter
    have length : (module.inflections.filter (·.depth = depth)).length =
        (module.orderedInflections.filter (·.depth = depth)).length :=
      ((List.mergeSort_perm _ _).filter _).length_eq.symm
    exact (inFilter.eq_of_length length).symm

/-- The alias block holds a group of lines for each registered entity, in the one order
that rises by the depth of the singular and else is that of registration. A group
exports the entity under each of its names, without repeats. -/
theorem aliasLines_in_depth_order (workingDirectory : String) (home : Namespace)
    (calls : List ModuleCall) :
    let registered := (contributionsIn .inflections calls).filterMap (·.inflection?)
    let final := (({ home } : SourceModule).performAll workingDirectory calls).1
    ∃ ordered : List Inflection,
      (∀ other, InDepthOrder registered other ↔ other = ordered) ∧
      (final.aliasLines = ordered.flatMap fun inflection =>
        ([inflection.singular, inflection.plural, inflection.entity].map fun name =>
          "module.exports." ++ name ++ " = csn." ++ inflection.entity).eraseDups) ∧
      (∃ rest, final.runtimeStub =
        if final.IsRenderable then
          .ok ("\n".intercalate (final.header ++ final.serviceNames.map serviceLine ++
            final.aliasLines ++ "// events" :: rest) ++ "\n")
        else .error .tooManyDigits) ∧
      (∀ depth, ∃ shallow deep, ordered = shallow ++ deep ∧
        (∀ inflection ∈ shallow, inflection.depth < depth) ∧
        (∀ inflection ∈ deep, depth ≤ inflection.depth) ∧
        final.aliasLines =
          shallow.flatMap Inflection.exportLines ++ deep.flatMap Inflection.exportLines) ∧
      ∀ inflection ∈ registered,
        inflection.exportLines.Nodup ∧ inflection.exportLines <:+: final.aliasLines ∧
          ∀ name ∈ [inflection.singular, inflection.plural, inflection.entity],
            "module.exports." ++ name ++ " = csn." ++ inflection.entity ∈
              inflection.exportLines := by
  intro registered final
  have inOrder : InDepthOrder registered final.orderedInflections := by
    have sorted := final.inDepthOrder_orderedInflections
    rwa [inflections_performAll workingDirectory home calls] at sorted
  refine ⟨final.orderedInflections, fun other => ⟨fun possible => possible.unique inOrder, ?_⟩, rfl,
    ?_, fun depth => ?_, fun inflection member => ⟨inflection.nodup_exportLines, ?_, ?_⟩⟩
  · rintro rfl
    exact inOrder
  · refine ⟨final.events.map eventLine ++ "// actions" :: final.actionNames.map actionLine ++
      "// enums" :: (EnumerationRecord.named final.enumerations).map enumerationLine, ?_⟩
    simp only [runtimeStub, stubLines, header, List.append_assoc, List.cons_append]
  · rcases exists_split_of_rises inOrder.rises depth with ⟨shallow, deep, split, isShallow, isDeep⟩
    refine ⟨shallow, deep, split, isShallow, isDeep, ?_⟩
    rw [← List.flatMap_append, ← split]
    rfl
  · rcases List.append_of_mem (inOrder.rearranged.mem_iff.mpr member) with ⟨front, back, order⟩
    refine ⟨front.flatMap exportLines, back.flatMap exportLines, ?_⟩
    have lines : final.aliasLines = final.orderedInflections.flatMap exportLines := rfl
    rw [lines, order, List.flatMap_append, List.flatMap_cons, List.append_assoc]
  · intro name named
    exact List.mem_eraseDups.mpr (List.mem_map.mpr ⟨name, named, rfl⟩)

end SourceModule

end TypedModules
