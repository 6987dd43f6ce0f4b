/-! # Distinct texts

A list of texts is put in order of their code points, and each text is kept
once. The result holds the same texts and rises strictly, so it does not depend
on their order or number before.
-/

namespace TypedModules.Text

def withoutRepeats : List String → List String
  | first :: second :: rest =>
      if first = second then withoutRepeats (second :: rest)
      else first :: withoutRepeats (second :: rest)
  | texts => texts

def distinct (texts : List String) : List String :=
  withoutRepeats (texts.mergeSort fun first second => first ≤ second)

@[simp]
theorem mem_withoutRepeats {texts : List String} {text : String} :
    text ∈ withoutRepeats texts ↔ text ∈ texts := by
  fun_induction withoutRepeats texts with
  | case1 second rest induction =>
      rw [induction, List.mem_cons (l := second :: rest), List.mem_cons]
      exact ⟨.inr, fun member => member.elim .inl id⟩
  | case2 first second rest different induction =>
      rw [List.mem_cons, induction, List.mem_cons (l := second :: rest)]
  | case3 => rfl

theorem withoutRepeats_rises {texts : List String} (rising : texts.Pairwise (· ≤ ·)) :
    (withoutRepeats texts).Pairwise (· < ·) := by
  fun_induction withoutRepeats texts with
  | case1 second rest induction => exact induction rising.tail
  | case2 first second rest different induction =>
      have firstLeast := (List.pairwise_cons.1 rising).1
      have secondLeast := (List.pairwise_cons.1 rising.tail).1
      have firstBefore : first < second :=
        Std.lt_of_le_of_ne (firstLeast second List.mem_cons_self) different
      refine List.pairwise_cons.2 ⟨fun text member => ?_, induction rising.tail⟩
      rcases List.mem_cons.1 (mem_withoutRepeats.1 member) with rfl | inRest
      · exact firstBefore
      · exact Std.lt_of_lt_of_le firstBefore (secondLeast text inRest)
  | case3 texts short =>
      match texts, short with
      | [], _ => exact .nil
      | [_], _ => exact List.pairwise_singleton ..
      | first :: second :: rest, short => exact absurd rfl (short first second rest)

@[simp]
theorem mem_distinct {texts : List String} {text : String} :
    text ∈ distinct texts ↔ text ∈ texts := by
  rw [distinct, mem_withoutRepeats, List.mem_mergeSort]

theorem distinct_rises (texts : List String) : (distinct texts).Pairwise (· < ·) := by
  apply withoutRepeats_rises
  have ordered := @List.pairwise_mergeSort _ (fun first second : String => first ≤ second)
    (by simpa using fun _ _ _ => String.le_trans) (by simpa using String.le_total) texts
  simpa using ordered

theorem withoutRepeats_of_rises {texts : List String} (rising : texts.Pairwise (· < ·)) :
    withoutRepeats texts = texts := by
  fun_induction withoutRepeats texts with
  | case1 second rest induction =>
      have firstBefore := (List.pairwise_cons.1 rising).1 second List.mem_cons_self
      exact absurd firstBefore (String.lt_irrefl second)
  | case2 first second rest different induction => rw [induction rising.tail]
  | case3 => rfl

theorem distinct_of_rises {texts : List String} (rising : texts.Pairwise (· < ·)) :
    distinct texts = texts := by
  have ordered : texts.Pairwise fun first second => decide (first ≤ second) = true :=
    rising.imp fun before => by simpa using Std.le_of_lt before
  rw [distinct, List.mergeSort_of_pairwise ordered, withoutRepeats_of_rises rising]

example : withoutRepeats ["a", "a", "b"] = ["a", "b"] := by decide +kernel

end TypedModules.Text
