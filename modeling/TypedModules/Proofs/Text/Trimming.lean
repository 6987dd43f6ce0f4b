import Mathlib.Data.List.DropRight
import TypedModules.Text.Blank

/-! # Ends of texts

What is dropped at the end of a text does not reach beyond a character that is kept, and
what is taken from its start does not reach a part in which nothing is taken.
-/

namespace TypedModules.Text

variable {keeps : Char → Bool} {front back : List Char}

theorem rdropWhile_append (kept : ∀ last ∈ front.getLast?, keeps last = false) :
    (front ++ back).rdropWhile keeps = front ++ back.rdropWhile keeps := by
  cases shape : front.reverse with
  | nil => rw [List.reverse_eq_nil_iff.mp shape, List.nil_append, List.nil_append]
  | cons last others =>
      have isLast : last ∈ front.getLast? := by simp [← List.head?_reverse, shape]
      rw [List.rdropWhile, List.rdropWhile, List.reverse_append, List.dropWhile_append]
      split
      · rename_i allDropped
        rw [shape, List.dropWhile_cons_of_neg (by simp [kept last isLast]), ← shape,
          List.reverse_reverse, List.isEmpty_iff.mp allDropped, List.reverse_nil, List.append_nil]
      · rw [List.reverse_append, List.reverse_reverse]

theorem takeWhile_append_of_forall_not (stops : ∀ character ∈ back, keeps character = false) :
    (front ++ back).takeWhile keeps = front.takeWhile keeps := by
  rw [List.takeWhile_append]
  split
  · rename_i whole
    have noneTaken : back.takeWhile keeps = [] := by
      cases back with
      | nil => rfl
      | cons first others => rw [List.takeWhile_cons_of_neg (by simp [stops first])]
    rw [noneTaken, List.append_nil, List.IsPrefix.eq_of_length (List.takeWhile_prefix keeps) whole]
  · rfl

theorem takeWhile_append_of_stops (taken : ∀ character ∈ front, keeps character = true)
    (stops : ∀ next ∈ back.head?, keeps next = false) :
    (front ++ back).takeWhile keeps = front := by
  rw [List.takeWhile_append_of_pos taken]
  cases back with
  | nil => rw [List.takeWhile_nil, List.append_nil]
  | cons next others => rw [List.takeWhile_cons_of_neg (by simp [stops next rfl]), List.append_nil]

theorem dropWhile_append_of_stops (dropped : ∀ character ∈ front, keeps character = true)
    (stops : ∀ next ∈ back.head?, keeps next = false) : (front ++ back).dropWhile keeps = back := by
  rw [List.dropWhile_append_of_pos dropped]
  cases back with
  | nil => rw [List.dropWhile_nil]
  | cons next others => rw [List.dropWhile_cons_of_neg (by simp [stops next rfl])]

theorem trim_append {indentation rest : List Char}
    (blank : ∀ character ∈ indentation, isBlank character = true)
    (starts : ∃ first ∈ front.head?, isBlank first = false)
    (ends : ∀ last ∈ front.getLast?, isBlank last = false) :
    trim (indentation ++ (front ++ rest)) = front ++ rest.rdropWhile isBlank := by
  rcases starts with ⟨first, isFirst, filled⟩
  rcases List.head?_eq_some_iff.mp isFirst with ⟨others, shape⟩
  have unindented : (indentation ++ (front ++ rest)).dropWhile isBlank = front ++ rest := by
    rw [List.dropWhile_append_of_pos blank, shape, List.cons_append,
      List.dropWhile_cons_of_neg (by simp [filled])]
  rw [trim, unindented]
  exact rdropWhile_append ends

end TypedModules.Text
