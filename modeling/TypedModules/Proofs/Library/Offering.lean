import TypedModules.Proofs.Library.Naming

/-! # What a library offers

A full name is the namespace of a library, a dot and the name of a class. As names of
classes hold no dot, a full name tells both, whatever dots the namespace has. So no two
namespaces offer the same full name.
-/

namespace TypedModules

namespace Text

theorem cutLast_append {separator : Char} (before : List Char) {after : List Char}
    (free : separator ∉ after) :
    cutLast separator (before ++ separator :: after) = some (before, after) := by
  induction before with
  | nil => simp [cutLast, cutLast_eq_none_iff.mpr free]
  | cons character rest induction => rw [List.cons_append, cutLast, induction]

end Text

namespace Library

variable {library : Library}

def fullName (library : Library) (name : String) : String :=
  library.dotted ++ "." ++ name

theorem toList_fullName (library : Library) (name : String) :
    (library.fullName name).toList = library.dotted.toList ++ '.' :: name.toList := by
  simp [fullName]

theorem cutLast_fullName (library : Library) {name : String} (undotted : '.' ∉ name.toList) :
    Text.cutLast '.' (library.fullName name).toList =
      some (library.dotted.toList, name.toList) := by
  rw [toList_fullName, Text.cutLast_append _ undotted]

theorem offers_fullName_iff (library : Library) {name : String} (undotted : '.' ∉ name.toList) :
    library.offers (library.fullName name) = true ↔ name ∈ library.entities := by
  rw [offers, cutLast_fullName library undotted]
  simp

theorem offers_iff (named : library.dotted ≠ "") (asked : String) :
    library.offers asked = true ↔ ∃ name ∈ library.entities, asked = library.fullName name := by
  constructor
  · intro offered
    rw [offers] at offered
    split at offered
    · rename_i qualifier name cut
      rw [Bool.and_eq_true, decide_eq_true_eq, List.contains_iff_mem] at offered
      refine ⟨String.ofList name, offered.2, String.toList_injective ?_⟩
      rw [toList_fullName, ← offered.1, String.toList_ofList, String.toList_ofList]
      exact (Text.eq_append_of_cutLast cut).1
    · rw [Bool.and_eq_true, decide_eq_true_eq] at offered
      exact absurd offered.1 named
  · rintro ⟨name, declared, rfl⟩
    have undotted := dot_notMem_of_mem_declaredClasses declared
    exact (offers_fullName_iff library undotted).mpr declared

/-- A library offers the full names of its own classes and nothing else, and none of these
is offered by a library of another namespace. -/
theorem offers_exactly_own (named : library.dotted ≠ "") :
    (∀ asked, library.offers asked = true ↔
        ∃ name ∈ library.entities, asked = library.dotted ++ "." ++ name) ∧
      ∀ other : Library, other.dotted ≠ "" → other.dotted ≠ library.dotted →
        ∀ asked, ¬(library.offers asked = true ∧ other.offers asked = true) := by
  refine ⟨offers_iff named, fun other otherNamed different asked => ?_⟩
  rintro ⟨offered, otherOffered⟩
  rcases (offers_iff named asked).mp offered with ⟨name, declared, rfl⟩
  rcases (offers_iff otherNamed _).mp otherOffered with ⟨otherName, otherDeclared, same⟩
  have cut := cutLast_fullName library (dot_notMem_of_mem_declaredClasses declared)
  rw [same, cutLast_fullName other (dot_notMem_of_mem_declaredClasses otherDeclared),
    Option.some.injEq, Prod.mk.injEq] at cut
  exact different (String.toList_injective cut.1)

/-- The namespace of one library starts that of another, and both declare a class of the
same name. -/
theorem offers_exactly_own_of_nested :
    let library : Library := { file := "lib/cap.hana.ts", contents := "export class A {}" }
    let other : Library := { file := "lib/cap.hana.sub.ts", contents := "export class A {}" }
    library.dotted ≠ "" ∧ other.dotted ≠ "" ∧ other.dotted ≠ library.dotted ∧
      library.offers "cap.hana.A" = true ∧ library.offers "cap.hana.sub.A" = false ∧
      other.offers "cap.hana.sub.A" = true ∧ other.offers "cap.hana.A" = false := by
  intro library other
  have ofParts : library.dotted ≠ "" ∧ other.dotted ≠ "" ∧ other.dotted ≠ library.dotted ∧
      (∃ name ∈ library.entities, "cap.hana.A" = library.dotted ++ "." ++ name) ∧
      ∃ name ∈ other.entities, "cap.hana.sub.A" = other.dotted ++ "." ++ name := by
    decide +kernel
  rcases ofParts with ⟨named, otherNamed, different, inLibrary, inOther⟩
  rcases offers_exactly_own named with ⟨own, apart⟩
  have offered : library.offers "cap.hana.A" = true := (own _).mpr inLibrary
  have otherOffered : other.offers "cap.hana.sub.A" = true :=
    ((offers_exactly_own otherNamed).1 _).mpr inOther
  have notBoth := apart other otherNamed different
  refine ⟨named, otherNamed, different, offered, ?_, otherOffered, ?_⟩
  · exact Bool.eq_false_iff.mpr fun both => notBoth _ ⟨both, otherOffered⟩
  · exact Bool.eq_false_iff.mpr fun both => notBoth _ ⟨offered, both⟩

end Library

end TypedModules
