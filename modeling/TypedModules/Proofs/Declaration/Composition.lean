import TypedModules.Declaration.Callable
import TypedModules.Declaration.Enumeration
import TypedModules.Proofs.Text.Joining

/-! # What declarations are composed of

Declarations are made of names, keys, values and types with fixed texts between them.
What holds of all of these, and of composed texts then, holds of the declarations.
-/

namespace TypedModules

open Text

theorem Scalar.isBare_integer (value : Int) : IsBare (integer value).fullLiteral := by
  have digits (number : Nat) : ∀ character ∈ Decimal.naturalDigits number,
      character ≠ '\n' ∧ character ≠ '\x7b' ∧ character ≠ '\x7d' := by
    intro character member
    have digit : character.isDigit = true :=
      Nat.isDigit_of_mem_toDigits (by decide) (by decide) member
    refine ⟨?_, ?_, ?_⟩ <;> rintro rfl <;> cases digit
  cases value with
  | ofNat number =>
      rw [IsBare, fullLiteral, Decimal.integerText, String.toList_ofList]
      exact digits number
  | negSucc number =>
      rw [IsBare, fullLiteral, Decimal.integerText, String.toList_ofList, List.forall_mem_cons]
      exact ⟨by decide, digits (number + 1)⟩

variable {Holds : String → Prop} (composable : IsComposable Holds)

include composable

theorem MemberName.written_of_composable {name : String} (holds : Holds name) :
    Holds (written name) := by
  unfold written
  split
  · exact holds
  · exact composable.enclosed (by decide) holds (by decide)

namespace Enumeration

variable {enumeration : Enumeration} {member : String × Scalar}

theorem memberText_of_composable (key : Holds member.1) (value : Holds member.2.fullLiteral) :
    Holds (memberText member) := by
  have written := MemberName.written_of_composable composable key
  exact composable.append (composable.append written (composable.bare (by decide))) value

theorem unionText_of_composable
    (values : ∀ member ∈ enumeration.members, Holds member.2.fullLiteral) :
    Holds enumeration.unionText := by
  have alternatives : ∀ alternative ∈ enumeration.alternatives, Holds alternative := by
    intro alternative isAlternative
    rw [Enumeration.alternatives, List.mem_eraseDups, List.mem_map] at isAlternative
    rcases isAlternative with ⟨member, isMember, rfl⟩
    exact values member isMember
  unfold unionText
  split
  · exact composable.bare (by decide)
  · exact composable.intercalate (by decide) alternatives

end Enumeration

theorem Parameter.listText_of_composable {parameters : List Parameter}
    (holds : ∀ parameter ∈ parameters, Holds parameter.name ∧ Holds parameter.type) :
    Holds (listText parameters) := by
  apply composable.intercalate (by decide)
  intro text isText
  rcases List.mem_map.mp isText with ⟨parameter, member, rfl⟩
  rcases holds parameter member with ⟨name, type⟩
  have written := MemberName.written_of_composable composable name
  exact composable.append (composable.append written (composable.bare (by decide))) type

theorem Callable.label_of_composable {callable : Callable}
    (holds : Holds (callable.name.getD "")) : Holds callable.label := by
  have written := MemberName.written_of_composable composable holds
  unfold label
  split
  · exact composable.bare (by decide)
  · have modifier : IsBare (if callable.isStatic then "static " else "") := by
      cases callable.isStatic <;> decide
    exact composable.enclosed modifier written (by decide)

end TypedModules
