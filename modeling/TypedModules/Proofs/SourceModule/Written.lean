import TypedModules.Proofs.Declaration.Composition
import TypedModules.Proofs.Layout.Content
import TypedModules.Proofs.Namespace.Specifier
import TypedModules.Proofs.SourceModule.Growth
import TypedModules.Proofs.SourceModule.Records

/-! # What contributions write

Apart from imports and records, a contribution is a number of calls on the buffer of
one section or on the body of one nested namespace. The lines that these write are
either added as such or made of the texts of the contribution.
-/

namespace TypedModules

inductive Place where
  | buffer (label : Section)
  | block (name : String)
  deriving DecidableEq

namespace Contribution

def texts : Contribution → List String
  | importOf imported => imported.segments
  | typeAlias _ name definition => [name, definition]
  | service fullName => [fullName]
  | furtherService fullName => [fullName]
  | callable _ name parameters returns =>
      name :: returns :: parameters.flatMap fun parameter => [parameter.name, parameter.type]
  | enumeration _ declared => declared.texts
  | inlineEnumeration entity property members => entity :: property :: Enumeration.textsOf members
  | write _ call => call.texts
  | block name call => name :: call.elim [] (·.texts)
  | heldBlock _ call => call.texts
  | _ => []

def IsRenderable : Contribution → Prop
  | enumeration _ declared => declared.IsRenderable
  | inlineEnumeration _ _ members => ∀ member ∈ members, member.2.IsRenderable
  | write _ call => call.IsRenderable
  | block _ (some call) => call.IsRenderable
  | heldBlock _ call => call.IsRenderable
  | _ => True

def sectionCalls? : Contribution → Option (Section × List BufferCall)
  | preamble code => some (.preamble, [.edit (.add code)])
  | typeAlias _ name definition =>
      some (.types, [.edit (.add ("export type " ++ name ++ " = " ++ definition ++ ";"))])
  | service fullName => some (.services, [.edit (.add (SourceModule.serviceDeclaration fullName))])
  | furtherService fullName =>
      some (.services, [.edit (.add (SourceModule.serviceDeclaration fullName))])
  | callable kind name parameters returns =>
      let declared : DeclaredCallable := ⟨kind, name, parameters, returns⟩
      some (.actions, declared.lines.map fun line => .edit (.add line))
  | enumeration _ declared => some (.enumerations, [.enumeration declared true])
  | inlineEnumeration entity property members =>
      let inline : InlineEnumeration := ⟨entity, property, members⟩
      some (.inlineEnumerations, [.enumeration inline.declared false])
  | write label call => some (label, [call])
  | _ => none

def callsOn (label : Section) (contribution : Contribution) : List BufferCall :=
  match contribution.sectionCalls? with
  | some (other, calls) => if other = label then calls else []
  | none => []

def callsIn (name : String) : Contribution → List BufferCall
  | block other (some call) => if other = name then call.onBody else []
  | heldBlock other call => if other = name then call.onBody else []
  | _ => []

theorem mem_callsOn_iff {contribution : Contribution} {label : Section} {call : BufferCall} :
    call ∈ contribution.callsOn label ↔
      ∃ calls, contribution.sectionCalls? = some (label, calls) ∧ call ∈ calls := by
  rw [callsOn]
  cases contribution.sectionCalls? with
  | none => simp
  | some written =>
      rcases written with ⟨other, calls⟩
      by_cases same : other = label <;> simp [same]

theorem mem_callsIn_iff {contribution : Contribution} {name : String} {call : BufferCall} :
    call ∈ contribution.callsIn name ↔
      contribution = .block name (some (.content call)) ∨
        contribution = .heldBlock name (.content call) := by
  cases contribution with
  | block other asked =>
      cases asked with
      | none => simp [callsIn]
      | some asked => cases asked <;> simp [callsIn, BlockCall.onBody, eq_comm]
  | heldBlock other asked => cases asked <;> simp [callsIn, BlockCall.onBody, eq_comm]
  | _ => simp [callsIn]

theorem IsAdditive.callsOn {contribution : Contribution} (additive : contribution.IsAdditive)
    (label : Section) : ∀ call ∈ contribution.callsOn label, call.IsAdditive := by
  intro call member
  rcases mem_callsOn_iff.mp member with ⟨calls, found, member⟩
  cases contribution with
  | write other asked =>
      cases found
      rw [List.mem_singleton.mp member]
      exact additive
  | callable kind name parameters returns =>
      cases found
      rcases List.mem_map.mp member with ⟨line, -, rfl⟩
      trivial
  | preamble code | typeAlias fullName name definition | service fullName
  | furtherService fullName | enumeration fullName declared
  | inlineEnumeration entity property members =>
      cases found
      rw [List.mem_singleton.mp member]
      trivial
  | _ => cases found

theorem IsAdditive.callsIn {contribution : Contribution} (additive : contribution.IsAdditive)
    (name : String) : ∀ call ∈ contribution.callsIn name, call.IsAdditive := by
  intro call member
  rcases mem_callsIn_iff.mp member with rfl | rfl <;> exact additive

theorem IsRenderable.callsOn {contribution : Contribution} (renderable : contribution.IsRenderable)
    (label : Section) : ∀ call ∈ contribution.callsOn label, call.IsRenderable := by
  intro call member
  rcases mem_callsOn_iff.mp member with ⟨calls, found, member⟩
  cases contribution with
  | write other asked | enumeration fullName declared
  | inlineEnumeration entity property members =>
      cases found
      rw [List.mem_singleton.mp member]
      exact renderable
  | callable kind name parameters returns =>
      cases found
      rcases List.mem_map.mp member with ⟨line, -, rfl⟩
      trivial
  | preamble code | typeAlias fullName name definition | service fullName
  | furtherService fullName =>
      cases found
      rw [List.mem_singleton.mp member]
      trivial
  | _ => cases found

theorem IsRenderable.callsIn {contribution : Contribution} (renderable : contribution.IsRenderable)
    (name : String) : ∀ call ∈ contribution.callsIn name, call.IsRenderable := by
  intro call member
  rcases mem_callsIn_iff.mp member with rfl | rfl <;> exact renderable

def addedLine? : Contribution → Option (Place × String)
  | preamble code => some (.buffer .preamble, code)
  | write label call => call.line?.map fun line => (.buffer label, line)
  | block name (some (.content call)) => call.line?.map fun line => (.block name, line)
  | heldBlock name (.content call) => call.line?.map fun line => (.block name, line)
  | _ => none

def linesAt (place : Place) (contribution : Contribution) : List String :=
  match contribution.addedLine? with
  | some (other, line) => if other = place then [line] else []
  | none => []

theorem line_callsOn_cases {contribution : Contribution} {label : Section} {call : BufferCall}
    {line : String} (member : call ∈ contribution.callsOn label)
    (isWritten : call.line? = some line) :
    contribution.addedLine? = some (.buffer label, line) ∨
      (∃ name ∈ contribution.texts, ∃ definition ∈ contribution.texts,
        line = "export type " ++ name ++ " = " ++ definition ++ ";") ∨
      (∃ fullName ∈ contribution.texts, line = SourceModule.serviceDeclaration fullName) ∨
      ∃ callable : DeclaredCallable, line ∈ callable.lines ∧
        callable.name ∈ contribution.texts ∧ callable.returns ∈ contribution.texts ∧
          ∀ parameter ∈ callable.parameters,
            parameter.name ∈ contribution.texts ∧ parameter.type ∈ contribution.texts := by
  rcases mem_callsOn_iff.mp member with ⟨calls, found, member⟩
  cases contribution with
  | preamble code =>
      cases found
      rw [List.mem_singleton.mp member] at isWritten
      cases isWritten
      exact .inl rfl
  | write other asked =>
      cases found
      rw [List.mem_singleton.mp member] at isWritten
      exact .inl (by simp [addedLine?, isWritten])
  | typeAlias fullName name definition =>
      cases found
      rw [List.mem_singleton.mp member] at isWritten
      cases isWritten
      exact .inr (.inl ⟨name, by simp [texts], definition, by simp [texts], rfl⟩)
  | service fullName | furtherService fullName =>
      cases found
      rw [List.mem_singleton.mp member] at isWritten
      cases isWritten
      exact .inr (.inr (.inl ⟨fullName, List.mem_cons_self, rfl⟩))
  | callable kind name parameters returns =>
      cases found
      rcases List.mem_map.mp member with ⟨written, isLine, rfl⟩
      cases isWritten
      refine .inr (.inr (.inr ⟨⟨kind, name, parameters, returns⟩, isLine, ?_, ?_, ?_⟩))
      · exact List.mem_cons_self
      · exact List.mem_cons_of_mem _ List.mem_cons_self
      · intro parameter listed
        have shown : ∀ text ∈ [parameter.name, parameter.type],
            text ∈ (callable kind name parameters returns).texts := fun text isText =>
          List.mem_cons_of_mem _ (List.mem_cons_of_mem _ (List.mem_flatMap_of_mem listed isText))
        exact ⟨shown _ List.mem_cons_self, shown _ (List.mem_cons_of_mem _ List.mem_cons_self)⟩
  | enumeration fullName declared | inlineEnumeration entity property members =>
      cases found
      rw [List.mem_singleton.mp member] at isWritten
      cases isWritten
  | _ => cases found

end Contribution

/-! ## What lines are composed of -/

theorem isBare_generatedNote : Text.IsBare generatedNote := by
  rcases exists_toList_generatedNote with ⟨rest, characters, unbroken, unopened, unclosed⟩
  simp only [Text.IsBare, characters, List.forall_mem_cons]
  refine ⟨by decide, by decide, fun character member => ⟨?_, ?_, ?_⟩⟩
  · exact fun same => unbroken (same ▸ member)
  · exact fun same => unopened (same ▸ member)
  · exact fun same => unclosed (same ▸ member)

section Composition

variable {Holds : String → Prop} (composable : Text.IsComposable Holds)

include composable

theorem SourceModule.importLine_of_composable (source : Namespace) {target : Namespace}
    (holds : ∀ segment ∈ target.segments, Holds segment) :
    Holds (importLine (source.routeSpecifier target) target) := by
  have route : ∀ step ∈ Directory.route source.named target.named, Holds step := by
    intro step member
    rcases List.mem_append.mp member with up | down
    · rw [List.eq_of_mem_replicate up]
      exact composable.bare (by decide)
    · exact holds step (List.mem_filter.mp (List.mem_of_mem_drop down)).1
  have identifier : Holds target.identifier :=
    composable.append (composable.bare (by decide)) (composable.intercalate (by decide) holds)
  have specifier : Holds (source.routeSpecifier target) :=
    composable.append (composable.bare (by decide)) (composable.intercalate (by decide) route)
  unfold importLine
  exact composable.append
    (composable.append (composable.enclosed (by decide) identifier (by decide)) specifier)
    (composable.bare (by decide))

theorem Contribution.aliasLine_of_composable {name definition : String} (nameHolds : Holds name)
    (definitionHolds : Holds definition) :
    Holds ("export type " ++ name ++ " = " ++ definition ++ ";") := by
  exact composable.append
    (composable.append (composable.enclosed (by decide) nameHolds (by decide)) definitionHolds)
    (composable.bare (by decide))

namespace Contribution

variable {contribution : Contribution} (holds : ∀ text ∈ contribution.texts, Holds text)

include holds

/-- The texts of a call on a section are those of the contribution, apart from the name of
an enumeration on a property. -/
theorem texts_callsOn_of_composable (label : Section) :
    ∀ call ∈ contribution.callsOn label, ∀ text ∈ call.texts, Holds text := by
  intro call member
  rcases mem_callsOn_iff.mp member with ⟨calls, found, member⟩
  cases contribution with
  | callable kind name parameters returns =>
      cases found
      rcases List.mem_map.mp member with ⟨line, -, rfl⟩
      exact List.forall_mem_nil _
  | enumeration fullName declared =>
      cases found
      rw [List.mem_singleton.mp member]
      exact holds
  | inlineEnumeration entity property members =>
      cases found
      rw [List.mem_singleton.mp member]
      simp only [texts, List.forall_mem_cons] at holds
      have front := composable.append holds.1 (composable.bare (by decide : Text.IsBare "_"))
      exact List.forall_mem_cons.mpr ⟨composable.append front holds.2.1, holds.2.2⟩
  | write other asked =>
      cases found
      rw [List.mem_singleton.mp member]
      exact holds
  | preamble code | typeAlias fullName name definition | service fullName
  | furtherService fullName =>
      cases found
      rw [List.mem_singleton.mp member]
      exact List.forall_mem_nil _
  | _ => cases found

omit composable in
theorem texts_callsIn (name : String) :
    ∀ call ∈ contribution.callsIn name, ∀ text ∈ call.texts, Holds text := by
  intro call member text isText
  rcases mem_callsIn_iff.mp member with rfl | rfl
  · exact holds text (List.mem_cons_of_mem name isText)
  · exact holds text isText

end Contribution

end Composition

end TypedModules
