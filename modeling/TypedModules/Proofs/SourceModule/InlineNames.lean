import Mathlib.Data.List.Nodup
import TypedModules.Proofs.Layout.Content
import TypedModules.Proofs.SourceModule.Records
import TypedModules.Proofs.Text.Joining

/-! # Names of inline enumerations

An enumeration on a property is declared under the name of the entity and that of the
property, with an underscore between them. Both may hold underscores themselves, and then the
declared name does not tell where the one ends and the other starts.
-/

namespace TypedModules

/-! ## Declared names -/

/-- The name of the constant object that a line opens, if it does, at whatever margin. -/
def declaredConstant? (line : String) : Option String := do
  let opened ← (line.toList.dropWhile (· = ' ')).dropPrefix? "const ".toList
  let name ← opened.dropSuffix? " = \x7b".toList
  return String.ofList name

theorem declaredConstant?_opening (name : String) :
    declaredConstant? ("const " ++ name ++ " = \x7b") = some name := by
  have line : ("const " ++ name ++ " = \x7b").toList.dropWhile (· = ' ') =
      "const ".toList ++ (name.toList ++ " = \x7b".toList) := by simp
  rw [declaredConstant?, line, Text.dropPrefix?_append, Option.bind_eq_bind, Option.bind_some,
    Text.dropSuffix?_append, Option.bind_some, String.ofList_toList]
  rfl

theorem declaredConstant?_indented {margin : String} (isMargin : IsMargin margin)
    (line : String) : declaredConstant? (margin ++ line) = declaredConstant? line := by
  have dropped : (margin ++ line).toList.dropWhile (· = ' ') =
      line.toList.dropWhile (· = ' ') := by
    rw [String.toList_append]
    exact List.dropWhile_append_of_pos fun character member => by simp [isMargin character member]
  rw [declaredConstant?, dropped, declaredConstant?]

theorem getLast?_of_declaredConstant? {line name : String}
    (found : declaredConstant? line = some name) : line.toList.getLast? = some '\x7b' := by
  rw [declaredConstant?] at found
  rcases Option.bind_eq_some_iff.mp found with ⟨opened, isOpened, found⟩
  rcases Option.bind_eq_some_iff.mp found with ⟨name, isName, -⟩
  rcases List.dropPrefix?_eq_some_iff.mp isOpened with ⟨front, shown, -⟩
  rcases List.dropSuffix?_eq_some_iff.mp isName with ⟨back, rfl, same⟩
  rw [eq_of_beq same] at shown
  rw [← List.takeWhile_append_dropWhile (p := (· = ' ')) (l := line.toList), shown]
  simp

theorem filterMap_declaredConstant?_printedLines (enumeration : Enumeration) :
    (enumeration.printedLines false defaultUnit).filterMap declaredConstant? =
      [enumeration.name] := by
  have members : (enumeration.renderedTexts.map fun text => defaultUnit ++ text ++ ",").filterMap
      declaredConstant? = [] := by
    rw [List.filterMap_eq_nil_iff]
    intro line isLine
    rcases List.mem_map.mp isLine with ⟨text, -, rfl⟩
    cases found : declaredConstant? (defaultUnit ++ text ++ ",") with
    | none => rfl
    | some name =>
        have last := getLast?_of_declaredConstant? found
        simp at last
  have closing : (enumeration.closingLines false).filterMap declaredConstant? = [] := by
    simp [Enumeration.closingLines, declaredConstant?, List.dropPrefix?]
  have opening : (enumeration.openingLines false).filterMap declaredConstant? =
      [enumeration.name] := by
    have comment : declaredConstant? "// enum" = none := by decide
    simp [Enumeration.openingLines, comment, declaredConstant?_opening]
  rw [Enumeration.printedLines, List.filterMap_append, List.filterMap_append, opening, members]
  split
  · rw [closing]
    rfl
  · rfl

def BufferCall.constant? : BufferCall → Option String
  | enumeration declared _ => some declared.name
  | _ => none

/-- Every declaration declares its constant, at whatever margin those before it have left. -/
theorem filterMap_declaredConstant?_printed (enumerations : List Enumeration) :
    (LineBuffer.printed false enumerations).lines.filterMap declaredConstant? =
      enumerations.map (·.name) := by
  let IsDeclaration (call : BufferCall) : Prop := ∃ declared, call = .enumeration declared false
  let Holds (lines : List String) (past : List BufferCall) : Prop :=
    lines.filterMap declaredConstant? = past.filterMap (·.constant?)
  have step : ∀ lines past call margin, IsDeclaration call → IsMargin margin → Holds lines past →
      Holds (lines ++ (call.written lines).map (margin ++ ·)) (past ++ [call]) := by
    rintro lines past _ margin ⟨declared, rfl⟩ isMargin held
    have indented : declaredConstant? ∘ (margin ++ ·) = declaredConstant? :=
      funext (declaredConstant?_indented isMargin)
    have separator : (if lines = [] then [] else [""]).filterMap declaredConstant? = [] := by
      split <;> rfl
    simp only [Holds] at held ⊢
    rw [List.filterMap_append, List.filterMap_map, indented, held, BufferCall.written,
      List.filterMap_append, separator, filterMap_declaredConstant?_printedLines,
      List.filterMap_append]
    rfl
  have calls : ∀ call ∈ enumerations.map (BufferCall.enumeration · false),
      call.IsAdditive ∧ IsDeclaration call := by
    intro call member
    rcases List.mem_map.mp member with ⟨declared, -, rfl⟩
    exact ⟨trivial, declared, rfl⟩
  have declared := LineBuffer.lines_afterCalls_induction .empty (rfl : Holds [] []) step
    (fun call member => (calls call member).1) fun call member => (calls call member).2
  rw [← LineBuffer.afterCalls_enumerations]
  simp only [Holds] at declared
  rw [declared, List.filterMap_map, List.map_eq_flatMap, List.filterMap_eq_flatMap_toList]
  rfl

/-! ## Names that do not tell their parts -/

namespace InlineEnumeration

def name (inline : InlineEnumeration) : String :=
  Enumeration.inlineName inline.entity inline.property

/-- The entity of the second goes on where that of the first ends, with what the property of
the first starts with. -/
def Continues (first second : InlineEnumeration) : Prop :=
  ∃ middle, second.entity = first.entity ++ "_" ++ middle ∧
    first.property = middle ++ "_" ++ second.property

variable {first second : InlineEnumeration}

theorem continues_iff_toList : first.Continues second ↔
    ∃ middle, second.entity.toList = first.entity.toList ++ '_' :: middle ∧
      first.property.toList = middle ++ '_' :: second.property.toList := by
  constructor
  · rintro ⟨middle, entity, property⟩
    exact ⟨middle.toList, by simp [entity], by simp [property]⟩
  · rintro ⟨middle, entity, property⟩
    refine ⟨String.ofList middle, ?_, ?_⟩
    · apply String.toList_injective
      simp [entity]
    · apply String.toList_injective
      simp [property]

/-- Two names are the same only for the same parts, or where the one entity continues the
other with what the other property starts with. -/
theorem name_eq_iff : first.name = second.name ↔
    (first.entity = second.entity ∧ first.property = second.property) ∨
      first.Continues second ∨ second.Continues first := by
  have characters (inline : InlineEnumeration) :
      inline.name.toList = inline.entity.toList ++ '_' :: inline.property.toList := by
    simp [name, Enumeration.inlineName]
  rw [← String.toList_inj, characters, characters, Text.append_cons_eq_append_cons_iff,
    continues_iff_toList, continues_iff_toList, String.toList_inj, String.toList_inj]

theorem not_continues_self : ¬first.Continues first := by
  rintro ⟨middle, entity, -⟩
  have lengths := congrArg String.length entity
  rw [String.length_append, String.length_append] at lengths
  have underscore : "_".length = 1 := rfl
  omega

theorem mem_of_continues (continues : first.Continues second) :
    '_' ∈ second.entity.toList ∧ '_' ∈ first.property.toList := by
  rcases continues_iff_toList.mp continues with ⟨middle, entity, property⟩
  simp [entity, property]

end InlineEnumeration

namespace SourceModule

def inlineNames (module : SourceModule) : List String :=
  (module.sections.get .inlineEnumerations).lines.filterMap declaredConstant?

theorem inlineNames_of_inStep {module : SourceModule} {past : List Contribution}
    (inStep : InlineInStep module past) :
    module.inlineNames = (past.filterMap (·.inlineEnumeration?)).map (·.name) := by
  rw [inlineNames, inStep.1, filterMap_declaredConstant?_printed, List.map_map]
  rfl

/-- Inline enumerations are declared under names of their entities and properties, in order. If
these differ, the names are distinct exactly if no entity continues another one with what the
property of that starts with. So they are as long as no entity or no property holds an
underscore. -/
theorem inlineNames_nodup_iff (workingDirectory : String) (home : Namespace)
    (calls : List ModuleCall)
    (notWritten : ∀ call, ModuleCall.contribute (.write .inlineEnumerations call) ∉ calls)
    (apart : (((contributionsIn .inlineEnumerations calls).filterMap (·.inlineEnumeration?)).map
      fun inline => (inline.entity, inline.property)).Nodup) :
    let final := (({ home } : SourceModule).performAll workingDirectory calls).1
    let inline := (contributionsIn .inlineEnumerations calls).filterMap (·.inlineEnumeration?)
    final.inlineNames = inline.map (·.name) ∧
      (final.inlineNames.Nodup ↔ ∀ first ∈ inline, ∀ second ∈ inline, ¬first.Continues second) ∧
      ((∀ one ∈ inline, '_' ∉ one.entity.toList) ∨ (∀ one ∈ inline, '_' ∉ one.property.toList) →
        final.inlineNames.Nodup) := by
  intro final inline
  have inStep : InlineInStep final (contributionsIn .inlineEnumerations calls) := by
    refine performAll_inStep workingDirectory home (by decide) ?_ InlineInStep.congr
      InlineInStep.step ⟨rfl, rfl⟩
    intro label call called concerned
    cases label <;> first | exact notWritten call called | cases concerned
  have names : final.inlineNames = inline.map (·.name) := inlineNames_of_inStep inStep
  have samePair {first second : InlineEnumeration} (isFirst : first ∈ inline)
      (isSecond : second ∈ inline) (entity : first.entity = second.entity)
      (property : first.property = second.property) : first = second :=
    List.inj_on_of_nodup_map apart isFirst isSecond (Prod.ext entity property)
  have distinct : final.inlineNames.Nodup ↔
      ∀ first ∈ inline, ∀ second ∈ inline, ¬first.Continues second := by
    rw [names, List.nodup_map_iff_inj_on (apart.of_map _)]
    constructor
    · intro injective first isFirst second isSecond continues
      have sameName := InlineEnumeration.name_eq_iff.mpr (.inr (.inl continues))
      rw [injective first isFirst second isSecond sameName] at continues
      exact InlineEnumeration.not_continues_self continues
    · intro none first isFirst second isSecond sameName
      rcases InlineEnumeration.name_eq_iff.mp sameName with ⟨entity, property⟩ | further | further
      · exact samePair isFirst isSecond entity property
      · exact absurd further (none first isFirst second isSecond)
      · exact absurd further (none second isSecond first isFirst)
  refine ⟨names, distinct, fun plain => ?_⟩
  rw [distinct]
  intro first isFirst second isSecond continues
  rcases InlineEnumeration.mem_of_continues continues with ⟨inEntity, inProperty⟩
  rcases plain with entities | properties
  · exact entities second isSecond inEntity
  · exact properties first isFirst inProperty

/-- Underscores do no harm where no entity goes on like a property. -/
theorem inlineNames_nodup_iff_of_shop :
    let calls : List ModuleCall :=
      [.contribute (.inlineEnumeration "Books" "sub_genre" [("horror", .text "horror")]),
        .typeDefinitions,
        .contribute (.inlineEnumeration "Books_Archive" "genre" []),
        .contribute (.enumeration "shop.Kind" ⟨"Kind", []⟩),
        .contribute (.inlineEnumeration "Order" "state" [("const E = \x7b", .integer 1)])]
    let final := (({ home := ⟨["shop"], by decide⟩ } : SourceModule).performAll "/work" calls).1
    (∀ call, ModuleCall.contribute (.write .inlineEnumerations call) ∉ calls) ∧
      (((contributionsIn .inlineEnumerations calls).filterMap (·.inlineEnumeration?)).map
        fun inline => (inline.entity, inline.property)).Nodup ∧
      final.inlineNames = ["Books_sub_genre", "Books_Archive_genre", "Order_state"] ∧
      final.inlineNames.Nodup := by
  intro calls final
  have notWritten : ∀ call, ModuleCall.contribute (.write .inlineEnumerations call) ∉ calls := by
    simp [calls]
  have apart : (((contributionsIn .inlineEnumerations calls).filterMap
      (·.inlineEnumeration?)).map fun inline => (inline.entity, inline.property)).Nodup := by
    decide
  have names := (inlineNames_nodup_iff "/work" ⟨["shop"], by decide⟩ calls notWritten apart).1
  refine ⟨notWritten, apart, names, ?_⟩
  rw [names]
  decide

/-- An entity that goes on with a word and a property that starts with it declare the same name,
while the records of both differ. -/
theorem not_nodup_inlineNames_of_continued :
    let calls : List ModuleCall :=
      [.contribute (.inlineEnumeration "Books" "genre_kind" []),
        .contribute (.inlineEnumeration "Books_genre" "kind" [])]
    let final := (({ home := ⟨["shop"], by decide⟩ } : SourceModule).performAll "/work" calls).1
    (∀ name ∈ ["Books", "genre_kind", "Books_genre", "kind"],
        MemberName.isIdentifier name.toList = true) ∧
      (final.sections.get .inlineEnumerations).lines =
        ["// enum", "const Books_genre_kind = \x7b", "\x7d as const;",
          "type Books_genre_kind = never;", "", "// enum", "const Books_genre_kind = \x7b",
          "\x7d as const;", "type Books_genre_kind = never;"] ∧
      final.enumerations.map (·.name) = ["Books.genre_kind", "Books_genre.kind"] ∧
      ¬final.inlineNames.Nodup := by
  decide +kernel

end SourceModule

end TypedModules
