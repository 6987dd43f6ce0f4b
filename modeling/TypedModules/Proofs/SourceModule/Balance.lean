import TypedModules.Proofs.Layout.Nesting
import TypedModules.Proofs.SourceModule.Repetition
import TypedModules.Proofs.SourceModule.Uptake

/-! # Balanced type definitions

What contributions write by themselves leaves the depth of nesting as it is. So a
section is balanced if the lines that were added to it as such are, and a nested
namespace if its body is, as it is closed for the type definitions.
-/

namespace TypedModules

open Text

/-! ## Lines of contributions -/

theorem Callable.isBalanced_typeText {callable : Callable}
    (listed : IsBalanced (Parameter.listText callable.parameters))
    (returned : IsBalanced callable.returns) : IsBalanced callable.typeText := by
  have signature : nesting "\x7b (" 0 = some 1 := rfl
  have result : IsBalanced "): " := by decide
  have parameters : nesting ", __parameters: \x7b" 1 = some 2 := rfl
  have returns : nesting "\x7d, __returns: " 2 = some 1 := rfl
  have ending : nesting " \x7d" 1 = some 0 := rfl
  unfold typeText
  rw [isBalanced_iff]
  simp only [nesting_append, signature, result.nesting, parameters, returns, ending,
    listed.nesting, returned.nesting, Option.bind_some]

theorem DeclaredCallable.isBalanced_of_mem_lines {callable : DeclaredCallable}
    (nameBalanced : IsBalanced callable.name) (returnsBalanced : IsBalanced callable.returns)
    (balanced : ∀ parameter ∈ callable.parameters,
      IsBalanced parameter.name ∧ IsBalanced parameter.type) :
    ∀ line ∈ callable.lines, IsBalanced line := by
  let declared : Callable :=
    { name := some callable.name, parameters := callable.parameters, returns := callable.returns }
  have label : IsBalanced declared.label :=
    Callable.label_of_composable isComposable_isBalanced nameBalanced
  have listed : IsBalanced (Parameter.listText declared.parameters) :=
    Parameter.listText_of_composable isComposable_isBalanced balanced
  have type : IsBalanced declared.typeText := Callable.isBalanced_typeText listed returnsBalanced
  have text : IsBalanced declared.text := (label.append type).append .empty
  have kind : IsBalanced callable.kind.word := by
    cases callable.kind <;> decide
  intro line isLine
  rcases List.mem_pair.mp isLine with rfl | rfl
  · exact IsBalanced.append (by decide) kind
  · exact isComposable_isBalanced.enclosed (by decide) text (by decide)

theorem SourceModule.isBalanced_serviceDeclaration {fullName : String}
    (balanced : IsBalanced fullName) : IsBalanced (serviceDeclaration fullName) := by
  have front : nesting "export default \x7b name: '" 0 = some 1 := rfl
  have ending : nesting "' \x7d" 1 = some 0 := rfl
  unfold serviceDeclaration
  rw [isBalanced_iff, nesting_append, nesting_append, front, Option.bind_some, balanced.nesting,
    Option.bind_some, ending]

namespace Contribution

variable {contribution : Contribution}

theorem isBalanced_of_addedLine?_eq_none (own : contribution.addedLine? = none)
    (balanced : ∀ text ∈ contribution.texts, IsBalanced text) (label : Section) :
    ∀ line ∈ (contribution.callsOn label).filterMap (·.line?), IsBalanced line := by
  intro line isLine
  rcases List.mem_filterMap.mp isLine with ⟨call, member, isWritten⟩
  rcases line_callsOn_cases member isWritten with
    added | ⟨name, nameShown, definition, shown, rfl⟩ | ⟨fullName, shown, rfl⟩ |
      ⟨callable, isLine, nameShown, returnsShown, listed⟩
  · rw [own] at added
    cases added
  · exact aliasLine_of_composable isComposable_isBalanced (balanced name nameShown)
      (balanced definition shown)
  · exact SourceModule.isBalanced_serviceDeclaration (balanced fullName shown)
  · have parameters : ∀ parameter ∈ callable.parameters,
        IsBalanced parameter.name ∧ IsBalanced parameter.type := fun parameter isListed =>
      ⟨balanced _ (listed parameter isListed).1, balanced _ (listed parameter isListed).2⟩
    exact DeclaredCallable.isBalanced_of_mem_lines (balanced _ nameShown)
      (balanced _ returnsShown) parameters line isLine

theorem filterMap_callsIn (name : String) :
    (contribution.callsIn name).filterMap (·.line?) = contribution.linesAt (.block name) := by
  cases contribution with
  | block other asked =>
      cases asked with
      | none => rfl
      | some asked =>
          cases asked with
          | close => simp [callsIn, linesAt, addedLine?, BlockCall.onBody]
          | content call =>
              by_cases same : other = name <;> cases found : call.line? <;>
                simp [callsIn, linesAt, addedLine?, BlockCall.onBody, same, found]
  | heldBlock other asked =>
      cases asked with
      | close => simp [callsIn, linesAt, addedLine?, BlockCall.onBody]
      | content call =>
          by_cases same : other = name <;> cases found : call.line? <;>
            simp [callsIn, linesAt, addedLine?, BlockCall.onBody, same, found]
  | write other call => cases found : call.line? <;> simp [callsIn, linesAt, addedLine?, found]
  | _ => simp [callsIn, linesAt, addedLine?]

theorem linesAt_buffer_of_unwritten (unwritten : contribution.sectionCalls? = none)
    (label : Section) : contribution.linesAt (.buffer label) = [] := by
  have inBlock : ∀ (name : String) (asked : BlockCall),
      (heldBlock name asked).linesAt (.buffer label) = [] := by
    intro name asked
    cases asked with
    | close => rfl
    | content call => cases found : call.line? <;> simp [linesAt, addedLine?, found]
  cases contribution with
  | block name asked =>
      cases asked with
      | none => rfl
      | some asked =>
          cases asked with
          | close => rfl
          | content call => exact inBlock name (.content call)
  | heldBlock name asked => exact inBlock name asked
  | preamble code => cases unwritten
  | write other call => cases unwritten
  | _ => rfl

theorem nesting_callsOn (balanced : ∀ text ∈ contribution.texts, IsBalanced text)
    (label : Section) (depth : Nat) :
    nesting (String.join ((contribution.callsOn label).filterMap (·.line?))) depth =
      nesting (String.join (contribution.linesAt (.buffer label))) depth := by
  cases added : contribution.addedLine? with
  | none =>
      have own := IsBalanced.join (isBalanced_of_addedLine?_eq_none added balanced label)
      rw [own.nesting, linesAt, added]
      rfl
  | some placed =>
      have same : (contribution.callsOn label).filterMap (·.line?) =
          contribution.linesAt (.buffer label) := by
        cases contribution with
        | preamble code =>
            by_cases here : Section.preamble = label <;>
              simp [callsOn, sectionCalls?, linesAt, addedLine?, BufferCall.line?, here]
        | write other call =>
            by_cases here : other = label <;> cases found : call.line? <;>
              simp [callsOn, sectionCalls?, linesAt, addedLine?, here, found]
        | block name asked | heldBlock name asked =>
            exact (linesAt_buffer_of_unwritten rfl label).symm
        | _ => cases added
      rw [same]

end Contribution

namespace SourceModule

variable {workingDirectory : String} {home : Namespace} {module : SourceModule}
variable {past : List Contribution}

/-- The lines that contributions add to a place as such are balanced on the whole, and so
is every text that is shown of a contribution. No declaration breaks off. -/
structure AreBalanced (past : List Contribution) : Prop where
  renderable : ∀ contribution ∈ past, contribution.IsRenderable
  texts : ∀ contribution ∈ past, ∀ text ∈ contribution.texts, IsBalanced text
  lines : ∀ place, IsBalanced (String.join (past.flatMap (·.linesAt place)))

/-! ## Sections and nested namespaces -/

theorem nesting_flatMap_callsOn
    (balanced : ∀ contribution ∈ past, ∀ text ∈ contribution.texts, IsBalanced text)
    (label : Section) (depth : Nat) :
    nesting (String.join ((past.flatMap (·.callsOn label)).filterMap (·.line?))) depth =
      nesting (String.join (past.flatMap (·.linesAt (.buffer label)))) depth := by
  induction past generalizing depth with
  | nil => rfl
  | cons contribution rest induction =>
      rw [List.forall_mem_cons] at balanced
      rw [List.flatMap_cons, List.flatMap_cons, List.filterMap_append, String.join_append,
        String.join_append, nesting_append, nesting_append,
        Contribution.nesting_callsOn balanced.1]
      cases nesting (String.join (contribution.linesAt (.buffer label))) depth with
      | none => rfl
      | some inner => exact induction balanced.2 inner

theorem filterMap_flatMap_callsIn (past : List Contribution) (name : String) :
    (past.flatMap (·.callsIn name)).filterMap (·.line?) =
      past.flatMap (·.linesAt (.block name)) := by
  rw [List.filterMap_flatMap]
  exact List.flatMap_congr fun contribution _ => contribution.filterMap_callsIn name

namespace Reflects

variable (held : Reflects workingDirectory home module past)
  (additive : ∀ contribution ∈ past, contribution.IsAdditive)
  (balanced : AreBalanced past)

include held balanced additive

theorem isBalanced_section (label : Section) :
    IsBalanced (String.join (module.sections.get label).lines) := by
  have calls : ∀ call ∈ past.flatMap (·.callsOn label), call.IsAdditive :=
    List.forall_mem_flatMap.mpr fun contribution isPast =>
      (additive contribution isPast).callsOn label
  have renderable : ∀ call ∈ past.flatMap (·.callsOn label), call.IsRenderable :=
    List.forall_mem_flatMap.mpr fun contribution isPast =>
      (balanced.renderable contribution isPast).callsOn label
  have texts : ∀ call ∈ past.flatMap (·.callsOn label), ∀ text ∈ call.texts, IsBalanced text :=
    List.forall_mem_flatMap.mpr fun contribution isPast =>
      Contribution.texts_callsOn_of_composable isComposable_isBalanced
        (balanced.texts contribution isPast) label
  rw [isBalanced_iff, held.sections label, LineBuffer.nesting_afterCalls .empty calls
    renderable texts, List.nil_append, nesting_flatMap_callsOn balanced.texts]
  exact (balanced.lines (.buffer label)).nesting 0

theorem isBalanced_block (settled : module.IsSettled) {block : NamespaceBlock}
    (member : block ∈ module.blocks.values) : IsBalanced (String.join block.buffer.lines) := by
  rcases List.mem_map.mp member with ⟨⟨name, block⟩, isEntry, rfl⟩
  rcases held.lines_of_closed isEntry (settled _ isEntry) with ⟨⟨call, asked⟩, lines⟩
  have nameBalanced : IsBalanced name := balanced.texts _ asked name List.mem_cons_self
  have calls : ∀ call ∈ past.flatMap (·.callsIn name), call.IsAdditive :=
    List.forall_mem_flatMap.mpr fun contribution isPast =>
      (additive contribution isPast).callsIn name
  have renderable : ∀ call ∈ past.flatMap (·.callsIn name), call.IsRenderable :=
    List.forall_mem_flatMap.mpr fun contribution isPast =>
      (balanced.renderable contribution isPast).callsIn name
  have texts : ∀ call ∈ past.flatMap (·.callsIn name), ∀ text ∈ call.texts, IsBalanced text :=
    List.forall_mem_flatMap.mpr fun contribution isPast =>
      Contribution.texts_callsIn (balanced.texts contribution isPast) name
  have body : nesting (String.join
      (NamespaceBlock.body name (past.flatMap (·.callsIn name))).lines) 0 = some 1 := by
    rw [NamespaceBlock.body, LineBuffer.nesting_afterCalls (NamespaceBlock.isRegular_opened name)
      calls renderable texts, filterMap_flatMap_callsIn, String.join_append, nesting_append,
      NamespaceBlock.nesting_opened nameBalanced, Option.bind_some]
    exact (balanced.lines (.block name)).nesting 1
  have brace : nesting (String.join ["\x7d"]) 1 = some 0 := rfl
  rw [isBalanced_iff, lines, String.join_append, nesting_append, body, Option.bind_some, brace]

theorem isBalanced_definitionText (settled : module.IsSettled)
    (rooted : Directory.isAbsolute workingDirectory = true) (homeDotted : home.IsDotted)
    (importsDotted : ∀ imported, .importOf imported ∈ past → imported.IsDotted) :
    ∀ text ∈ module.definitionTexts, IsBalanced text := by
  have sections : ∀ label, IsBalanced (module.sections.get label).text := fun label =>
    IsBalanced.ofLines (held.isBalanced_section additive balanced label)
  have parts : ∀ part, IsBalanced (module.partText part) := by
    intro part
    cases part with
    | buffer label => exact sections label
    | namespaces =>
        apply IsBalanced.ofLines
        apply IsBalanced.join
        intro text member
        rcases List.mem_map.mp member with ⟨block, isBlock, rfl⟩
        exact .ofLines (held.isBalanced_block additive balanced settled isBlock)
  intro text member
  rcases List.mem_cons.mp member with rfl | member
  · exact isComposable_isBalanced.bare isBare_generatedNote
  rcases List.mem_cons.mp member with rfl | member
  · exact .ofLines (.join (held.importLines_of_composable isComposable_isBalanced rooted homeDotted
      importsDotted balanced.texts))
  rcases List.mem_cons.mp member with rfl | member
  · exact sections .preamble
  · rcases List.mem_map.mp member with ⟨part, -, rfl⟩
    exact parts part

end Reflects

/-- Whenever type definitions are given, they are balanced if so are the texts of the
contributions that took effect until then, and the lines that these have added to each
place, taken together, and if no declaration broke off at a value without a literal. -/
theorem isBalanced_typeDefinitions (workingDirectory : String) (home : Namespace)
    (calls : List ModuleCall) (rooted : Directory.isAbsolute workingDirectory = true)
    (homeDotted : home.IsDotted) (additive : ∀ call ∈ calls, call.IsAdditive)
    (importsDotted : ∀ imported, .contribute (.importOf imported) ∈ calls → imported.IsDotted)
    (balanced : AreBalanced (({ home } : SourceModule).takenUp workingDirectory calls))
    {text : String}
    (answered : (({ home } : SourceModule).performAll workingDirectory
      calls).1.typeDefinitions.answer = .ok text) : IsBalanced text := by
  let taken := ({ home } : SourceModule).takenUp workingDirectory calls
  have held : Reflects workingDirectory home (({ home } : SourceModule).performAll workingDirectory
      calls).1.typeDefinitions.state taken :=
    ((Reflects.new workingDirectory home).performAll additive).typeDefinitions
  have allAdditive : ∀ contribution ∈ taken, contribution.IsAdditive := fun contribution isTaken =>
    additive _ (mem_of_mem_takenUp isTaken)
  rcases isSettled_and_eq_of_answer answered with ⟨settled, rfl⟩
  have texts := held.isBalanced_definitionText allAdditive balanced settled rooted homeDotted
    fun imported isTaken => importsDotted imported (mem_of_mem_takenUp isTaken)
  have separator : IsBalanced "\n\n" := by decide
  rw [layOut, isBalanced_iff, separator.nesting_intercalate]
  exact (IsBalanced.join fun text member => texts text (List.mem_filter.mp member).1).nesting 0

/-- A brace may stay open in a nested namespace while other lines are written, as long as
it is closed again. What comes for the namespace after it was closed is refused. -/
theorem isBalanced_typeDefinitions_of_shop :
    let home : Namespace := ⟨["shop"], by decide⟩
    let base : Namespace := ⟨["_"], by decide⟩
    let opening : Contribution :=
      .block "Books" (some (.content (.edit (.add "type Book = \x7b"))))
    let submit : Contribution :=
      .callable .action "submit" [⟨"book", "\x7b id: string \x7d"⟩] "void"
    let level : Contribution := .enumeration "shop.Level" ⟨"Level", [("low", .integer 1)]⟩
    let closing : Contribution := .heldBlock "Books" (.content (.edit (.add "\x7d;")))
    let calls : List ModuleCall :=
      [.contribute (.importOf base), .contribute opening, .contribute submit,
        .contribute (.write .types (.edit .outdent)), .contribute level, .contribute closing,
        .typeDefinitions, .contribute opening]
    let taken := ({ home } : SourceModule).takenUp "/work" calls
    let final := (({ home } : SourceModule).performAll "/work" calls).1.typeDefinitions.state
    (Directory.isAbsolute "/work" = true ∧ home.IsDotted ∧
        (∀ imported, .contribute (.importOf imported) ∈ calls → imported.IsDotted) ∧
        (∀ call ∈ calls, call.IsAdditive) ∧ AreBalanced taken ∧
        (({ home } : SourceModule).performAll "/work" calls).1.typeDefinitions.answer =
          .ok final.layOut) ∧
      taken = [.importOf base, opening, submit, level, closing] ∧
      final.partText .namespaces =
        "export namespace Books \x7b\n  type Book = \x7b\n  \x7d;\n\x7d" ∧
      ¬IsBalanced "type Book = \x7b" ∧ IsBalanced final.layOut := by
  intro home base opening submit level closing calls taken final
  have rooted : Directory.isAbsolute "/work" = true := by decide
  have homeDotted : home.IsDotted := by decide
  have importsDotted : ∀ imported, .contribute (.importOf imported) ∈ calls →
      imported.IsDotted := by
    intro imported called
    have same : imported = base := by
      simpa [calls, opening, submit, level, closing] using called
    rw [same]
    decide
  have additive : ∀ call ∈ calls, call.IsAdditive := by
    simp [calls, opening, submit, level, closing, ModuleCall.IsAdditive, Contribution.IsAdditive,
      BlockCall.IsAdditive, BufferCall.IsAdditive]
  have takes : taken = [.importOf base, opening, submit, level, closing] := by
    decide +kernel
  have balanced : AreBalanced taken := by
    rw [takes]
    constructor
    · simp +decide [opening, submit, level, closing, Contribution.IsRenderable,
        BlockCall.IsRenderable, BufferCall.IsRenderable, Enumeration.IsRenderable]
    · decide
    · intro place
      by_cases inBooks : Place.block "Books" = place
      · subst inBooks
        decide
      · have none : [Contribution.importOf base, opening, submit, level, closing].flatMap
            (·.linesAt place) = [] := by
          simp [opening, submit, level, closing, Contribution.linesAt, Contribution.addedLine?,
            BufferCall.line?, inBooks]
        rw [none]
        exact .empty
  have closing : (closeInOrder (({ home } : SourceModule).performAll "/work"
      calls).1.blocks.entries).answer = .ok () := by decide +kernel
  have answered : (({ home } : SourceModule).performAll "/work" calls).1.typeDefinitions.answer =
      .ok final.layOut := by
    rw [answer_typeDefinitions, closing]
    rfl
  refine ⟨⟨rooted, homeDotted, importsDotted, additive, balanced, answered⟩, takes, ?_, ?_, ?_⟩
  · decide +kernel
  · decide
  · exact isBalanced_typeDefinitions "/work" home calls rooted homeDotted additive importsDotted
      balanced answered

/-- A declaration that broke off leaves its brace open, although none of its texts has one. -/
theorem not_isBalanced_of_powerOfTen :
    let endless : Enumeration := ⟨"Big", [("a", .integer (10 ^ Scalar.digitLimit))]⟩
    let level : Contribution := .enumeration "shop.Big" endless
    let run := ({ home := ⟨["shop"], by decide⟩ } : SourceModule).performAll "/work"
      [.contribute level]
    (∀ text ∈ level.texts, IsBalanced text) ∧ (∀ place, level.linesAt place = []) ∧
      run.1.typeDefinitions.answer =
        .ok (generatedNote ++ "\n\n// enum\nexport const Big = \x7b") ∧
      ¬IsBalanced (generatedNote ++ "\n\n// enum\nexport const Big = \x7b") := by
  intro endless level run
  have ends : run.1 = brokenOff := congrArg Prod.fst (performAll_powerOfTen "/work" [])
  have digits : IsBalanced (Scalar.integer (10 ^ Scalar.digitLimit)).fullLiteral :=
    isComposable_isBalanced.bare (Scalar.isBare_integer _)
  have texts : level.texts =
      ["Big", "a", (Scalar.integer (10 ^ Scalar.digitLimit)).fullLiteral] := rfl
  have note : IsBalanced generatedNote := isComposable_isBalanced.bare isBare_generatedNote
  refine ⟨?_, fun place => rfl, ?_, ?_⟩
  · rw [texts]
    simp only [List.forall_mem_cons]
    exact ⟨by decide, by decide, digits, List.forall_mem_nil _⟩
  · rw [ends]
    decide
  · rw [isBalanced_iff, nesting_append, note.nesting]
    decide

end SourceModule

end TypedModules
