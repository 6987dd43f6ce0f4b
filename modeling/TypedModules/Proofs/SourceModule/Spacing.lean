import TypedModules.Proofs.Layout.Spacing
import TypedModules.Proofs.SourceModule.Repetition
import TypedModules.Proofs.SourceModule.Uptake

/-! # Spacing of the type definitions

As long as nobody contributes a line break or a blank line, all parts of the type
definitions are tidy, and so are the type definitions with a blank line between the
parts.
-/

namespace TypedModules

open Text

/-! ## Plain contributions -/

theorem DeclaredCallable.isLine_of_mem_lines {callable : DeclaredCallable}
    (nameUnbroken : IsUnbroken callable.name) (returnsUnbroken : IsUnbroken callable.returns)
    (unbroken : ∀ parameter ∈ callable.parameters,
      IsUnbroken parameter.name ∧ IsUnbroken parameter.type) :
    ∀ line ∈ callable.lines, IsLine line := by
  let declared : Callable :=
    { name := some callable.name, parameters := callable.parameters, returns := callable.returns }
  have label : IsUnbroken declared.label :=
    Callable.label_of_composable isComposable_isUnbroken nameUnbroken
  have listed : IsUnbroken (Parameter.listText declared.parameters) :=
    Parameter.listText_of_composable isComposable_isUnbroken unbroken
  have returned : IsUnbroken declared.returns := returnsUnbroken
  have type : IsUnbroken declared.typeText := by
    unfold Callable.typeText
    simp +decide [listed, returned]
  have kind : IsUnbroken callable.kind.word := by
    cases callable.kind <;> decide
  have unassigned : declared.assignment = "" := rfl
  intro line isLine
  rcases List.mem_pair.mp isLine with rfl | rfl
  · exact ⟨by simp, by simp +decide [kind]⟩
  · change IsLine ("export declare const " ++ declared.text ++ ";")
    exact ⟨by simp, by simp +decide [Callable.text, label, type, unassigned]⟩

theorem SourceModule.isLine_serviceDeclaration {fullName : String}
    (unbroken : IsUnbroken fullName) : IsLine (serviceDeclaration fullName) := by
  unfold serviceDeclaration
  exact ⟨by simp, by simp +decide [unbroken]⟩

def Contribution.IsPlain (contribution : Contribution) : Prop :=
  (∀ text ∈ contribution.texts, IsUnbroken text) ∧
    ∀ added ∈ contribution.addedLine?, IsLine added.2

instance (contribution : Contribution) : Decidable contribution.IsPlain :=
  inferInstanceAs <| Decidable <| (∀ text ∈ contribution.texts, IsUnbroken text) ∧
    ∀ added ∈ contribution.addedLine?, IsLine added.2

namespace Contribution

variable {contribution : Contribution}

theorem IsPlain.callsOn (plain : contribution.IsPlain) (label : Section) :
    ∀ call ∈ contribution.callsOn label, call.IsPlain := by
  intro call member
  refine ⟨fun line isWritten => ?_,
    texts_callsOn_of_composable isComposable_isUnbroken plain.1 label call member⟩
  rcases plain with ⟨texts, added⟩
  rcases line_callsOn_cases member isWritten with own | ⟨name, nameShown, definition, shown, rfl⟩ |
    ⟨fullName, shown, rfl⟩ | ⟨callable, isLine, nameShown, returnsShown, listed⟩
  · exact added _ own
  · exact ⟨by simp, aliasLine_of_composable isComposable_isUnbroken (texts name nameShown)
      (texts definition shown)⟩
  · exact SourceModule.isLine_serviceDeclaration (texts fullName shown)
  · have parameters : ∀ parameter ∈ callable.parameters,
        IsUnbroken parameter.name ∧ IsUnbroken parameter.type := fun parameter isListed =>
      ⟨texts _ (listed parameter isListed).1, texts _ (listed parameter isListed).2⟩
    exact DeclaredCallable.isLine_of_mem_lines (texts _ nameShown) (texts _ returnsShown)
      parameters line isLine

theorem IsPlain.callsIn (plain : contribution.IsPlain) (name : String) :
    ∀ call ∈ contribution.callsIn name, call.IsPlain := by
  intro call member
  refine ⟨fun line isWritten => ?_, texts_callsIn plain.1 name call member⟩
  apply plain.2 (.block name, line)
  rcases mem_callsIn_iff.mp member with rfl | rfl <;> simp [addedLine?, isWritten]

end Contribution

namespace SourceModule

variable {workingDirectory : String} {home : Namespace} {module : SourceModule}
variable {past : List Contribution}

/-! ## Parts and their lines -/

def partLines (module : SourceModule) : DefinitionPart → List String
  | .buffer label => (module.sections.get label).lines
  | .namespaces => module.blocks.values.flatMap fun block => block.buffer.lines

def definitionParts (module : SourceModule) : List (List String) :=
  [generatedNote] :: module.importLines :: (module.sections.get .preamble).lines ::
    DefinitionPart.order.map module.partLines

theorem definitionTexts_eq (headed : ∀ block ∈ module.blocks.values, block.buffer.lines ≠ []) :
    module.definitionTexts = module.definitionParts.map ofLines := by
  have namespaces : module.partText .namespaces = ofLines (module.partLines .namespaces) := by
    have filled : ∀ lines ∈ module.blocks.values.map (·.buffer.lines), lines ≠ [] := by
      intro lines member
      rcases List.mem_map.mp member with ⟨block, isBlock, rfl⟩
      exact headed block isBlock
    have flattened := ofLines_flatten filled
    rwa [List.map_map] at flattened
  have texts : ∀ part, module.partText part = ofLines (module.partLines part) := by
    intro part
    cases part with
    | buffer label => rfl
    | namespaces => exact namespaces
  rw [definitionTexts, definitionParts, List.map_cons, List.map_cons, List.map_cons, List.map_map]
  congr 3
  exact List.map_congr_left fun part _ => texts part

theorem layOut_eq_intercalate_cons : module.layOut = "\n\n".intercalate
    (generatedNote :: module.definitionTexts.tail.filter (· ≠ "")) := by
  rw [layOut, definitionTexts, List.filter_cons_of_pos (by decide), List.tail_cons]

/-- Tidy parts make up tidy type definitions. -/
theorem layOut_eq (tidy : ∀ part ∈ module.definitionParts, IsTidy part)
    (headed : ∀ block ∈ module.blocks.values, block.buffer.lines ≠ []) :
    module.layOut = ofLines ([""].intercalate (module.definitionParts.filter (· ≠ []))) := by
  have shown : module.definitionTexts.filter (· ≠ "") =
      (module.definitionParts.filter (· ≠ [])).map ofLines := by
    rw [definitionTexts_eq headed, List.filter_map]
    congr 1
    apply List.filter_congr
    intro part member
    simp [(tidy part member).ofLines_eq_empty_iff]
  rw [layOut, shown, intercalate_ofLines]
  intro part member
  simpa using (List.mem_filter.mp member).2

/-! ## Runs -/

variable (additive : ∀ contribution ∈ past, contribution.IsAdditive)
  (plain : ∀ contribution ∈ past, contribution.IsPlain)

include additive plain in
theorem isTidy_body {name : String} (unbroken : IsUnbroken name) :
    IsTidy (NamespaceBlock.body name (past.flatMap (·.callsIn name))).lines := by
  have heading : IsLine ("" ++ NamespaceBlock.heading name) := by
    unfold NamespaceBlock.heading
    exact ⟨by simp, by simp +decide [unbroken]⟩
  have start : IsTidy (NamespaceBlock.opened name defaultUnit).buffer.lines :=
    .of_isLine (List.forall_mem_singleton.mpr heading)
  apply LineBuffer.isTidy_afterCalls (NamespaceBlock.isRegular_opened name) start
  · exact List.forall_mem_flatMap.mpr fun contribution isPast =>
      (additive contribution isPast).callsIn name
  · exact List.forall_mem_flatMap.mpr fun contribution isPast =>
      (plain contribution isPast).callsIn name

namespace Reflects

variable (held : Reflects workingDirectory home module past)

include held plain in
theorem isTidy_importLines (rooted : Directory.isAbsolute workingDirectory = true)
    (homeDotted : home.IsDotted)
    (importsDotted : ∀ imported, .importOf imported ∈ past → imported.IsDotted) :
    IsTidy module.importLines := by
  apply IsTidy.of_isLine
  intro line member
  have unbroken := held.importLines_of_composable isComposable_isUnbroken rooted homeDotted
    importsDotted (fun contribution isPast => (plain contribution isPast).1) line member
  rcases List.mem_map.mp member with ⟨entry, -, rfl⟩
  refine ⟨?_, unbroken⟩
  unfold importLine
  simp

include held additive plain

theorem isTidy_section (label : Section) : IsTidy (module.sections.get label).lines := by
  rw [held.sections label]
  apply LineBuffer.isTidy_afterCalls .empty .nil
  · exact List.forall_mem_flatMap.mpr fun contribution isPast =>
      (additive contribution isPast).callsOn label
  · exact List.forall_mem_flatMap.mpr fun contribution isPast =>
      (plain contribution isPast).callsOn label

theorem isTidy_block (settled : module.IsSettled) {block : NamespaceBlock}
    (member : block ∈ module.blocks.values) :
    IsTidy block.buffer.lines ∧ block.buffer.lines ≠ [] := by
  rcases List.mem_map.mp member with ⟨entry, isEntry, rfl⟩
  rcases held.lines_of_closed isEntry (settled entry isEntry) with ⟨⟨call, asked⟩, lines⟩
  have name : IsUnbroken entry.1 := (plain _ asked).1 entry.1 List.mem_cons_self
  have brace : IsTidy ["\x7d"] := .of_isLine (by decide)
  rw [lines]
  exact ⟨(isTidy_body additive plain name).append brace, by simp⟩

theorem isTidy_part (settled : module.IsSettled)
    (rooted : Directory.isAbsolute workingDirectory = true) (homeDotted : home.IsDotted)
    (importsDotted : ∀ imported, .importOf imported ∈ past → imported.IsDotted) :
    ∀ part ∈ module.definitionParts, IsTidy part := by
  have parts : ∀ part, IsTidy (module.partLines part) := by
    intro part
    cases part with
    | buffer label => exact held.isTidy_section additive plain label
    | namespaces =>
        apply IsTidy.flatten
        intro lines member
        rcases List.mem_map.mp member with ⟨block, isBlock, rfl⟩
        exact (held.isTidy_block additive plain settled isBlock).1
  intro lines member
  rcases List.mem_cons.mp member with rfl | member
  · apply IsTidy.of_isLine
    rw [List.forall_mem_singleton]
    exact ⟨by decide, isComposable_isUnbroken.bare isBare_generatedNote⟩
  rcases List.mem_cons.mp member with rfl | member
  · exact held.isTidy_importLines plain rooted homeDotted importsDotted
  rcases List.mem_cons.mp member with rfl | member
  · exact held.isTidy_section additive plain .preamble
  · rcases List.mem_map.mp member with ⟨part, -, rfl⟩
    exact parts part

end Reflects

end SourceModule

/-! ## Sections of enumerations -/

def Contribution.declaredIn? (label : Section) (contribution : Contribution) :
    Option Enumeration :=
  match label with
  | .enumerations => contribution.enumeration?
  | .inlineEnumerations => contribution.inlineEnumeration?.map (·.declared)
  | _ => none

def enumerationSections : List (Section × Bool) :=
  [(.enumerations, true), (.inlineEnumerations, false)]

theorem Contribution.callsOn_eq_map {label : Section} {exported : Bool}
    (forEnumerations : (label, exported) ∈ enumerationSections) {contribution : Contribution}
    (unwritten : ∀ call, contribution ≠ .write label call) :
    contribution.callsOn label =
      (contribution.declaredIn? label).toList.map (.enumeration · exported) := by
  have cases : label = .enumerations ∧ exported = true ∨
      label = .inlineEnumerations ∧ exported = false := by
    simpa [enumerationSections] using forEnumerations
  rcases cases with ⟨rfl, rfl⟩ | ⟨rfl, rfl⟩
  all_goals
    cases contribution with
    | write other call =>
        have different : other ≠ _ := fun same => unwritten call (same ▸ rfl)
        rw [callsOn, sectionCalls?]
        exact if_neg different
    | _ => rfl

namespace SourceModule

/-- A section that is written by declarations only holds what they print one after the
other. -/
theorem Reflects.section_eq_printed {workingDirectory : String} {home : Namespace}
    {module : SourceModule} {past : List Contribution}
    (held : Reflects workingDirectory home module past) {label : Section} {exported : Bool}
    (forEnumerations : (label, exported) ∈ enumerationSections)
    (unwritten : ∀ call, .write label call ∉ past) :
    module.sections.get label =
      LineBuffer.printed exported (past.filterMap (·.declaredIn? label)) := by
  have calls : past.flatMap (·.callsOn label) =
      (past.filterMap (·.declaredIn? label)).map (.enumeration · exported) := by
    rw [List.filterMap_eq_flatMap_toList, List.map_flatMap]
    apply List.flatMap_congr
    intro contribution isPast
    exact Contribution.callsOn_eq_map forEnumerations
      fun call same => unwritten call (same ▸ isPast)
  rw [held.sections, calls, LineBuffer.afterCalls_enumerations]

theorem Reflects.partText_eq_declarations {workingDirectory : String} {home : Namespace}
    {module : SourceModule} {past : List Contribution}
    (held : Reflects workingDirectory home module past)
    (plain : ∀ contribution ∈ past, contribution.IsPlain) {label : Section} {exported : Bool}
    (forEnumerations : (label, exported) ∈ enumerationSections)
    (unwritten : ∀ call, .write label call ∉ past) :
    let declared := past.filterMap (·.declaredIn? label)
    (∀ enumeration ∈ declared, enumeration.IsRenderable) →
    module.partText (.buffer label) =
        "\n\n".intercalate (declared.map fun enumeration =>
          ofLines (enumeration.declarationLines exported defaultUnit)) ∧
      ∀ enumeration ∈ declared,
        ∀ line ∈ enumeration.declarationLines exported defaultUnit, IsLine line := by
  intro declared renderable
  constructor
  · have filled : ∀ part ∈ declared.map (·.declarationLines exported defaultUnit), part ≠ [] := by
      intro part member
      rcases List.mem_map.mp member with ⟨enumeration, -, rfl⟩
      simp [Enumeration.declarationLines]
    have separated := intercalate_ofLines filled
    rw [List.map_map] at separated
    calc
      module.partText (.buffer label)
      _ = ofLines (module.sections.get label).lines := rfl
      _ = ofLines ([""].intercalate (declared.map (·.declarationLines exported defaultUnit))) := by
        rw [held.section_eq_printed forEnumerations unwritten,
          LineBuffer.printed_eq exported renderable]
      _ = "\n\n".intercalate (declared.map fun enumeration =>
            ofLines (enumeration.declarationLines exported defaultUnit)) := separated.symm
  · intro enumeration member
    rcases List.mem_filterMap.mp member with ⟨contribution, isPast, found⟩
    have called : .enumeration enumeration exported ∈ contribution.callsOn label := by
      rw [Contribution.callsOn_eq_map forEnumerations
        fun call same => unwritten call (same ▸ isPast), found]
      simp
    have texts := ((plain contribution isPast).callsOn label _ called).texts
    rw [← Enumeration.printedLines_of_isRenderable (renderable enumeration member)]
    exact Enumeration.isLine_of_mem_printedLines texts exported

/-- Type definitions begin with the note, and are the note, the imports, the preamble and
the sections in order, as far as these have content, with one blank line between them.
Blank lines are nowhere else at a margin, so there are never two of them, nor one at the
end. Where only declarations are written to a section for enumerations, it holds what they
print, and is made of them in the same way unless one breaks off. -/
theorem typeDefinitions_wellSpaced (workingDirectory : String) (home : Namespace)
    (calls : List ModuleCall) (rooted : Directory.isAbsolute workingDirectory = true)
    (homeDotted : home.IsDotted) (additive : ∀ call ∈ calls, call.IsAdditive)
    (importsDotted : ∀ imported, .contribute (.importOf imported) ∈ calls → imported.IsDotted)
    (plain : ∀ contribution ∈ ({ home } : SourceModule).takenUp workingDirectory calls,
      contribution.IsPlain) {text : String}
    (answered : (({ home } : SourceModule).performAll workingDirectory
      calls).1.typeDefinitions.answer = .ok text) :
    let taken := ({ home } : SourceModule).takenUp workingDirectory calls
    let final := (({ home } : SourceModule).performAll workingDirectory
      calls).1.typeDefinitions.state
    let shown := ([generatedNote] :: final.importLines :: (final.sections.get .preamble).lines ::
      DefinitionPart.order.map final.partLines).filter (· ≠ [])
    text = "\n\n".intercalate (shown.map ofLines) ∧
      pieces '\n' text = [""].intercalate shown ∧
      generatedNote.toList <+: text.toList ∧
      text.toList.getLast? ≠ some '\n' ∧
      ¬['\n', '\n', '\n'] <:+: text.toList ∧
      ∀ label exported, (label, exported) ∈ [(Section.enumerations, true),
          (.inlineEnumerations, false)] →
        (∀ call, .write label call ∉ taken) →
        let declared := taken.filterMap (·.declaredIn? label)
        final.sections.get label = LineBuffer.printed exported declared ∧
        ((∀ enumeration ∈ declared, enumeration.IsRenderable) →
          final.partText (.buffer label) =
              "\n\n".intercalate (declared.map fun enumeration =>
                ofLines (enumeration.declarationLines exported defaultUnit)) ∧
            ∀ enumeration ∈ declared,
              ∀ line ∈ enumeration.declarationLines exported defaultUnit, IsLine line) := by
  intro taken final shown
  have start := Reflects.new workingDirectory home
  have held : Reflects workingDirectory home final taken :=
    (start.performAll additive).typeDefinitions
  have allAdditive : ∀ contribution ∈ taken, contribution.IsAdditive := fun contribution isTaken =>
    additive _ (mem_of_mem_takenUp isTaken)
  rcases isSettled_and_eq_of_answer answered with ⟨settled, rfl⟩
  have tidy := held.isTidy_part allAdditive plain settled rooted homeDotted
    fun imported isTaken => importsDotted imported (mem_of_mem_takenUp isTaken)
  have headed : ∀ block ∈ final.blocks.values, block.buffer.lines ≠ [] := fun block member =>
    (held.isTidy_block allAdditive plain settled member).2
  have lines : final.layOut = ofLines ([""].intercalate shown) := layOut_eq tidy headed
  have shownTidy : ∀ part ∈ shown, IsTidy part := fun part member =>
    tidy part (List.mem_filter.mp member).1
  have shownFilled : ∀ part ∈ shown, part ≠ [] := fun part member => by
    simpa using (List.mem_filter.mp member).2
  have allTidy := IsTidy.separated shownTidy shownFilled
  have noteFirst : ∃ rest, shown = [generatedNote] :: rest :=
    ⟨_, List.filter_cons_of_pos (by simp)⟩
  rcases noteFirst with ⟨rest, noteFirst⟩
  have joined : final.layOut = "\n\n".intercalate (shown.map ofLines) := by
    rw [lines, intercalate_ofLines shownFilled]
  refine ⟨joined, ?_, ?_, ?_, ?_, ?_⟩
  · rw [lines]
    apply allTidy.pieces_ofLines
    rw [noteFirst]
    exact intercalate_ne_nil (List.cons_ne_nil _ _)
  · have front : [generatedNote] <+: shown.map ofLines := by
      rw [noteFirst]
      exact ⟨_, rfl⟩
    have isPrefix := intercalate_isPrefix "\n\n" front
    rwa [String.intercalate_singleton, ← joined] at isPrefix
  · exact lines ▸ allTidy.getLast?_ofLines
  · exact lines ▸ allTidy.not_isInfix_ofLines
  · intro label exported forEnumerations unwritten declared
    exact ⟨held.section_eq_printed forEnumerations unwritten,
      held.partText_eq_declarations plain forEnumerations unwritten⟩

/-- Refused contributions do not matter, neither a service that holds a line break nor an
outdent too many. -/
theorem typeDefinitions_wellSpaced_of_shop :
    let home : Namespace := ⟨["shop"], by decide⟩
    let base : Namespace := ⟨["_"], by decide⟩
    let level : Contribution := .enumeration "shop.Level" ⟨"Level", [("low", .integer 1)]⟩
    let none : Contribution := .enumeration "shop.None" ⟨"None", []⟩
    let books : Contribution :=
      .block "Books" (some (.content (.edit (.add "type text = string;"))))
    let calls : List ModuleCall :=
      [.contribute (.importOf base), .contribute (.service "shop.S"),
        .contribute (.service "a\nb"), .contribute level,
        .contribute (.write .enumerations (.edit .outdent)), .contribute none, .contribute books]
    let taken := ({ home } : SourceModule).takenUp "/work" calls
    let final := (({ home } : SourceModule).performAll "/work" calls).1.typeDefinitions.state
    let printed := "// enum\nexport const Level = \x7b\n  low: 1,\n\x7d as const;\n" ++
      "export type Level = 1;\n\n// enum\nexport const None = \x7b\n\x7d as const;\n" ++
      "export type None = never;"
    (Directory.isAbsolute "/work" = true ∧ home.IsDotted ∧
        (∀ imported, .contribute (.importOf imported) ∈ calls → imported.IsDotted) ∧
        (∀ call ∈ calls, call.IsAdditive) ∧ (∀ contribution ∈ taken, contribution.IsPlain) ∧
        (({ home } : SourceModule).performAll "/work" calls).1.typeDefinitions.answer =
          .ok final.layOut) ∧
      taken = [.importOf base, .service "shop.S", level, none, books] ∧
      final.partText (.buffer .enumerations) = printed ∧
      final.layOut = "\n\n".intercalate [generatedNote, "import * as __ from './../_';",
        "export default \x7b name: 'shop.S' \x7d", printed,
        "export namespace Books \x7b\n  type text = string;\n\x7d"] ∧
      ¬['\n', '\n', '\n'] <:+: final.layOut.toList := by
  intro home base level none books calls taken final printed
  have rooted : Directory.isAbsolute "/work" = true := by decide
  have homeDotted : home.IsDotted := by decide
  have importsDotted : ∀ imported, .contribute (.importOf imported) ∈ calls →
      imported.IsDotted := by
    intro imported called
    have same : imported = base := by simpa [calls, level, none, books] using called
    rw [same]
    decide
  have additive : ∀ call ∈ calls, call.IsAdditive := by
    simp [calls, level, none, books, ModuleCall.IsAdditive, Contribution.IsAdditive,
      BlockCall.IsAdditive, BufferCall.IsAdditive]
  have takes : taken = [.importOf base, .service "shop.S", level, none, books] := by
    decide +kernel
  have plain : ∀ contribution ∈ taken, contribution.IsPlain := by
    rw [takes]
    decide
  have closing : (closeInOrder (({ home } : SourceModule).performAll "/work"
      calls).1.blocks.entries).answer = .ok () := by decide +kernel
  have answered : (({ home } : SourceModule).performAll "/work" calls).1.typeDefinitions.answer =
      .ok final.layOut := by
    rw [answer_typeDefinitions, closing]
    rfl
  rcases typeDefinitions_wellSpaced "/work" home calls rooted homeDotted additive importsDotted
    plain answered with ⟨-, -, -, -, single, declarations⟩
  have unwritten : ∀ call, .write .enumerations call ∉ taken := by
    simp [takes, level, none, books]
  have renderable : ∀ enumeration ∈ taken.filterMap (·.declaredIn? .enumerations),
      enumeration.IsRenderable := by
    rw [takes]
    decide
  have section_ := ((declarations .enumerations true (by simp) unwritten).2 renderable).1
  change final.partText _ = "\n\n".intercalate ((taken.filterMap _).map _) at section_
  refine ⟨⟨rooted, homeDotted, importsDotted, additive, plain, answered⟩, takes, ?_, ?_, single⟩
  · rw [section_, takes]
    rfl
  · have shown : final.definitionTexts.tail.filter (· ≠ "") = ["import * as __ from './../_';",
        "export default \x7b name: 'shop.S' \x7d", printed,
        "export namespace Books \x7b\n  type text = string;\n\x7d"] := by decide +kernel
    rw [layOut_eq_intercalate_cons, shown]

/-- Behind a declaration that broke off, the next one is indented, and so is the line
between them, which is not empty then. -/
theorem not_wellSpaced_of_powerOfTen :
    let endless : Enumeration := ⟨"Big", [("a", .integer (10 ^ Scalar.digitLimit))]⟩
    let level : Enumeration := ⟨"Level", [("low", .integer 1)]⟩
    let final := (({ home := ⟨["shop"], by decide⟩ } : SourceModule).performAll "/work"
      [.contribute (.enumeration "shop.Big" endless),
        .contribute (.enumeration "shop.Level" level)]).1
    let printed :=
      "// enum\nexport const Big = \x7b\n  \n  // enum\n  export const Level = \x7b\n" ++
        "    low: 1,\n  \x7d as const;\n  export type Level = 1;"
    final.typeDefinitions.answer = .ok (generatedNote ++ "\n\n" ++ printed) ∧
      final.typeDefinitions.state.partText (.buffer .enumerations) = printed ∧
      ¬['\n', '\n'] <:+: printed.toList := by
  intro endless level final printed
  let after := (brokenOff.contribute "/work" (.enumeration "shop.Level" level)).state
  have ends : final = after := congrArg Prod.fst (performAll_powerOfTen "/work" _)
  have text : after.partText (.buffer .enumerations) = printed := by decide
  -- There is nothing to close, and the section is the only one with content.
  have answered : after.typeDefinitions.answer =
      .ok (generatedNote ++ "\n\n" ++ after.partText (.buffer .enumerations)) := rfl
  have characters : printed.toList = _ ++ _ := String.toList_append.trans
    (congrArg₂ _ String.toList_ofList String.toList_ofList)
  have single : ¬['\n', '\n'] <:+: printed.toList := by
    rw [characters]
    decide +kernel
  rw [ends, answered, text]
  exact ⟨rfl, text, single⟩

end SourceModule

end TypedModules
