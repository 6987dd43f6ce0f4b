import TypedModules.Proofs.Library.Offering
import TypedModules.Proofs.Library.Scanning
import TypedModules.Proofs.Text.Trimming

/-! # Class headers on their lines

A line declares a class with any blanks in front, the modifiers or not, any blanks
between the words, and anything behind the name. The name that is read of it goes on with
letters of other scripts that follow the identifier, and loses dollar signs at its end.
So an identifier is catalogued as it stands exactly if neither happens.
-/

namespace TypedModules.Library

/-! ## Parts of a line -/

structure Spacing where
  characters : List Char
  blank : ∀ character ∈ characters, Text.isBlank character = true := by decide
  unbroken : ∀ character ∈ characters, Text.isLineBreak character = false := by decide

structure Gap extends Spacing where
  nonempty : characters ≠ [] := by decide

structure Identifier where
  first : Char
  others : List Char
  start : MemberName.isStart first = true := by decide
  parts : ∀ character ∈ others, MemberName.isPart character = true := by decide

/-- What is left of a line behind an identifier. No comment starts in it. -/
structure Remainder where
  characters : List Char
  ends : ∀ first ∈ characters.head?, MemberName.isPart first = false := by decide
  unbroken : ∀ character ∈ characters, Text.isLineBreak character = false := by decide
  uncommented : IsUncommented characters := by decide

/-- A line that declares an exported class. A modifier comes with the gap behind it. -/
structure ClassLine where
  indentation : Spacing
  afterExport : Gap
  afterDeclare : Option Gap
  afterAbstract : Option Gap
  afterClass : Gap
  name : Identifier
  rest : Remainder

def Identifier.characters (identifier : Identifier) : List Char :=
  identifier.first :: identifier.others

def Identifier.text (identifier : Identifier) : String :=
  String.ofList identifier.characters

def spaced (word : String) (gap : Gap) : List Char :=
  word.toList ++ gap.characters

def modifier (word : String) (gap : Option Gap) : List Char :=
  gap.elim [] (spaced word)

namespace ClassLine

def header (line : ClassLine) : List Char :=
  List.flatten [spaced "export" line.afterExport, modifier "declare" line.afterDeclare,
    modifier "abstract" line.afterAbstract, spaced "class" line.afterClass, line.name.characters]

def text (line : ClassLine) : String :=
  String.ofList (line.indentation.characters ++ (line.header ++ line.rest.characters))

def bare (name : Identifier) : ClassLine where
  indentation := { characters := [] }
  afterExport := { characters := [' '] }
  afterDeclare := none
  afterAbstract := none
  afterClass := { characters := [' '] }
  name := name
  rest := { characters := [' ', '{', '}'] }

def readName (line : ClassLine) : String :=
  String.ofList (withoutDollars
    (line.name.characters ++ line.rest.characters.takeWhile isNameCharacter))

end ClassLine

/-! ## Words and gaps -/

theorem forall_mem_spaced {Holds : Char → Prop} {word : String} {gap : Gap}
    (ofWord : ∀ character ∈ word.toList, Holds character)
    (ofGap : ∀ character ∈ gap.characters, Holds character) :
    ∀ character ∈ spaced word gap, Holds character := by
  rw [spaced]
  exact List.forall_mem_append.mpr ⟨ofWord, ofGap⟩

theorem forall_mem_modifier {Holds : Char → Prop} {word : String} {gap : Option Gap}
    (ofWord : ∀ character ∈ word.toList, Holds character)
    (ofGap : ∀ some ∈ gap, ∀ character ∈ some.characters, Holds character) :
    ∀ character ∈ modifier word gap, Holds character := by
  cases gap with
  | none => exact fun _ member => absurd member List.not_mem_nil
  | some gap => exact forall_mem_spaced ofWord (ofGap gap rfl)

theorem afterWord?_spaced (word : String) (gap : Gap) {rest : List Char}
    (filled : ∀ first ∈ rest.head?, Text.isBlank first = false) :
    afterWord? word (spaced word gap ++ rest) = some rest := by
  have cut : word.toList.isPrefixOf? (spaced word gap ++ rest) = some (gap.characters ++ rest) := by
    rw [spaced, List.isPrefixOf?_eq_some_iff_append_eq, List.append_assoc]
  have unindented : rest.dropWhile Text.isBlank = rest := by
    cases rest with
    | nil => rfl
    | cons first others => rw [List.dropWhile_cons_of_neg (by simp [filled first rfl])]
  rw [afterWord?, cut]
  have blank := gap.blank
  cases characters : gap.characters with
  | nil => exact absurd characters gap.nonempty
  | cons next others =>
      rw [characters, List.forall_mem_cons] at blank
      simp only [List.cons_append]
      rw [if_pos blank.1, List.dropWhile_append_of_pos blank.2, unindented]

theorem afterOptionalWord_modifier (word : String) (gap : Option Gap) {rest : List Char}
    (filled : ∀ first ∈ rest.head?, Text.isBlank first = false)
    (absent : afterWord? word rest = none) :
    afterOptionalWord word (modifier word gap ++ rest) = rest := by
  rw [afterOptionalWord]
  cases gap with
  | none => simp [modifier, absent]
  | some gap => simp [modifier, afterWord?_spaced word gap filled]

theorem afterModifiers (afterDeclare afterAbstract : Option Gap) (afterClass : Gap)
    (rest : List Char) :
    let others := modifier "abstract" afterAbstract ++ (spaced "class" afterClass ++ rest)
    (∀ first ∈ (modifier "declare" afterDeclare ++ others).head?, Text.isBlank first = false) ∧
      afterOptionalWord "abstract"
          (afterOptionalWord "declare" (modifier "declare" afterDeclare ++ others)) =
        spaced "class" afterClass ++ rest := by
  intro others
  have othersFilled : ∀ first ∈ others.head?, Text.isBlank first = false := by
    cases afterAbstract <;> simp [others, modifier, spaced] <;> decide
  have undeclared : afterWord? "declare" others = none := by
    cases afterAbstract <;> simp [others, modifier, spaced, afterWord?, List.isPrefixOf?]
  have concrete : afterWord? "abstract" (spaced "class" afterClass ++ rest) = none := by
    simp [spaced, afterWord?, List.isPrefixOf?]
  constructor
  · cases afterDeclare with
    | none => exact othersFilled
    | some gap => simp [modifier, spaced]; decide
  · rw [afterOptionalWord_modifier "declare" afterDeclare othersFilled undeclared]
    exact afterOptionalWord_modifier "abstract" afterAbstract (by simp [spaced]; decide) concrete

namespace Identifier

variable (identifier : Identifier)

theorem isPart_of_mem {character : Char} (member : character ∈ identifier.characters) :
    MemberName.isPart character = true := by
  rcases List.mem_cons.mp member with rfl | inOthers
  · exact MemberName.isPart_of_isStart identifier.start
  · exact identifier.parts character inOthers

theorem isNameCharacter_of_mem {character : Char} (member : character ∈ identifier.characters) :
    isNameCharacter character = true :=
  isNameCharacter_of_isPart (identifier.isPart_of_mem member)

theorem not_isBlank_of_mem {character : Char} (member : character ∈ identifier.characters) :
    Text.isBlank character = false := by
  rw [Bool.eq_false_iff]
  intro blank
  have inName := identifier.isNameCharacter_of_mem member
  rw [not_isNameCharacter_of_isBlank blank] at inName
  cases inName

theorem not_isLineBreak_of_mem {character : Char} (member : character ∈ identifier.characters) :
    Text.isLineBreak character = false := by
  rw [Bool.eq_false_iff]
  intro breaks
  have filled := identifier.not_isBlank_of_mem member
  rw [Text.isBlank_of_isLineBreak breaks] at filled
  cases filled

theorem characters_ne_nil : identifier.characters ≠ [] :=
  List.cons_ne_nil _ _

theorem text_ne_empty : identifier.text ≠ "" := by
  simp [text, identifier.characters_ne_nil]

theorem dot_notMem_text : '.' ∉ identifier.text.toList := by
  rw [text, String.toList_ofList]
  exact fun member => absurd (identifier.isPart_of_mem member) (by decide)

theorem withoutDollars_eq_self_iff :
    withoutDollars identifier.characters = identifier.characters ↔
      identifier.characters.getLast? ≠ some '$' := by
  rw [withoutDollars, List.rdropWhile_eq_self_iff,
    List.getLast?_eq_some_getLast identifier.characters_ne_nil]
  simp [identifier.characters_ne_nil]

theorem leadingName?_append (rest : List Char) :
    leadingName? (identifier.characters ++ rest) = Option.guard (· ≠ [])
      (withoutDollars (identifier.characters ++ rest.takeWhile isNameCharacter)) := by
  have taken : (identifier.others ++ rest).takeWhile isNameCharacter =
      identifier.others ++ rest.takeWhile isNameCharacter :=
    List.takeWhile_append_of_pos fun _ member =>
      identifier.isNameCharacter_of_mem (List.mem_cons_of_mem _ member)
  rw [characters, List.cons_append, leadingName?_cons identifier.start, taken, List.cons_append]

end Identifier

namespace ClassLine

variable (line : ClassLine)

theorem header_eq :
    line.header = spaced "export" line.afterExport ++ (modifier "declare" line.afterDeclare ++
      (modifier "abstract" line.afterAbstract ++
        (spaced "class" line.afterClass ++ line.name.characters))) := by
  simp [header]

theorem trim_line :
    Text.trim (line.indentation.characters ++ (line.header ++ line.rest.characters)) =
      line.header ++ line.rest.characters.rdropWhile Text.isBlank := by
  have endsWithName : ∃ words, line.header = words ++ line.name.characters := by
    simp only [header_eq, ← List.append_assoc]
    exact ⟨_, rfl⟩
  have sameLast : line.header.getLast? = line.name.characters.getLast? := by
    rcases endsWithName with ⟨words, shape⟩
    rw [shape, List.getLast?_append_of_ne_nil words line.name.characters_ne_nil]
  apply Text.trim_append line.indentation.blank
  · exact ⟨'e', by simp [header_eq, spaced], by decide⟩
  · intro last isLast
    rw [sameLast] at isLast
    exact line.name.not_isBlank_of_mem (List.mem_of_mem_getLast? isLast)

theorem declaredClass?_line :
    declaredClass? (line.indentation.characters ++ (line.header ++ line.rest.characters)) =
      Option.guard (· ≠ []) (withoutDollars
        (line.name.characters ++ line.rest.characters.takeWhile isNameCharacter)) := by
  let trimmed := line.rest.characters.rdropWhile Text.isBlank
  have sameTaken : line.rest.characters.takeWhile isNameCharacter =
      trimmed.takeWhile isNameCharacter := by
    have cut : trimmed ++ line.rest.characters.rtakeWhile Text.isBlank = line.rest.characters :=
      List.rdropWhile_append_rtakeWhile
    rw [← cut]
    refine Text.takeWhile_append_of_forall_not fun character member => ?_
    exact not_isNameCharacter_of_isBlank (List.mem_rtakeWhile_imp member)
  have nameFilled : ∀ first ∈ (line.name.characters ++ trimmed).head?,
      Text.isBlank first = false := by
    rintro first ⟨⟩
    exact line.name.not_isBlank_of_mem List.mem_cons_self
  rcases afterModifiers line.afterDeclare line.afterAbstract line.afterClass
    (line.name.characters ++ trimmed) with ⟨filled, modifiers⟩
  rw [declaredClass?, trim_line]
  simp only [header_eq, List.append_assoc, Option.bind_eq_bind]
  rw [afterWord?_spaced "export" _ filled, Option.bind_some, modifiers,
    afterWord?_spaced "class" _ nameFilled, Option.bind_some, line.name.leadingName?_append,
    sameTaken]

/-! ## A line by itself -/

theorem forall_mem_front {Holds : Char → Prop}
    (ofSpacing : ∀ spacing : Spacing, ∀ character ∈ spacing.characters, Holds character)
    (ofWord : ∀ word ∈ ["export", "declare", "abstract", "class"],
      ∀ character ∈ word.toList, Holds character)
    (ofName : ∀ character ∈ line.name.characters, Holds character) :
    ∀ character ∈ line.indentation.characters ++ line.header, Holds character := by
  simp only [List.forall_mem_cons] at ofWord
  rcases ofWord with ⟨ofExport, ofDeclare, ofAbstract, ofClass, -⟩
  simp only [header_eq, List.forall_mem_append]
  exact ⟨ofSpacing line.indentation, forall_mem_spaced ofExport (ofSpacing _),
    forall_mem_modifier ofDeclare fun gap _ => ofSpacing gap.toSpacing,
    forall_mem_modifier ofAbstract fun gap _ => ofSpacing gap.toSpacing,
    forall_mem_spaced ofClass (ofSpacing _), ofName⟩

theorem slash_notMem_front : '/' ∉ line.indentation.characters ++ line.header := by
  have others : ∀ character ∈ line.indentation.characters ++ line.header, character ≠ '/' := by
    refine line.forall_mem_front (fun spacing => ?_) (by decide) ?_
    · rintro _ member rfl
      exact absurd (spacing.blank _ member) (by decide)
    · rintro _ member rfl
      exact absurd (line.name.isPart_of_mem member) (by decide)
  exact fun member => others '/' member rfl

theorem unbroken :
    ∀ character ∈ line.indentation.characters ++ (line.header ++ line.rest.characters),
      Text.isLineBreak character = false := by
  rw [← List.append_assoc, List.forall_mem_append]
  exact ⟨line.forall_mem_front Spacing.unbroken (by decide)
    fun _ => line.name.not_isLineBreak_of_mem, line.rest.unbroken⟩

theorem scan_text :
    withoutComments .code line.text.toList =
        line.indentation.characters ++ (line.header ++ line.rest.characters) ∧
      scanEnd .code line.text.toList = .code := by
  have unchanged := line.rest.uncommented.scan
  have front := scan_append_of_slashFree line.slash_notMem_front line.rest.characters
  rw [unchanged.1, unchanged.2, List.append_assoc] at front
  rwa [text, String.toList_ofList]

theorem declaredClasses_text : declaredClasses line.text = [line.readName].filter (· ≠ "") := by
  rw [declaredClasses_of_unbroken (by rw [line.scan_text.1]; exact line.unbroken),
    line.scan_text.1, line.declaredClass?_line, readName]
  cases withoutDollars
    (line.name.characters ++ line.rest.characters.takeWhile isNameCharacter) <;>
    simp [Option.guard]

theorem readName_eq_iff :
    line.readName = line.name.text ↔ line.name.characters.getLast? ≠ some '$' ∧
      ∀ first ∈ line.rest.characters.head?, isNameCharacter first = false := by
  have sameText : line.readName = line.name.text ↔
      withoutDollars (line.name.characters ++ line.rest.characters.takeWhile isNameCharacter) =
        line.name.characters :=
    String.ofList_inj
  rw [sameText]
  cases rest : line.rest.characters with
  | nil =>
      rw [List.takeWhile_nil, List.append_nil, line.name.withoutDollars_eq_self_iff]
      simp
  | cons first others =>
      cases continues : isNameCharacter first with
      | false =>
          rw [List.takeWhile_cons_of_neg (by simp [continues]), List.append_nil,
            line.name.withoutDollars_eq_self_iff]
          simp [continues]
      | true =>
          -- The name that is read reaches beyond the identifier, up to this character at least.
          rw [List.takeWhile_cons_of_pos continues]
          refine iff_of_false (fun same => ?_) (by simp [continues])
          have dollar := eq_dollar_of_withoutDollars_append same first List.mem_cons_self
          have ends := line.rest.ends first (by simp [rest])
          rw [dollar] at ends
          cases ends

end ClassLine

/-! ## Lines of a library -/

section Lines

variable {lines : List ClassLine} {contents : String}

def IsWritten (lines : List ClassLine) (contents : String) : Prop :=
  contents = Text.ofLines (lines.map ClassLine.text) ∨
    contents = Text.ofLines (lines.map ClassLine.text) ++ "\n"

theorem declaredClasses_eq_readNames (written : IsWritten lines contents) :
    declaredClasses contents = (lines.map ClassLine.readName).filter (· ≠ "") := by
  have closed : ∀ text ∈ lines.map ClassLine.text, IsClosed text.toList := by
    intro text isText
    rcases List.mem_map.mp isText with ⟨line, -, rfl⟩
    rw [IsClosed, line.scan_text.2]
    decide
  have lineByLine : declaredClasses contents =
      (lines.map ClassLine.text).flatMap declaredClasses := by
    rcases written with rfl | rfl
    · exact declaredClasses_ofLines closed
    · exact declaredClasses_ofLines_lineFeed closed
  rw [lineByLine, List.flatMap_map, ← List.flatMap_singleton' (lines.map _), List.filter_flatMap,
    List.flatMap_map]
  simp only [ClassLine.declaredClasses_text]

/-- What is read of lines is what they name if and only if this holds of each line: no name
may be lost, as the identifiers are as many as the lines. -/
theorem readNames_eq_iff (lines : List ClassLine) :
    (lines.map ClassLine.readName).filter (· ≠ "") = lines.map (·.name.text) ↔
      ∀ line ∈ lines, line.readName = line.name.text := by
  constructor
  · intro same
    have noneLost : ((lines.map ClassLine.readName).filter (· ≠ "")).length =
        (lines.map ClassLine.readName).length := by
      rw [same, List.length_map, List.length_map]
    have allKept := List.filter_eq_self.mpr (List.length_filter_eq_length_iff.mp noneLost)
    exact List.map_inj_left.mp (allKept.symm.trans same)
  · intro same
    rw [List.map_congr_left same, List.filter_eq_self]
    simp [Identifier.text_ne_empty]

theorem offers_identifier_iff (written : IsWritten lines contents) (file : String)
    (name : Identifier) :
    let library : Library := { file, contents }
    library.offers (library.dotted ++ "." ++ name.text) = true ↔
      ∃ line ∈ lines, line.readName = name.text := by
  intro library
  have offered : library.offers (library.dotted ++ "." ++ name.text) = true ↔
      name.text ∈ library.entities :=
    offers_fullName_iff library name.dot_notMem_text
  have entities : library.entities = (lines.map ClassLine.readName).filter (· ≠ "") :=
    declaredClasses_eq_readNames written
  rw [entities, List.mem_filter, List.mem_map] at offered
  simpa [name.text_ne_empty] using offered

end Lines

/-- What lines declare is read of them line by line, in order. It is exactly their
identifiers if and only if none of these ends with a dollar sign or is followed by a letter
of another script. A library of these lines offers what is read of them. -/
theorem declaredClasses_of_classLines (lines : List ClassLine) {contents : String}
    (written : IsWritten lines contents) :
    declaredClasses contents = (lines.map ClassLine.readName).filter (· ≠ "") ∧
      (declaredClasses contents = lines.map (·.name.text) ↔
        ∀ line ∈ lines, line.name.characters.getLast? ≠ some '$' ∧
          ∀ first ∈ line.rest.characters.head?, isNameCharacter first = false) ∧
      ∀ file, let library : Library := { file, contents }
        ∀ name : Identifier, library.offers (library.dotted ++ "." ++ name.text) = true ↔
          ∃ line ∈ lines, line.readName = name.text := by
  refine ⟨declaredClasses_eq_readNames written, ?_, offers_identifier_iff written⟩
  rw [declaredClasses_eq_readNames written, readNames_eq_iff]
  simp only [ClassLine.readName_eq_iff]

theorem declaredClasses_of_classLines_of_modified :
    let line : ClassLine :=
      { indentation := { characters := ['\t', ' '] }
        afterExport := { characters := [' '] }
        afterDeclare := some { characters := [' ', ' '] }
        afterAbstract := some { characters := ['\t'] }
        afterClass := { characters := [' '] }
        name := { first := '$', others := ['b', '1'] }
        rest := { characters := ['<', 'T', '>', ' ', '{', ' ', '/'] } }
    let lines := [.bare { first := 'A', others := [] }, line]
    let contents := "export class A {}\n\t export declare  abstract\tclass $b1<T> \x7b /\n"
    contents = Text.ofLines (lines.map ClassLine.text) ++ "\n" ∧
      declaredClasses contents = ["A", "$b1"] ∧
      ({ file := "cap.hana.ts", contents } : Library).offers "cap.hana.$b1" = true := by
  intro line lines contents
  have ofParts : contents = Text.ofLines (lines.map ClassLine.text) ++ "\n" ∧
      (∀ line ∈ lines, line.name.characters.getLast? ≠ some '$' ∧
        ∀ first ∈ line.rest.characters.head?, isNameCharacter first = false) ∧
      lines.map (·.name.text) = ["A", "$b1"] ∧
      (∃ other ∈ lines, other.readName = line.name.text) ∧
      Library.dotted { file := "cap.hana.ts", contents } ++ "." ++ line.name.text =
        "cap.hana.$b1" := by
    decide +kernel
  rcases ofParts with ⟨written, whole, names, read, full⟩
  rcases declaredClasses_of_classLines lines (.inr written) with ⟨-, asWritten, offered⟩
  rw [← names, ← full]
  exact ⟨written, asWritten.mpr whole, (offered "cap.hana.ts" line.name).mpr read⟩

/-- A dollar sign at the end of a name is lost, although names may hold dollar signs, and a
name of nothing else is not catalogued at all. -/
theorem not_catalogued_of_dollar :
    let lines : List ClassLine :=
      [.bare { first := 'A', others := ['$'] }, .bare { first := '$', others := [] }]
    Text.ofLines (lines.map ClassLine.text) = "export class A$ {}\nexport class $ {}" ∧
      declaredClasses (Text.ofLines (lines.map ClassLine.text)) = ["A"] ∧
      declaredClasses (Text.ofLines (lines.map ClassLine.text)) ≠ lines.map (·.name.text) := by
  decide +kernel

end TypedModules.Library
