import TypedModules.Proofs.Library.Header

/-! # Text in quotes

Comments are looked for before anything else, so what looks like one between quotes is
taken for one. The classes of a library with quoted texts are read exactly, however its
lines are arranged, if and only if each quoted text ends the comments that it starts and
declares nothing behind a line break of its own.
-/

namespace TypedModules.Library

structure PlainName where
  first : Char
  others : List Char
  letter : first.isAlpha = true := by decide
  alphanumeric : ∀ character ∈ others, character.isAlphanum = true := by decide

namespace PlainName

def identifier (name : PlainName) : Identifier where
  first := name.first
  others := name.others
  start := by simp [MemberName.isStart, name.letter]
  parts character member := by simp [MemberName.isPart, name.alphanumeric character member]

def text (name : PlainName) : String :=
  name.identifier.text

theorem isAlphanum_of_mem {name : PlainName} {character : Char}
    (member : character ∈ name.identifier.characters) : character.isAlphanum = true := by
  rcases List.mem_cons.mp member with rfl | inOthers
  · simpa [Char.isAlphanum] using .inl name.letter
  · exact name.alphanumeric character inOthers

end PlainName

/-- A line of a library that declares a class, or a constant for a quoted text. Anything
may stand between the quotes. -/
inductive DeclarationLine where
  | exportedClass (name : PlainName)
  | constant (name : PlainName) (quoted : String)

namespace DeclarationLine

def text : DeclarationLine → String
  | exportedClass name => String.join ["export class ", name.text, " {}"]
  | constant name quoted => String.join ["export const ", name.text, " = \"", quoted, "\";"]

def className? : DeclarationLine → Option String
  | exportedClass name => some name.text
  | constant _ _ => none

def quoted? : DeclarationLine → Option String
  | exportedClass _ => none
  | constant _ quoted => some quoted

/-! ## Lines with a class -/

theorem text_exportedClass (name : PlainName) :
    (exportedClass name).text = (ClassLine.bare name.identifier).text := by
  apply String.toList_injective
  simp [text, ClassLine.text, ClassLine.header, ClassLine.bare, spaced, modifier, PlainName.text,
    Identifier.text]

theorem declaredClasses_exportedClass (name : PlainName) :
    declaredClasses (exportedClass name).text = [name.text] := by
  have undollared : name.identifier.characters.getLast? ≠ some '$' := by
    intro dollar
    have alphanumeric := PlainName.isAlphanum_of_mem (List.mem_of_getLast? dollar)
    exact absurd alphanumeric (by decide)
  have ended : ∀ first ∈ (ClassLine.bare name.identifier).rest.characters.head?,
      isNameCharacter first = false := by
    rintro first ⟨⟩
    rw [isNameCharacter, Text.not_isWordCharacter_of_isBlank (by decide)]
    rfl
  have asWritten : (ClassLine.bare name.identifier).readName = name.text :=
    (ClassLine.readName_eq_iff _).mpr ⟨undollared, ended⟩
  rw [text_exportedClass, ClassLine.declaredClasses_text, asWritten]
  simp [PlainName.text, name.identifier.text_ne_empty]

theorem isClosed_exportedClass (name : PlainName) : IsClosed (exportedClass name).text.toList := by
  rw [text_exportedClass, IsClosed, (ClassLine.scan_text _).2]
  decide

theorem slash_notMem_exportedClass (name : PlainName) :
    '/' ∉ (exportedClass name).text.toList := by
  have free := (ClassLine.bare name.identifier).slash_notMem_front
  rw [text_exportedClass, ClassLine.text, String.toList_ofList, ← List.append_assoc,
    List.mem_append, not_or]
  exact ⟨free, by simp [ClassLine.bare]⟩

/-! ## Lines with a quoted text -/

def front (name : PlainName) : String :=
  String.join ["export const ", name.text, " = \""]

theorem toList_constant (name : PlainName) (quoted : String) :
    (constant name quoted).text.toList = (front name).toList ++ (quoted.toList ++ ['"', ';']) := by
  simp [text, front]

theorem slash_notMem_front (name : PlainName) : '/' ∉ (front name).toList := by
  have notInName : '/' ∉ name.text.toList := by
    rw [PlainName.text, Identifier.text, String.toList_ofList]
    exact fun member => absurd (PlainName.isAlphanum_of_mem member) (by decide)
  simp [front, notInName]

theorem scan_constant (name : PlainName) (quoted : String) :
    withoutComments .code (constant name quoted).text.toList =
        (front name).toList ++ (withoutComments .code quoted.toList ++
          withoutComments (scanEnd .code quoted.toList) ['"', ';']) ∧
      scanEnd .code (constant name quoted).text.toList =
        scanEnd (scanEnd .code quoted.toList) ['"', ';'] := by
  have behindFront := scan_append_of_slashFree (slash_notMem_front name)
    (quoted.toList ++ ['"', ';'])
  have noSlash : '"' ≠ '/' := by decide
  have noStar : '"' ≠ '*' := by decide
  have behindQuoted := scan_append_cons .code quoted.toList noSlash noStar [';']
  rw [toList_constant, behindFront.1, behindFront.2, behindQuoted.1, behindQuoted.2]
  exact ⟨rfl, rfl⟩

theorem isClosed_constant_iff (name : PlainName) (quoted : String) :
    IsClosed (constant name quoted).text.toList ↔ IsClosed quoted.toList := by
  rw [IsClosed, (scan_constant name quoted).2, IsClosed]
  cases scanEnd .code quoted.toList <;> decide

theorem declaredClass?_constant (rest : List Char) :
    declaredClass? ("export const".toList ++ rest) = none := by
  have trimmed : Text.trim ("export const".toList ++ rest) =
      "export const".toList ++ rest.rdropWhile Text.isBlank := by
    have starts : ∃ first ∈ "export const".toList.head?, Text.isBlank first = false :=
      ⟨'e', rfl, by decide⟩
    have ends : ∀ last ∈ "export const".toList.getLast?, Text.isBlank last = false := by decide
    exact Text.trim_append (List.forall_mem_nil _) starts ends
  have blank : Text.isBlank ' ' = true := by decide
  have filled : Text.isBlank 'c' = false := by decide
  rw [declaredClass?, trimmed]
  simp [afterWord?, afterOptionalWord, List.isPrefixOf?, blank, filled]

theorem declaredClasses_constant (name : PlainName) {quoted : String}
    (unbroken : ∀ character ∈ quoted.toList, Text.isLineBreak character = false) :
    declaredClasses (constant name quoted).text = [] := by
  have textUnbroken : ∀ character ∈ (constant name quoted).text.toList,
      Text.isLineBreak character = false := by
    have nameUnbroken : ∀ character ∈ name.text.toList, Text.isLineBreak character = false := by
      rw [PlainName.text, Identifier.text, String.toList_ofList]
      exact fun _ => name.identifier.not_isLineBreak_of_mem
    have frontUnbroken : ∀ character ∈ (front name).toList,
        Text.isLineBreak character = false := by
      simp only [front, String.toList_join, List.flatMap_cons, List.flatMap_nil, List.append_nil,
        List.forall_mem_append]
      exact ⟨by decide, nameUnbroken, by decide⟩
    rw [toList_constant]
    simp only [List.forall_mem_append]
    exact ⟨frontUnbroken, unbroken, by decide⟩
  have startsWithWords : ∃ rest, (front name).toList = "export const".toList ++ rest :=
    ⟨' ' :: (name.text.toList ++ " = \"".toList), by simp [front]⟩
  rcases startsWithWords with ⟨rest, front⟩
  rw [declaredClasses_of_unbroken fun character member =>
      textUnbroken character ((withoutComments_sublist _ _).subset member),
    (scan_constant name quoted).1, front, List.append_assoc, declaredClass?_constant]
  rfl

/-! ## Lines with harmless texts -/

/-- A quoted text that hides no class behind it and declares none. -/
def IsHarmless (quoted : String) : Prop :=
  IsClosed quoted.toList ∧ ∀ name, declaredClasses (constant name quoted).text = []

theorem isClosed_text {line : DeclarationLine}
    (harmless : ∀ quoted ∈ line.quoted?, IsHarmless quoted) : IsClosed line.text.toList := by
  cases line with
  | exportedClass name => exact isClosed_exportedClass name
  | constant name quoted => exact (isClosed_constant_iff name quoted).mpr (harmless quoted rfl).1

theorem declaredClasses_text {line : DeclarationLine}
    (harmless : ∀ quoted ∈ line.quoted?, IsHarmless quoted) :
    declaredClasses line.text = line.className?.toList := by
  cases line with
  | exportedClass name => exact declaredClasses_exportedClass name
  | constant name quoted => exact (harmless quoted rfl).2 name

end DeclarationLine

open DeclarationLine

/-- A quoted text that never disturbs the reading is harmless: by itself it declares
nothing, and a class on the next line shows that it leaves no comment open. -/
theorem isHarmless_of_exact {quoted : String}
    (exact : ∀ lines : List DeclarationLine,
      (∀ line ∈ lines, ∀ other ∈ line.quoted?, other = quoted) →
        declaredClasses (Text.ofLines (lines.map DeclarationLine.text)) =
          lines.filterMap className?) :
    IsHarmless quoted := by
  have alone (name : PlainName) : declaredClasses (constant name quoted).text = [] := by
    have read := exact [constant name quoted] (by simp [quoted?, eq_comm])
    rwa [List.filterMap_cons_none rfl, List.filterMap_nil, List.map_singleton, Text.ofLines,
      String.intercalate_singleton] at read
  refine ⟨Classical.not_not.mp fun isOpen => ?_, alone⟩
  let name : PlainName := { first := 'A', others := [] }
  have staysOpen : ¬IsClosed (constant name quoted).text.toList :=
    (isClosed_constant_iff name quoted).not.mpr isOpen
  have unended : ¬['*', '/'] <:+: (exportedClass name).text.toList := fun within =>
    slash_notMem_exportedClass name (within.subset (by simp))
  have read := exact [constant name quoted, exportedClass name] (by simp [quoted?, eq_comm])
  have inFront : Text.ofLines ([constant name quoted, exportedClass name].map text) =
      (constant name quoted).text ++ "\n" ++ (exportedClass name).text := by
    simp [Text.ofLines]
  rw [inFront, declaredClasses_append_of_open staysOpen unended, alone] at read
  cases read

/-- The classes of a library are read exactly, whatever its lines with these quoted texts
are, if and only if each quoted text is harmless. A text on one line is harmless if and only
if it leaves no block comment open. -/
theorem declaredClasses_of_quoted (texts : List String) :
    ((∀ lines : List DeclarationLine, (∀ line ∈ lines, ∀ quoted ∈ line.quoted?, quoted ∈ texts) →
        declaredClasses (Text.ofLines (lines.map DeclarationLine.text)) =
            lines.filterMap className? ∧
          declaredClasses (Text.ofLines (lines.map DeclarationLine.text) ++ "\n") =
            lines.filterMap className?) ↔
      ∀ quoted ∈ texts, IsHarmless quoted) ∧
    ∀ quoted : String, (∀ character ∈ quoted.toList, Text.isLineBreak character = false) →
      (IsHarmless quoted ↔ IsClosed quoted.toList) := by
  refine ⟨⟨fun exact quoted isQuoted => ?_, fun harmless lines quotations => ?_⟩,
    fun quoted unbroken => ⟨And.left, fun closed => ⟨closed, fun name => ?_⟩⟩⟩
  · exact isHarmless_of_exact fun lines quotations =>
      (exact lines fun line isLine other isOther => by
        rw [quotations line isLine other isOther]
        exact isQuoted).1
  · have closed : ∀ text ∈ lines.map DeclarationLine.text, IsClosed text.toList := by
      intro text isText
      rcases List.mem_map.mp isText with ⟨line, isLine, rfl⟩
      exact isClosed_text fun quoted isQuoted =>
        harmless quoted (quotations line isLine quoted isQuoted)
    have read : (lines.map DeclarationLine.text).flatMap declaredClasses =
        lines.filterMap className? := by
      rw [List.flatMap_map, List.filterMap_eq_flatMap_toList]
      refine List.flatMap_congr fun line isLine => ?_
      exact declaredClasses_text fun quoted isQuoted =>
        harmless quoted (quotations line isLine quoted isQuoted)
    rw [declaredClasses_ofLines closed, declaredClasses_ofLines_lineFeed closed, read]
    exact ⟨rfl, rfl⟩
  · exact declaredClasses_constant name unbroken

/-- A media type with a wildcard hides all classes behind it. -/
theorem not_declared_behind_mediaType :
    let lines := [constant { first := 'M', others := [] } "text/*",
      exportedClass { first := 'A', others := [] }]
    Text.ofLines (lines.map DeclarationLine.text) =
        "export const M = \"text/*\";\nexport class A {}" ∧
      declaredClasses (Text.ofLines (lines.map DeclarationLine.text)) = [] ∧
      declaredClasses (Text.ofLines (lines.map DeclarationLine.text)) ≠
        lines.filterMap className? := by
  decide

end TypedModules.Library
