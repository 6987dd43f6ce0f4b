import TypedModules.Proofs.Text.Joining
import TypedModules.SourceModule.RuntimeStub

/-! # Statements of runtime stubs

A line of a runtime stub replaces all exports, assigns one of them, or leaves them
alone. It is read by its beginning, and what is assigned stays the text that it
is.
-/

namespace TypedModules

inductive StubStatement where
  | neutral
  | replace (name expression : String)
  | assign (name expression : String)
  deriving DecidableEq

namespace StubStatement

/-! ## Lines -/

def replacement : String := "module.exports = "

def assignment : String := "module.exports."

def replacementLine (expression : String) : String :=
  "module.exports = \x7b name: " ++ expression ++ " \x7d"

def assignmentLine (name expression : String) : String :=
  "module.exports." ++ name ++ " = " ++ expression

def isNeutral (line : List Char) : Bool :=
  line.isEmpty || "//".toList.isPrefixOf line || "const ".toList.isPrefixOf line

def replacesExports (line : String) : Bool :=
  (line.toList.dropPrefix? replacement.toList).isSome

def readObject? (object : List Char) : Option StubStatement := do
  let member ← object.dropPrefix? "\x7b name: ".toList
  let expression ← member.dropSuffix? " \x7d".toList
  return .replace "name" (String.ofList expression)

/-- A name and what is assigned to it. A dotted name belongs to an export, but is
not one itself. -/
def readAssignment? (target : List Char) : Option StubStatement :=
  let name := target.takeWhile (· ≠ ' ')
  if '.' ∈ name then none
  else
    ((target.dropWhile (· ≠ ' ')).dropPrefix? " = ".toList).map fun expression =>
      .assign (String.ofList name) (String.ofList expression)

def read? (line : String) : Option StubStatement :=
  if isNeutral line.toList then some .neutral
  else
    match line.toList.dropPrefix? replacement.toList with
    | some object => readObject? object
    | none => (line.toList.dropPrefix? assignment.toList).bind readAssignment?

/-! ## Lines that are read back -/

theorem readObject?_append (expression : List Char) :
    readObject? ("\x7b name: ".toList ++ (expression ++ " \x7d".toList)) =
      some (.replace "name" (String.ofList expression)) := by
  rw [readObject?, Text.dropPrefix?_append, Option.bind_eq_bind, Option.bind_some,
    Text.dropSuffix?_append]
  rfl

theorem readAssignment?_append {name : List Char} (undotted : '.' ∉ name) (unbroken : ' ' ∉ name)
    (expression : List Char) :
    readAssignment? (name ++ (" = ".toList ++ expression)) =
      some (.assign (String.ofList name) (String.ofList expression)) := by
  have inName : ∀ character ∈ name, decide (character ≠ ' ') = true := by
    intro character member
    exact decide_eq_true fun blank => unbroken (blank ▸ member)
  have front : (name ++ (" = ".toList ++ expression)).takeWhile (· ≠ ' ') = name := by
    rw [List.takeWhile_append_of_pos inName]
    simp
  have back : (name ++ (" = ".toList ++ expression)).dropWhile (· ≠ ' ') =
      " = ".toList ++ expression := by
    rw [List.dropWhile_append_of_pos inName]
    simp
  simp only [readAssignment?, front, if_neg undotted, back, Text.dropPrefix?_append,
    Option.map_some]

theorem replacesExports_replacementLine (expression : String) :
    replacesExports (replacementLine expression) = true := by
  have line : (replacementLine expression).toList =
      replacement.toList ++ ("\x7b name: " ++ expression ++ " \x7d").toList := by
    unfold replacementLine replacement
    simp
  rw [replacesExports, line, Text.dropPrefix?_append]
  rfl

theorem replacesExports_assignmentLine (name expression : String) :
    replacesExports (assignmentLine name expression) = false := by
  unfold replacesExports assignmentLine replacement
  simp [List.dropPrefix?]

theorem read?_of_isNeutral {line : String} (neutral : isNeutral line.toList = true) :
    read? line = some .neutral := by
  rw [read?, if_pos neutral]

theorem read?_replacementLine (expression : String) :
    read? (replacementLine expression) = some (.replace "name" expression) := by
  have line : (replacementLine expression).toList =
      replacement.toList ++ ("\x7b name: ".toList ++ (expression.toList ++ " \x7d".toList)) := by
    unfold replacementLine replacement
    simp
  have effective (rest : List Char) : isNeutral (replacement.toList ++ rest) = false := by
    simp [replacement, isNeutral, List.isPrefixOf]
  rw [read?, line, effective, Text.dropPrefix?_append]
  simp only [Bool.false_eq_true, if_false, readObject?_append, String.ofList_toList]

theorem read?_assignmentLine {name : String} (undotted : '.' ∉ name.toList)
    (unbroken : ' ' ∉ name.toList) (expression : String) :
    read? (assignmentLine name expression) = some (.assign name expression) := by
  have line : (assignmentLine name expression).toList =
      assignment.toList ++ (name.toList ++ (" = ".toList ++ expression.toList)) := by
    unfold assignmentLine assignment
    simp
  have effective (rest : List Char) : isNeutral (assignment.toList ++ rest) = false := by
    simp [assignment, isNeutral, List.isPrefixOf]
  have unreplaced (rest : List Char) :
      (assignment.toList ++ rest).dropPrefix? replacement.toList = none := by
    simp [assignment, replacement, List.dropPrefix?]
  rw [read?, line, effective, unreplaced, Text.dropPrefix?_append]
  simp only [Bool.false_eq_true, if_false, Option.bind_some,
    readAssignment?_append undotted unbroken, String.ofList_toList]

end StubStatement

/-! ## The lines of a module -/

namespace SourceModule

open StubStatement

theorem serviceLine_eq (fullName : String) :
    serviceLine fullName = replacementLine ("'" ++ fullName ++ "'") := by
  apply String.toList_injective
  unfold serviceLine replacementLine
  simp

theorem exportLine_eq (inflection : Inflection) (name : String) :
    inflection.exportLine name = assignmentLine name ("csn." ++ inflection.entity) := by
  apply String.toList_injective
  unfold Inflection.exportLine assignmentLine
  simp

theorem eventLine_eq (event : EventRecord) :
    eventLine event = assignmentLine event.name ("'" ++ event.fullName ++ "'") := by
  apply String.toList_injective
  unfold eventLine assignmentLine
  simp

theorem actionLine_eq (name : String) :
    actionLine name = assignmentLine name ("'" ++ name ++ "'") := by
  apply String.toList_injective
  unfold actionLine assignmentLine
  simp

theorem enumerationLine_eq (record : EnumerationRecord) :
    enumerationLine record =
      assignmentLine record.name (⟨record.name, record.members⟩ : Enumeration).objectText := rfl

end SourceModule

end TypedModules
