import TypedModules.Declaration.Callable
import TypedModules.Proofs.Declaration.Identifier
import TypedModules.Proofs.Text.Joining

/-! # Signatures

A callable tells its parameters and its return type in two places, each time between other
fixed texts. Names and types that hold none of the characters that delimit them are read back
from either place.
-/

namespace TypedModules

namespace Text

variable {text first second : String}

def delimiters : List Char :=
  ['(', ')', '\x7b', '\x7d', ',', ':', '=']

def isDelimiter (character : Char) : Bool :=
  character ∈ delimiters

def IsUndelimited (text : String) : Prop :=
  ∀ character ∈ text.toList, isDelimiter character = false

instance (text : String) : Decidable (IsUndelimited text) :=
  List.decidableBAll _ text.toList

theorem IsUndelimited.notMem {delimiter : Char} (undelimited : IsUndelimited text)
    (delimits : isDelimiter delimiter = true) : delimiter ∉ text.toList := by
  intro member
  rw [undelimited delimiter member] at delimits
  cases delimits

theorem IsUndelimited.append (firstUndelimited : IsUndelimited first)
    (secondUndelimited : IsUndelimited second) : IsUndelimited (first ++ second) := by
  intro character member
  rw [String.toList_append, List.mem_append] at member
  exact member.elim (firstUndelimited character) (secondUndelimited character)

end Text

/-! ## Names -/

namespace MemberName

open Text (isDelimiter IsUndelimited)

variable {name : String}

theorem not_isDelimiter_of_isPart {character : Char} (part : isPart character = true) :
    isDelimiter character = false := by
  have noPart : Text.delimiters.all (!isPart ·) = true := by decide
  rw [isDelimiter, decide_eq_false_iff_not]
  intro member
  have notPart := List.all_eq_true.mp noPart character member
  rw [part] at notPart
  cases notPart

theorem isUndelimited_of_isIdentifier (passes : isIdentifier name.toList = true) :
    IsUndelimited name := by
  intro character member
  rcases isPart_or_lineFeed_of_mem passes member with part | rfl
  · exact not_isDelimiter_of_isPart part
  · decide

theorem isUndelimited_written (undelimited : IsUndelimited name) :
    IsUndelimited (written name) := by
  rcases written_cases name with ⟨itself, -⟩ | quoted
  · rwa [itself]
  · intro character member
    rw [quoted, List.mem_cons, List.mem_append, List.mem_singleton] at member
    rcases member with rfl | inName | rfl
    · decide
    · exact undelimited character inName
    · decide

def ofWritten : List Char → String
  | '"' :: quoted => String.ofList quoted.dropLast
  | name => String.ofList name

theorem ofWritten_written (name : String) : ofWritten (written name).toList = name := by
  rcases written_cases name with ⟨itself, bare⟩ | quoted
  · rw [itself]
    unfold ofWritten
    split
    · rename_i others shape
      -- Neither the empty name nor an identifier starts with a quote.
      rcases bare with rfl | passes
      · cases shape
      · rw [shape] at passes
        cases passes
    · exact String.ofList_toList
  · rw [quoted, ofWritten, List.dropLast_concat, String.ofList_toList]

end MemberName

open Text (isDelimiter IsUndelimited)

/-! ## Parameters -/

namespace Parameter

variable {parameter : Parameter} {parameters : List Parameter}

structure IsUndelimited (parameter : Parameter) : Prop where
  name : Text.IsUndelimited parameter.name
  type : Text.IsUndelimited parameter.type

instance (parameter : Parameter) : Decidable parameter.IsUndelimited :=
  decidable_of_iff (Text.IsUndelimited parameter.name ∧ Text.IsUndelimited parameter.type)
    ⟨fun both => ⟨both.1, both.2⟩, fun undelimited => ⟨undelimited.name, undelimited.type⟩⟩

def read? (text : List Char) : Option Parameter := do
  let (name, behind) ← Text.cutFirst ':' text
  let type ← behind.dropPrefix? [' ']
  return ⟨MemberName.ofWritten name, String.ofList type⟩

def piece (parameter : Parameter) : List Char :=
  [' '] ++ parameter.text.toList

def readPiece? (piece : List Char) : Option Parameter :=
  (piece.dropPrefix? [' ']).bind read?

def readList? (text : List Char) : Option (List Parameter) :=
  if text = [] then some []
  else ((' ' :: text).splitOn ',').mapM readPiece?

theorem toList_text (parameter : Parameter) :
    parameter.text.toList =
      (MemberName.written parameter.name).toList ++ ':' :: ' ' :: parameter.type.toList := by
  simp [text]

theorem read?_text (undelimited : parameter.IsUndelimited) :
    read? parameter.text.toList = some parameter := by
  have colonFree : ':' ∉ (MemberName.written parameter.name).toList :=
    (MemberName.isUndelimited_written undelimited.name).notMem (by decide)
  rw [toList_text, read?, Text.cutFirst_append_cons colonFree]
  change (([' '] ++ parameter.type.toList).dropPrefix? [' ']).bind _ = _
  rw [Text.dropPrefix?_append, Option.bind_some, MemberName.ofWritten_written,
    String.ofList_toList]
  rfl

theorem notMem_text {delimiter : Char} (undelimited : parameter.IsUndelimited)
    (delimits : isDelimiter delimiter = true) (differs : delimiter ≠ ':') :
    delimiter ∉ parameter.text.toList := by
  have notInName := (MemberName.isUndelimited_written undelimited.name).notMem delimits
  have notInType := undelimited.type.notMem delimits
  have notBlank : delimiter ≠ ' ' := by
    rintro rfl
    cases delimits
  rw [toList_text]
  simp [notInName, notInType, notBlank, differs]

theorem toList_listText (parameters : List Parameter) :
    (listText parameters).toList =
      ([','] ++ [' ']).intercalate (parameters.map fun parameter => parameter.text.toList) := by
  rw [listText, String.toList_intercalate, List.map_map]
  rfl

theorem readPiece?_piece (undelimited : parameter.IsUndelimited) :
    readPiece? parameter.piece = some parameter := by
  rw [readPiece?, piece, Text.dropPrefix?_append, Option.bind_some, read?_text undelimited]

theorem mapM_readPiece? (undelimited : ∀ parameter ∈ parameters, parameter.IsUndelimited) :
    (parameters.map piece).mapM readPiece? = some parameters := by
  induction parameters with
  | nil => rfl
  | cons first rest induction =>
      rw [List.forall_mem_cons] at undelimited
      rw [List.map_cons, List.mapM_cons, readPiece?_piece undelimited.1, induction undelimited.2]
      rfl

theorem splitOn_listText (undelimited : ∀ parameter ∈ parameters, parameter.IsUndelimited)
    (filled : parameters ≠ []) :
    (' ' :: (listText parameters).toList).splitOn ',' = parameters.map piece := by
  have commaFree : ∀ text ∈ parameters.map piece, ',' ∉ text := by
    intro text isPiece
    rcases List.mem_map.mp isPiece with ⟨parameter, member, rfl⟩
    have notInText : ',' ∉ parameter.text.toList :=
      notMem_text (undelimited parameter member) (by decide) (by decide)
    simpa [piece] using notInText
  have texts : parameters.map (fun parameter => parameter.text.toList) ≠ [] := by
    simpa using filled
  have joined := Text.append_intercalate_append [','] [' '] texts
  rw [List.map_map, ← toList_listText] at joined
  change ' ' :: (listText parameters).toList = [','].intercalate (parameters.map piece) at joined
  rw [joined, List.splitOn_intercalate ',' commaFree (by simpa using filled)]

theorem readList?_listText (undelimited : ∀ parameter ∈ parameters, parameter.IsUndelimited) :
    readList? (listText parameters).toList = some parameters := by
  by_cases empty : parameters = []
  · rw [empty]
    rfl
  · have pieces := splitOn_listText undelimited empty
    have nonempty : (listText parameters).toList ≠ [] := by
      intro noText
      rw [noText] at pieces
      have single : [[' ']] = parameters.map piece := pieces
      rcases List.map_eq_singleton_iff.mp single.symm with ⟨parameter, -, blank⟩
      simp [piece, toList_text] at blank
    rw [readList?, if_neg nonempty, pieces, mapM_readPiece? undelimited]

theorem notMem_listText {delimiter : Char}
    (undelimited : ∀ parameter ∈ parameters, parameter.IsUndelimited)
    (delimits : isDelimiter delimiter = true) (differs : delimiter ≠ ':' ∧ delimiter ≠ ',') :
    delimiter ∉ (listText parameters).toList := by
  have notBlank : delimiter ≠ ' ' := by
    rintro rfl
    cases delimits
  apply Text.notMem_intercalate
  · change delimiter ∉ [',', ' ']
    simp [differs.2, notBlank]
  · intro text isText
    rcases List.mem_map.mp isText with ⟨parameter, member, rfl⟩
    exact notMem_text (undelimited parameter member) delimits differs.1

end Parameter

/-! ## Signatures between fixed texts -/

structure Signature where
  parameters : List Parameter
  returns : String
  deriving DecidableEq

structure Signature.IsUndelimited (signature : Signature) : Prop where
  parameters : ∀ parameter ∈ signature.parameters, parameter.IsUndelimited
  returns : Text.IsUndelimited signature.returns

instance (signature : Signature) : Decidable signature.IsUndelimited :=
  decidable_of_iff ((∀ parameter ∈ signature.parameters, parameter.IsUndelimited) ∧
      Text.IsUndelimited signature.returns)
    ⟨fun both => ⟨both.1, both.2⟩,
      fun undelimited => ⟨undelimited.parameters, undelimited.returns⟩⟩

/-- The fixed texts around parameters and a return type. The parameters end at a delimiter that
does not stand between them, the return type at any delimiter, in front of which there may be
a margin. -/
structure Frame where
  opening : String
  closing : Char
  between : String
  margin : String
  ending : Char
  closes : isDelimiter closing = true ∧ closing ≠ ':' ∧ closing ≠ ','
  ends : isDelimiter ending = true
  marginUndelimited : Text.IsUndelimited margin

namespace Frame

variable {signature : Signature}

def called : Frame where
  opening := "\x7b ("
  closing := ')'
  between := ": "
  margin := ""
  ending := ','
  closes := by decide
  ends := by decide
  marginUndelimited := by decide

def exposed : Frame where
  opening := " __parameters: \x7b"
  closing := '\x7d'
  between := ", __returns: "
  margin := " "
  ending := '\x7d'
  closes := by decide
  ends := by decide
  marginUndelimited := by decide

def text (frame : Frame) (signature : Signature) : String :=
  frame.opening ++ Parameter.listText signature.parameters ++ String.singleton frame.closing ++
    frame.between ++ signature.returns ++ frame.margin ++ String.singleton frame.ending

def read? (frame : Frame) (text : List Char) : Option (Signature × List Char) := do
  let opened ← text.dropPrefix? frame.opening.toList
  let (parameters, behind) ← Text.cutFirst frame.closing opened
  let typed ← behind.dropPrefix? frame.between.toList
  let (returns, rest) ← Text.cutFirst frame.ending typed
  let parameters ← Parameter.readList? parameters
  let returns ← returns.dropSuffix? frame.margin.toList
  return (⟨parameters, String.ofList returns⟩, rest)

theorem read?_text_append (frame : Frame) (undelimited : signature.IsUndelimited)
    (rest : List Char) :
    frame.read? ((frame.text signature).toList ++ rest) = some (signature, rest) := by
  have inside : frame.closing ∉ (Parameter.listText signature.parameters).toList :=
    Parameter.notMem_listText undelimited.parameters frame.closes.1 frame.closes.2
  have returned : frame.ending ∉ signature.returns.toList ++ frame.margin.toList := by
    rw [← String.toList_append]
    exact (undelimited.returns.append frame.marginUndelimited).notMem frame.ends
  have shape : (frame.text signature).toList ++ rest =
      frame.opening.toList ++ ((Parameter.listText signature.parameters).toList ++
        frame.closing :: (frame.between.toList ++
          ((signature.returns.toList ++ frame.margin.toList) ++ frame.ending :: rest))) := by
    simp [text]
  simp only [shape, read?, Text.dropPrefix?_append, Option.bind_eq_bind, Option.bind_some,
    Text.cutFirst_append_cons inside, Text.cutFirst_append_cons returned,
    Parameter.readList?_listText undelimited.parameters, Text.dropSuffix?_append,
    String.ofList_toList]
  rfl

end Frame

end TypedModules
