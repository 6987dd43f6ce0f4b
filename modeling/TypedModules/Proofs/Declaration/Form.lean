import TypedModules.Proofs.Declaration.Signature

/-! # What the text of a callable tells

A callable is written in parts, of which the label in front and the assignment behind may be
missing. As names and types hold no delimiters, the text can be cut into these parts in one way
only, whatever the assigned expression looks like. So the text tells all there is to a callable.
-/

namespace TypedModules

open Text (IsUndelimited)

/-! ## Labels -/

structure Label where
  name : String
  isStatic : Bool
  deriving DecidableEq

namespace Label

variable {label : Label}

def head (label : Label) : String :=
  (if label.isStatic then "static " else "") ++ MemberName.written label.name

def text (label : Label) : String :=
  label.head ++ ": "

def ofHead (head : List Char) : Label :=
  match head.dropPrefix? "static ".toList with
  | some name => ⟨MemberName.ofWritten name, true⟩
  | none => ⟨MemberName.ofWritten head, false⟩

def read? (text : List Char) : Option (Option Label × List Char) :=
  if text.head? = some '\x7b' then some (none, text)
  else do
    let (head, behind) ← Text.cutFirst ':' text
    let rest ← behind.dropPrefix? [' ']
    return (some (ofHead head), rest)

/-- No name is written so that it looks static: what stands without quotes holds no blank. -/
theorem not_static_written (name : String) (rest : List Char) :
    (MemberName.written name).toList ≠ "static ".toList ++ rest := by
  intro same
  rcases MemberName.written_cases name with ⟨itself, rfl | passes⟩ | quoted
  · cases same
  · have blank : ' ' ∈ name.toList := by
      rw [← itself, same]
      simp
    exact absurd (MemberName.isPart_or_lineFeed_of_mem passes blank) (by decide)
  · rw [quoted] at same
    cases same

theorem ofHead_head (label : Label) : ofHead label.head.toList = label := by
  rcases label with ⟨name, isStatic⟩
  cases isStatic with
  | true =>
      have shape : (head ⟨name, true⟩).toList =
          "static ".toList ++ (MemberName.written name).toList := by simp [head]
      rw [ofHead, shape, Text.dropPrefix?_append]
      exact congrArg (Label.mk · true) (MemberName.ofWritten_written name)
  | false =>
      have shape : (head ⟨name, false⟩).toList = (MemberName.written name).toList := by simp [head]
      rw [ofHead, shape]
      split
      · rename_i found
        rcases List.dropPrefix?_eq_some_iff.mp found with ⟨front, split, same⟩
        rw [eq_of_beq same] at split
        exact absurd split (not_static_written name _)
      · exact congrArg (Label.mk · false) (MemberName.ofWritten_written name)

theorem isUndelimited_head (undelimited : IsUndelimited label.name) : IsUndelimited label.head := by
  have modifier : IsUndelimited (if label.isStatic then "static " else "") := by
    cases label.isStatic <;> decide
  exact modifier.append (MemberName.isUndelimited_written undelimited)

theorem read?_text_append (undelimited : IsUndelimited label.name) (rest : List Char) :
    read? (label.text.toList ++ rest) = some (some label, rest) := by
  have headUndelimited := isUndelimited_head undelimited
  have colonFree : ':' ∉ label.head.toList := headUndelimited.notMem (by decide)
  have braceFree : '\x7b' ∉ label.head.toList := headUndelimited.notMem (by decide)
  have shape : label.text.toList ++ rest = label.head.toList ++ ':' :: ([' '] ++ rest) := by
    simp [text]
  have notOpening : (label.head.toList ++ ':' :: ([' '] ++ rest)).head? ≠ some '\x7b' := by
    intro opens
    cases start : label.head.toList with
    | nil => simp [start] at opens
    | cons first others =>
        rw [start, List.cons_append, List.head?_cons, Option.some.injEq] at opens
        rw [start, opens] at braceFree
        exact braceFree List.mem_cons_self
  rw [shape, read?, if_neg notOpening, Text.cutFirst_append_cons colonFree]
  simp only [Option.bind_eq_bind, Option.bind_some, Text.dropPrefix?_append, ofHead_head]
  rfl

end Label

/-! ## Parts of a callable -/

/-- The parts that a callable is written in. The signature stands in the object type twice, as
it is called and as the members expose it. -/
@[ext]
structure Form where
  label : Option Label
  signature : Signature
  exposed : Signature
  initialiser : Option String
  deriving DecidableEq

structure Form.IsUndelimited (form : Form) : Prop where
  label : ∀ label ∈ form.label, Text.IsUndelimited label.name
  signature : form.signature.IsUndelimited
  exposed : form.exposed.IsUndelimited

namespace Form

variable {form : Form}

def assignment (form : Form) : String :=
  form.initialiser.elim "" (" = " ++ ·)

def text (form : Form) : String :=
  form.label.elim "" Label.text ++ Frame.called.text form.signature ++
    Frame.exposed.text form.exposed ++ form.assignment

def readAssignment? (text : List Char) : Option (Option String) :=
  if text = [] then some none
  else (text.dropPrefix? " = ".toList).map fun expression => some (String.ofList expression)

def read? (text : List Char) : Option Form := do
  let (label, typed) ← Label.read? text
  let (signature, members) ← Frame.called.read? typed
  let (exposed, assigned) ← Frame.exposed.read? members
  let initialiser ← readAssignment? assigned
  return { label, signature, exposed, initialiser }

theorem readAssignment?_assignment (form : Form) :
    readAssignment? form.assignment.toList = some form.initialiser := by
  cases shape : form.initialiser with
  | none => simp [readAssignment?, assignment, shape]
  | some expression =>
      have written : form.assignment.toList = " = ".toList ++ expression.toList := by
        simp [assignment, shape]
      rw [written, readAssignment?, if_neg (by simp), Text.dropPrefix?_append, Option.map_some,
        String.ofList_toList]

theorem read?_label_append (undelimited : form.IsUndelimited) (rest : List Char) :
    Label.read? ((form.label.elim "" Label.text).toList ++
        ((Frame.called.text form.signature).toList ++ rest)) =
      some (form.label, (Frame.called.text form.signature).toList ++ rest) := by
  cases shape : form.label with
  | none =>
      have opens : ((Frame.called.text form.signature).toList ++ rest).head? = some '\x7b' := by
        simp [Frame.text, Frame.called]
      have noLabel : ((none : Option Label).elim "" Label.text).toList = [] := rfl
      rw [noLabel, List.nil_append, Label.read?, if_pos opens]
  | some label => exact Label.read?_text_append (undelimited.label label shape) _

theorem read?_text (undelimited : form.IsUndelimited) : read? form.text.toList = some form := by
  have shape : form.text.toList = (form.label.elim "" Label.text).toList ++
      ((Frame.called.text form.signature).toList ++
        ((Frame.exposed.text form.exposed).toList ++ form.assignment.toList)) := by
    simp [text]
  simp only [shape, read?, read?_label_append undelimited, Option.bind_eq_bind, Option.bind_some,
    Frame.read?_text_append _ undelimited.signature, Frame.read?_text_append _ undelimited.exposed,
    readAssignment?_assignment]
  rfl

theorem text_inj {first second : Form} (undelimited : first.IsUndelimited)
    (otherUndelimited : second.IsUndelimited) : first.text = second.text ↔ first = second := by
  refine ⟨fun same => ?_, congrArg text⟩
  have read := read?_text undelimited
  rw [same, read?_text otherUndelimited, Option.some.injEq] at read
  exact read.symm

end Form

namespace Callable

variable {callable first second : Callable}

def signature (callable : Callable) : Signature :=
  ⟨callable.parameters, callable.returns⟩

/-- What keeps the parts of a callable apart. Nothing is asked of the initialiser. -/
structure IsUndelimited (callable : Callable) : Prop where
  name : ∀ name ∈ callable.name, Text.IsUndelimited name
  signature : callable.signature.IsUndelimited

instance (callable : Callable) : Decidable callable.IsUndelimited :=
  decidable_of_iff ((∀ name ∈ callable.name, Text.IsUndelimited name) ∧
      callable.signature.IsUndelimited)
    ⟨fun both => ⟨both.1, both.2⟩, fun undelimited => ⟨undelimited.name, undelimited.signature⟩⟩

def present (text : Option String) : Option String :=
  text.filter (· ≠ "")

def form (callable : Callable) : Form where
  label := (present callable.name).map (Label.mk · callable.isStatic)
  signature := callable.signature
  exposed := callable.signature
  initialiser := present callable.initialiser

theorem isUndelimited_form (undelimited : callable.IsUndelimited) :
    callable.form.IsUndelimited where
  label := by
    intro label isLabel
    rcases Option.map_eq_some_iff.mp isLabel with ⟨name, isName, rfl⟩
    exact undelimited.name name (Option.filter_eq_some_iff.mp isName).1
  signature := undelimited.signature
  exposed := undelimited.signature

theorem present_cases (text : Option String) :
    (text.getD "" = "" ∧ present text = none) ∨
      (text.getD "" ≠ "" ∧ present text = some (text.getD "")) := by
  cases text with
  | none => exact .inl ⟨rfl, rfl⟩
  | some text =>
      by_cases empty : text = ""
      · exact .inl ⟨empty, Option.filter_some_neg (by simp [empty])⟩
      · exact .inr ⟨empty, Option.filter_some_pos (decide_eq_true empty)⟩

theorem present_eq_iff {text other : Option String} :
    present text = present other ↔ text.getD "" = other.getD "" := by
  rcases present_cases text with ⟨absent, isNone⟩ | ⟨filled, isSome⟩ <;>
    rcases present_cases other with ⟨alsoAbsent, alsoNone⟩ | ⟨alsoFilled, alsoSome⟩
  · simp [isNone, alsoNone, absent, alsoAbsent]
  · simp [isNone, alsoSome, absent, alsoFilled.symm]
  · simp [isSome, alsoNone, filled, alsoAbsent]
  · simp [isSome, alsoSome]

theorem text_form (callable : Callable) : callable.form.text = callable.text := by
  have label : callable.form.label.elim "" Label.text = callable.label := by
    rcases present_cases callable.name with ⟨absent, isNone⟩ | ⟨named, isSome⟩
    · simp [form, isNone, Callable.label, absent]
    · simp [form, isSome, Callable.label, Label.text, Label.head]
  have assignment : callable.form.assignment = callable.assignment := by
    rcases present_cases callable.initialiser with ⟨absent, isNone⟩ | ⟨filled, isSome⟩
    · simp [form, Form.assignment, isNone, Callable.assignment, absent]
    · simp [form, Form.assignment, isSome, Callable.assignment]
  have type : Frame.called.text callable.signature ++ Frame.exposed.text callable.signature =
      callable.typeText := by
    apply String.toList_injective
    simp [Frame.text, Frame.called, Frame.exposed, typeText, signature]
  rw [Form.text, label, assignment, text, ← type, ← String.append_assoc]
  rfl

theorem label_form_eq_iff :
    first.form.label = second.form.label ↔
      first.name.getD "" = second.name.getD "" ∧
      (first.name.getD "" ≠ "" → first.isStatic = second.isStatic) := by
  rcases present_cases first.name with ⟨absent, isNone⟩ | ⟨named, isSome⟩ <;>
    rcases present_cases second.name with ⟨alsoAbsent, alsoNone⟩ | ⟨alsoNamed, alsoSome⟩
  · simp [form, isNone, alsoNone, absent, alsoAbsent]
  · simp [form, isNone, alsoSome, absent, alsoNamed.symm]
  · simp [form, isSome, alsoNone, named, alsoAbsent]
  · simp [form, isSome, alsoSome, named]

theorem form_eq_iff :
    first.form = second.form ↔
      first.name.getD "" = second.name.getD "" ∧
      (first.name.getD "" ≠ "" → first.isStatic = second.isStatic) ∧
      first.parameters = second.parameters ∧ first.returns = second.returns ∧
      first.initialiser.getD "" = second.initialiser.getD "" := by
  constructor
  · intro same
    rcases label_form_eq_iff.mp (congrArg Form.label same) with ⟨names, marks⟩
    have parameters : first.parameters = second.parameters :=
      congrArg (·.signature.parameters) same
    have returns : first.returns = second.returns := congrArg (·.signature.returns) same
    have initialisers := present_eq_iff.mp (congrArg Form.initialiser same)
    exact ⟨names, marks, parameters, returns, initialisers⟩
  · rintro ⟨names, marks, parameters, returns, initialisers⟩
    have signatures : first.signature = second.signature := by
      rw [signature, signature, parameters, returns]
    exact Form.ext (label_form_eq_iff.mpr ⟨names, marks⟩) signatures signatures
      (present_eq_iff.mpr initialisers)

/-- All there is to a callable is read back from its text, and the signature is the same where
it is called and where it is exposed. So callables have the same text exactly if they agree on
their names, parameters, return types and initialisers, an empty name or initialiser being as
good as none, and on being static if they have a name. Names that are identifiers hold no
delimiters. -/
theorem text_read_back :
    (∀ name : String, MemberName.isIdentifier name.toList = true → Text.IsUndelimited name) ∧
    (∀ callable : Callable, callable.IsUndelimited →
      ∃ form, Form.read? callable.text.toList = some form ∧
        form.label = (present callable.name).map (Label.mk · callable.isStatic) ∧
        form.signature = ⟨callable.parameters, callable.returns⟩ ∧
        form.exposed = form.signature ∧
        form.initialiser = present callable.initialiser) ∧
    ∀ first second : Callable, first.IsUndelimited → second.IsUndelimited →
      (first.text = second.text ↔
        first.name.getD "" = second.name.getD "" ∧
        (first.name.getD "" ≠ "" → first.isStatic = second.isStatic) ∧
        first.parameters = second.parameters ∧ first.returns = second.returns ∧
        first.initialiser.getD "" = second.initialiser.getD "") := by
  refine ⟨fun name => MemberName.isUndelimited_of_isIdentifier, fun callable undelimited => ?_,
    fun first second undelimited otherUndelimited => ?_⟩
  · have read := Form.read?_text (isUndelimited_form undelimited)
    rw [text_form] at read
    exact ⟨callable.form, read, rfl, rfl, rfl, rfl⟩
  · rw [← text_form, ← text_form, ← form_eq_iff]
    exact Form.text_inj (isUndelimited_form undelimited) (isUndelimited_form otherUndelimited)

/-- A callable whose name looks like its mark and whose initialiser looks like a callable, and
one that only seems to have a name, a mark and an initialiser. -/
theorem text_read_back_of_static :
    let initialiser := "f: \x7b (p: T): any, __parameters: \x7bp: T\x7d, __returns: any \x7d = 1"
    let marked : Callable :=
      { name := some "static", parameters := [⟨"first", "T[]"⟩, ⟨"é", "A | B"⟩], returns := "void",
        initialiser := some initialiser, isStatic := true }
    let unmarked : Callable := { marked with isStatic := false }
    let anonymous : Callable := { name := some "", initialiser := some "", isStatic := true }
    MemberName.isIdentifier "static".toList = true ∧ Text.IsUndelimited "static" ∧
      marked.IsUndelimited ∧ unmarked.IsUndelimited ∧ anonymous.IsUndelimited ∧
      marked.text = "static static: \x7b (first: T[], \"é\": A | B): void, " ++
        "__parameters: \x7bfirst: T[], \"é\": A | B\x7d, __returns: void \x7d = " ++ initialiser ∧
      Form.read? marked.text.toList =
        some ⟨some ⟨"static", true⟩, marked.signature, marked.signature, some initialiser⟩ ∧
      marked.text ≠ unmarked.text ∧ anonymous.text = ({} : Callable).text := by
  intro initialiser marked unmarked anonymous
  rcases text_read_back with ⟨identifiers, readable, apart⟩
  have passes : MemberName.isIdentifier "static".toList = true := by decide
  have markedUndelimited : marked.IsUndelimited := by decide
  have unmarkedUndelimited : unmarked.IsUndelimited := by decide
  have anonymousUndelimited : anonymous.IsUndelimited := by decide
  refine ⟨passes, identifiers _ passes, markedUndelimited, unmarkedUndelimited,
    anonymousUndelimited, ?_, ?_, ?_, ?_⟩
  · decide +kernel
  · rcases readable marked markedUndelimited with ⟨form, read, label, signature, exposed, assigned⟩
    rw [read, Option.some.injEq]
    exact Form.ext label signature (exposed.trans signature) assigned
  · rw [Ne, apart marked unmarked markedUndelimited unmarkedUndelimited]
    decide
  · have bareUndelimited : ({} : Callable).IsUndelimited := by decide
    rw [apart anonymous {} anonymousUndelimited bareUndelimited]
    decide

end Callable

end TypedModules
