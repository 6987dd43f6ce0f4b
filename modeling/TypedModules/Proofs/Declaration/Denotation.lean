import TypedModules.Proofs.Declaration.Alternatives
import TypedModules.Proofs.Declaration.Identifier

/-! # What written names denote

A member name is read as far as an identifier goes, or between double quotes, with the escapes
of string literals. Names are written without escapes, so a written name denotes the name
itself exactly if that takes none.
-/

namespace TypedModules

namespace MemberName

variable {name : String} {text rest behind : List Char} {units : List Nat}

/-! ## Reading member names -/

def isLineTerminator (character : Char) : Bool :=
  character ∈ ['\n', '\r', '\u2028', '\u2029']

def readCodePoint? : List Char → Option (Nat × List Char)
  | '\x7b' :: rest =>
      let digits := rest.takeWhile fun digit => (Text.hexValue? digit).isSome
      (Text.hexNumber? digits.length 0 rest).bind fun
        | (point, '\x7d' :: behind) =>
            if digits ≠ [] ∧ point < 0x110000 then some (point, behind) else none
        | _ => none
  | text => Text.hexNumber? 4 0 text

/-- What a backslash and a character stand for. At the end of a line that is nothing, and the
text goes on in the next one. -/
def escapedUnits (character : Char) : List Nat :=
  if isLineTerminator character then []
  else if character = 'v' then [0x0B]
  else match Text.letterEscape? character with
    | some unit => [unit]
    | none => Text.unitsOf character

def readEscape? : List Char → Option (List Nat × List Char)
  | [] => none
  | first :: rest =>
      if first = 'u' then (readCodePoint? rest).map (Prod.map Text.unitsAt id)
      else if first = 'x' then (Text.hexNumber? 2 0 rest).map (Prod.map ([·]) id)
      else if first.isDigit then
        if first = '0' ∧ rest.head?.all (!·.isDigit) then some ([0], rest) else none
      else if first = '\r' ∧ rest.head? = some '\n' then some ([], rest.tail)
      else some (escapedUnits first, rest)

theorem exists_digits_of_readCodePoint? {point : Nat}
    (found : readCodePoint? text = some (point, behind)) :
    ∃ spent, spent ≠ [] ∧ text = spent ++ behind := by
  unfold readCodePoint? at found
  split at found
  · rename_i rest
    rcases Option.bind_eq_some_iff.mp found with ⟨⟨number, further⟩, isNumber, closing⟩
    rcases Text.exists_digits_of_hexNumber? isNumber with ⟨digits, -, rfl⟩
    split at closing
    · rename_i closed
      cases closed
      split_ifs at closing
      cases closing
      exact ⟨'\x7b' :: digits ++ ['\x7d'], by simp, by simp⟩
    · cases closing
  · rcases Text.exists_digits_of_hexNumber? found with ⟨digits, counted, rfl⟩
    exact ⟨digits, List.ne_nil_of_length_eq_add_one counted, rfl⟩

theorem length_escapedUnits_le (character : Char) :
    (escapedUnits character).length ≤ (Text.unitsOf character).length := by
  have positive : 0 < (Text.unitsOf character).length := Text.length_unitsAt_pos character.toNat
  unfold escapedUnits
  split_ifs
  · exact Nat.zero_le _
  · exact positive
  · split
    · exact positive
    · exact Nat.le_refl _

theorem readEscape?_spends (found : readEscape? text = some (units, behind)) :
    Text.Spends text units behind := by
  cases text with
  | nil => cases found
  | cons first rest =>
      rw [readEscape?] at found
      split_ifs at found with isPoint isByte isDigit zero isBreak
      · rcases Option.map_eq_some_iff.mp found with ⟨⟨point, others⟩, number, same⟩
        cases same
        rcases exists_digits_of_readCodePoint? number with ⟨digits, nonempty, rfl⟩
        have two := Text.length_unitsAt_le point
        have positive := List.length_pos_iff.mpr nonempty
        exact Text.spends_of_length_le digits (by omega)
      · exact Text.spends_of_number found
      · cases found
        exact Text.spends_of_length_le [] (by simp)
      · cases found
        rcases List.head?_eq_some_iff.mp isBreak.2 with ⟨others, rfl⟩
        exact Text.spends_of_length_le ['\n'] (Nat.zero_le _)
      · cases found
        refine ⟨[first], List.cons_ne_nil _ _, rfl, ?_⟩
        rw [Text.codeUnits, List.flatMap_singleton]
        exact length_escapedUnits_le first

/-- Between quotes, no line feed or carriage return stands for itself. Of the characters that
end a line, these are the only ones for which that is so. -/
def quotation : Text.Quotation where
  standsAlone character := character ∉ ['\n', '\r']
  escape? := readEscape?
  spends := readEscape?_spends

def read? : List Char → Option (List Nat × List Char)
  | [] => none
  | first :: rest =>
      if first = '"' then quotation.read? rest
      else if isStart first then
        some (Text.codeUnits (first :: rest.takeWhile isPart), rest.dropWhile isPart)
      else none

/-! ## Written names -/

/-- A text between quotes on a single line, whose value is another text. -/
def IsStringLiteral (text value : List Char) : Prop :=
  (∀ character ∈ text, isLineTerminator character = false) ∧
    ∃ content, text = '"' :: content ∧ quotation.read? content = some (Text.codeUnits value, [])

theorem isPlain_of_isPart {character : Char} (part : isPart character = true) :
    quotation.IsPlain character ∧ isLineTerminator character = false := by
  have differs {other : Char} (notPart : isPart other = false) : character ≠ other :=
    ne_of_isPart part notPart
  have noBreak : character ≠ '\n' ∧ character ≠ '\r' := ⟨differs (by decide), differs (by decide)⟩
  constructor
  · exact ⟨differs (by decide), differs (by decide), by simp [quotation, noBreak]⟩
  · have separators : character ≠ '\u2028' ∧ character ≠ '\u2029' :=
      ⟨differs (by decide), differs (by decide)⟩
    simp [isLineTerminator, noBreak, separators]

theorem IsExactIdentifier.read?_append (identifier : IsExactIdentifier text)
    (ends : ∀ next ∈ rest.head?, MemberName.isPart next = false) :
    read? (text ++ rest) = some (Text.codeUnits text, rest) := by
  rcases identifier with ⟨first, others, rfl, start, parts⟩
  have notQuote : first ≠ '"' := by
    rintro rfl
    cases start
  rw [List.cons_append, read?, if_neg notQuote, if_pos start,
    Text.takeWhile_append_of_stops parts ends, Text.dropWhile_append_of_stops parts ends]

/-- A written name is read as the name and no further, exactly if the name holds no quotes and
backslashes and stays on one line. -/
theorem read?_written_append_iff (nonempty : name ≠ "")
    (ends : ∀ next ∈ rest.head?, isPart next = false) :
    read? ((written name).toList ++ rest) = some (Text.codeUnits name.toList, rest) ↔
      ∀ character ∈ name.toList, quotation.IsPlain character := by
  cases passes : isIdentifier name.toList with
  | true =>
      have itself : written name = name := if_pos (.inr passes)
      rw [itself]
      rcases isIdentifier_iff.mp passes with ⟨identifier, isExact, same | same⟩
      · have parts := isExact.isPart
        rw [same, isExact.read?_append ends]
        exact iff_of_true rfl fun character member => (isPlain_of_isPart (parts _ member)).1
      · -- The identifier ends in front of the line feed, which is left behind.
        have stops : ∀ next ∈ (['\n'] ++ rest).head?, isPart next = false := by
          rintro next ⟨⟩
          decide
        rw [same, List.append_assoc, isExact.read?_append stops]
        refine iff_of_false (fun found => ?_) fun plain => ?_
        · exact List.cons_ne_self _ _ (Prod.mk.inj (Option.some.inj found)).2
        · exact absurd (plain '\n' (by simp)) (by decide)
  | false =>
      rw [toList_written_of_not_isIdentifier nonempty passes, List.cons_append, List.append_assoc,
        read?, if_pos rfl]
      exact Text.Quotation.read?_eq_codeUnits_iff _ _

/-- A name is written as it is, as an identifier in full, or as a string literal on one line
whose value it is. -/
def Denotes (name : String) : Prop :=
  (written name = name ∧ IsExactIdentifier name.toList) ∨
    IsStringLiteral (written name).toList name.toList

theorem denotes_iff (nonempty : name ≠ "") :
    Denotes name ↔ ∀ character ∈ name.toList,
      character ≠ '"' ∧ character ≠ '\\' ∧ isLineTerminator character = false := by
  constructor
  · rintro (⟨-, identifier⟩ | ⟨oneLine, content, quoted, found⟩) character member
    · rcases isPlain_of_isPart (identifier.isPart character member) with ⟨plain, unbroken⟩
      exact ⟨plain.1, plain.2.1, unbroken⟩
    · cases passes : isIdentifier name.toList with
      | true =>
          have itself : written name = name := if_pos (.inr passes)
          rw [itself] at quoted
          rw [quoted] at passes
          cases passes
      | false =>
          have shape := toList_written_of_not_isIdentifier nonempty passes
          rw [shape, List.cons.injEq] at quoted
          rw [← quoted.2, Text.Quotation.read?_eq_codeUnits_iff] at found
          have inText : character ∈ (written name).toList := by simp [shape, member]
          exact ⟨(found character member).1, (found character member).2.1,
            oneLine character inText⟩
  · intro plain
    have stays (character : Char) (member : character ∈ name.toList) :
        quotation.IsPlain character := by
      rcases plain character member with ⟨notQuote, notBackslash, unbroken⟩
      refine ⟨notQuote, notBackslash, ?_⟩
      simp only [isLineTerminator, List.mem_cons, decide_eq_false_iff_not, not_or] at unbroken
      simp [quotation, unbroken]
    cases passes : isIdentifier name.toList with
    | true =>
        rcases isIdentifier_iff.mp passes with ⟨identifier, isExact, same | same⟩
        · exact .inl ⟨if_pos (.inr passes), same ▸ isExact⟩
        · have broken := (plain '\n' (by simp [same])).2.2
          cases broken
    | false =>
        have shape := toList_written_of_not_isIdentifier nonempty passes
        have content := Text.Quotation.read?_of_forall_isPlain stays []
        refine .inr ⟨?_, name.toList ++ ['"'], shape, content⟩
        have quote : isLineTerminator '"' = false := by decide
        intro character member
        rw [shape, List.mem_cons, List.mem_append, List.mem_singleton] at member
        rcases member with rfl | inName | rfl
        · exact quote
        · exact (plain character inName).2.2
        · exact quote

theorem read?_memberText_append_iff (member : String × Scalar) (behind : List Char) :
    read? ((Enumeration.memberText member).toList ++ behind) =
        some (Text.codeUnits member.1.toList, (": " ++ member.2.fullLiteral).toList ++ behind) ↔
      member.1 ≠ "" ∧ ∀ character ∈ member.1.toList,
        character ≠ '"' ∧ character ≠ '\\' ∧ character ≠ '\n' ∧ character ≠ '\r' := by
  have split : (Enumeration.memberText member).toList ++ behind =
      (written member.1).toList ++ ((": " ++ member.2.fullLiteral).toList ++ behind) := by
    simp [Enumeration.memberText]
  have colon : ∀ next ∈ ((": " ++ member.2.fullLiteral).toList ++ behind).head?,
      isPart next = false := by
    rw [String.toList_append, List.append_assoc]
    rintro next ⟨⟩
    decide
  rw [split]
  by_cases nonempty : member.1 = ""
  · -- Without a name, what is read first is the colon.
    have nothing : (written member.1).toList = [] := by
      rw [nonempty]
      rfl
    rw [nothing, List.nil_append, String.toList_append, List.append_assoc]
    refine iff_of_false (fun found => ?_) fun named => named.1 nonempty
    cases found
  · rw [read?_written_append_iff nonempty colon]
    simp [nonempty, Text.Quotation.IsPlain, quotation]

/-- A name is written as one token that denotes it exactly if it needs no escapes and holds no
line break. So the members of an enumeration, in its declaration and at run time, have their
keys for names exactly if these are not empty and hold no quotes, backslashes and line breaks,
where the separators that only count as line breaks outside of texts do no harm. -/
theorem written_denotes_iff (name : String) (enumeration : Enumeration) :
    (name ≠ "" →
      (Denotes name ↔ ∀ character ∈ name.toList,
        character ≠ '"' ∧ character ≠ '\\' ∧ isLineTerminator character = false)) ∧
    (∀ member ∈ enumeration.members, ∀ behind : List Char,
      (read? ((Enumeration.memberText member).toList ++ behind) =
          some (Text.codeUnits member.1.toList, (": " ++ member.2.fullLiteral).toList ++ behind) ↔
        member.1 ≠ "" ∧ ∀ character ∈ member.1.toList,
          character ≠ '"' ∧ character ≠ '\\' ∧ character ≠ '\n' ∧ character ≠ '\r')) ∧
    (∀ (buffer after : LineBuffer) (exported : Bool),
      buffer.writeEnumeration enumeration exported = ⟨after, .ok ()⟩ →
        after.lines = buffer.lines ++
          (buffer.separator ++ enumeration.openingLines exported).map (buffer.indentation ++ ·) ++
          enumeration.members.map (fun member =>
            buffer.indentation ++ buffer.unit ++ (Enumeration.memberText member ++ ",")) ++
          (enumeration.closingLines exported).map (after.indentation ++ ·)) ∧
    enumeration.exportText = "module.exports." ++ enumeration.name ++ " = " ++
      Enumeration.objectOf (enumeration.members.map Enumeration.memberText) := by
  refine ⟨denotes_iff, ?_, ?_, enumeration.exportText_eq⟩
  · exact fun member _ behind => read?_memberText_append_iff member behind
  · intro buffer after exported printed
    rw [LineBuffer.lines_of_writeEnumeration printed, Enumeration.memberTexts, List.map_map]
    rfl

/-- Keys with a hyphen and with a character that only counts as a line break outside of texts. -/
theorem written_denotes_iff_of_hyphen :
    let enumeration : Enumeration :=
      ⟨"Kind", [("sap-low", .integer 1), ("on", .boolean true), ("a\u2028b", .null)]⟩
    ("sap-low" ≠ "" ∧ Denotes "sap-low") ∧
      (∀ member ∈ enumeration.members, read? (Enumeration.memberText member).toList =
        some (Text.codeUnits member.1.toList, (": " ++ member.2.fullLiteral).toList)) ∧
      ∃ after, (({} : LineBuffer).writeEnumeration enumeration false) = ⟨after, .ok ()⟩ ∧
        after.lines = ["// enum", "const Kind = \x7b", "  \"sap-low\": 1,", "  on: true,",
          "  \"a\u2028b\": null,", "\x7d as const;", "type Kind = 1 | true | null;"] := by
  intro enumeration
  rcases written_denotes_iff "sap-low" enumeration with ⟨denotes, read, printed, -⟩
  have named : "sap-low" ≠ "" := by decide
  have done := LineBuffer.writeEnumeration_eq {} (by decide) (by decide : enumeration.IsRenderable)
    false
  refine ⟨⟨named, (denotes named).mpr (by simp [isLineTerminator])⟩, ?_, _, done, ?_⟩
  · intro member isMember
    have keys : ∀ member ∈ enumeration.members, member.1 ≠ "" ∧ ∀ character ∈ member.1.toList,
        character ≠ '"' ∧ character ≠ '\\' ∧ character ≠ '\n' ∧ character ≠ '\r' := by
      simp [enumeration]
    have found := (read member isMember []).mpr (keys member isMember)
    rw [List.append_nil, List.append_nil] at found
    exact found
  · rw [printed {} _ false done]
    decide +kernel

/-- Quotes and backslashes are written as they are, and a final line feed without quotes. -/
theorem not_denotes_of_quote :
    (written "a\"b" = "\"a\"b\"" ∧ ¬Denotes "a\"b") ∧
      (written "a\\b" = "\"a\\b\"" ∧ ¬Denotes "a\\b") ∧
      written "a\n" = "a\n" ∧ ¬Denotes "a\n" := by
  refine ⟨⟨by decide, ?_⟩, ⟨by decide, ?_⟩, by decide, ?_⟩
  all_goals
    rw [denotes_iff (by decide)]
    simp [isLineTerminator]

end MemberName

end TypedModules
