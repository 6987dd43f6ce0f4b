import TypedModules.Proofs.Literal.PlainAscii
import TypedModules.Proofs.Text.Quotation
import TypedModules.Proofs.Text.Trimming

/-! # Reading literals

Literals are written as JSON is, and so they are read. What is read of a literal is the value
that it was written for, whatever stands behind it. So values are told apart by their
literals. Floating point numbers are left out, as they are only written to the digits that
tell them from their neighbours.
-/

namespace TypedModules

namespace Scalar

/-- All values but floating point numbers. -/
def IsDiscrete : Scalar → Prop
  | real _ => False
  | null | boolean _ | integer _ | text _ => True

instance : DecidablePred IsDiscrete
  | real _ => isFalse id
  | null | boolean _ | integer _ | text _ => isTrue trivial

/-! ## Texts -/

def readEscape? : List Char → Option (List Nat × List Char)
  | [] => none
  | first :: rest =>
      if first = 'u' then (Text.hexNumber? 4 0 rest).map (Prod.map ([·]) id)
      else if first ∈ ['"', '/', '\\'] then some ([first.toNat], rest)
      else (Text.letterEscape? first).map fun unit => ([unit], rest)

theorem readEscape?_spends {text behind : List Char} {units : List Nat}
    (found : readEscape? text = some (units, behind)) : Text.Spends text units behind := by
  cases text with
  | nil => cases found
  | cons first rest =>
      rw [readEscape?] at found
      split_ifs at found
      · exact Text.spends_of_number found
      · cases found
        exact Text.spends_of_length_le [] (by simp)
      · rcases Option.map_eq_some_iff.mp found with ⟨unit, -, same⟩
        cases same
        exact Text.spends_of_length_le [] (by simp)

def quotation : Text.Quotation where
  standsAlone character := ' ' ≤ character
  escape? := readEscape?
  spends := readEscape?_spends

theorem read?_escapeUnit {unit : Nat} (basic : unit < 0x10000) (rest : List Char) :
    quotation.read? (escapeUnit unit ++ rest) =
      (quotation.read? rest).map (Prod.map ([unit] ++ ·) id) := by
  have small : unit % 16 ^ 4 = unit := by omega
  have number : Text.hexNumber? 4 0 (Text.hexDigits 4 unit ++ rest) = some (unit, rest) := by
    rw [Text.hexNumber?_append 0 (Text.length_hexDigits 4 unit), Text.hexNumber?_hexDigits, small]
    rfl
  have escape :
      quotation.escape? ('u' :: (Text.hexDigits 4 unit ++ rest)) = some ([unit], rest) := by
    change (Text.hexNumber? 4 0 (Text.hexDigits 4 unit ++ rest)).map (Prod.map ([·]) id) = _
    rw [number]
    rfl
  exact Text.Quotation.read?_backslash escape

theorem read?_escape_append (character : Char) (rest : List Char) :
    quotation.read? (escape character ++ rest) =
      (quotation.read? rest).map (Prod.map (Text.unitsOf character ++ ·) id) := by
  rcases escape_cases character with
    ⟨letter, listed, same⟩ | ⟨⟨quote, backslash, plain⟩, same⟩ | ⟨basic, same⟩ | ⟨beyond, same⟩ <;>
      rw [same]
  · have stands : ∀ pair ∈ letterEscapes,
        readEscape? (pair.2 :: rest) = some (Text.unitsOf pair.1, rest) := by
      rw [letterEscapes]
      iterate 7 refine List.forall_mem_cons.mpr ⟨rfl, ?_⟩
      exact fun _ none => absurd none List.not_mem_nil
    exact Text.Quotation.read?_backslash (stands _ listed)
  · exact Text.Quotation.read?_plain ⟨quote, backslash, decide_eq_true plain.1⟩ rest
  · rw [read?_escapeUnit basic, Text.unitsOf_of_basic basic]
  · have valid : character.toNat < 0x110000 := by
      have bounds : character.toNat < 0xD800 ∨
          0xDFFF < character.toNat ∧ character.toNat < 0x110000 := character.valid
      omega
    rw [List.append_assoc, read?_escapeUnit (by omega), read?_escapeUnit (by omega), Text.unitsOf,
      Text.unitsAt, if_neg (Nat.not_lt.mpr beyond), Option.map_map]
    rfl

theorem read?_flatMap_escape (value rest : List Char) :
    quotation.read? (value.flatMap escape ++ '"' :: rest) = some (Text.codeUnits value, rest) := by
  induction value with
  | nil => exact Text.Quotation.read?_quote rest
  | cons first others induction =>
      rw [List.flatMap_cons, List.append_assoc, read?_escape_append, induction, Text.codeUnits_cons]
      rfl

/-! ## Whole numbers -/

/-- Read a number without a sign. Its digits have no needless zero in front, and neither a
fraction nor an exponent may follow them. -/
def readNatural? (text : List Char) : Option (Nat × List Char) :=
  let digits := text.takeWhile Char.isDigit
  let behind := text.dropWhile Char.isDigit
  if digits = [] ∨ (digits.head? = some '0' ∧ digits ≠ ['0']) ∨
      behind.head?.any (· ∈ ['.', 'e', 'E']) then none
  else some (Nat.ofDigitChars 10 digits 0, behind)

def EndsNumber (text : List Char) : Prop :=
  ∀ next ∈ text.head?, next.isDigit = false ∧ next ∉ ['.', 'e', 'E']

theorem endsNumber_nil : EndsNumber [] := fun _ isNext => nomatch isNext

theorem head?_naturalDigits {number : Nat} (positive : 0 < number) :
    (Decimal.naturalDigits number).head? ≠ some '0' := by
  induction number using Nat.strongRecOn with
  | _ number induction =>
      rw [Decimal.naturalDigits]
      by_cases short : number < 10
      · rw [Nat.toDigits_of_lt_base short, List.head?_cons, Ne, Option.some.injEq,
          Nat.digitChar_eq_zero]
        omega
      · have front := induction (number / 10) (by omega) (by omega)
        rw [Decimal.naturalDigits] at front
        rw [Nat.toDigits_of_base_le (by decide) (by omega),
          List.head?_append_of_ne_nil _ Nat.toDigits_ne_nil]
        exact front

theorem readNatural?_naturalDigits_append (number : Nat) {rest : List Char}
    (ends : EndsNumber rest) :
    readNatural? (Decimal.naturalDigits number ++ rest) = some (number, rest) := by
  have digits : ∀ digit ∈ Decimal.naturalDigits number, digit.isDigit = true := fun _ member =>
    Nat.isDigit_of_mem_toDigits (by decide) (by decide) member
  have front : (Decimal.naturalDigits number ++ rest).takeWhile Char.isDigit =
      Decimal.naturalDigits number :=
    Text.takeWhile_append_of_stops digits fun next isNext => (ends next isNext).1
  have back : (Decimal.naturalDigits number ++ rest).dropWhile Char.isDigit = rest :=
    Text.dropWhile_append_of_stops digits fun next isNext => (ends next isNext).1
  have nonempty : Decimal.naturalDigits number ≠ [] := Nat.toDigits_ne_nil
  have proper : ¬((Decimal.naturalDigits number).head? = some '0' ∧
      Decimal.naturalDigits number ≠ ['0']) := by
    rintro ⟨zero, longer⟩
    rcases Nat.eq_zero_or_pos number with rfl | positive
    · exact longer rfl
    · exact head?_naturalDigits positive zero
  have whole : ¬rest.head?.any (· ∈ ['.', 'e', 'E']) = true := by
    rw [Option.any_eq_true]
    rintro ⟨next, isNext, goesOn⟩
    exact (ends next isNext).2 (of_decide_eq_true goesOn)
  simp only [readNatural?, front, back]
  rw [if_neg (by simp only [not_or]; exact ⟨nonempty, proper, whole⟩), Decimal.naturalDigits,
    Nat.ofDigitChars_ten_toDigits]

/-! ## Values -/

def words : List (String × Scalar) :=
  [("null", null), ("true", boolean true), ("false", boolean false)]

def read? : List Char → Option (Scalar × List Char)
  | [] => none
  | first :: rest =>
      if first = '"' then
        (quotation.read? rest).bind fun found =>
          (Text.ofCodeUnits? found.1).map fun value => (text (String.ofList value), found.2)
      else if first = '-' then
        (readNatural? rest).map (Prod.map (fun number : Nat => integer (-number)) id)
      else if first.isDigit then
        (readNatural? (first :: rest)).map (Prod.map (fun number : Nat => integer number) id)
      else words.findSome? fun (word, value) =>
        (word.toList.isPrefixOf? (first :: rest)).map (value, ·)

def ofLiteral? (literal : String) : Option Scalar :=
  match read? literal.toList with
  | some (value, []) => some value
  | _ => none

theorem read?_quotedLiteral_append (value : String) (rest : List Char) :
    read? ((quotedLiteral value).toList ++ rest) = some (text value, rest) := by
  have split : (quotedLiteral value).toList ++ rest =
      '"' :: (value.toList.flatMap escape ++ '"' :: rest) := by
    simp [quotedLiteral]
  rw [split, read?, if_pos rfl, read?_flatMap_escape, Option.bind_some,
    Text.ofCodeUnits?_codeUnits, Option.map_some, String.ofList_toList]

theorem read?_integerText_append (value : Int) {rest : List Char} (ends : EndsNumber rest) :
    read? ((Decimal.integerText value).toList ++ rest) = some (integer value, rest) := by
  cases value with
  | ofNat number =>
      have found := readNatural?_naturalDigits_append number ends
      rw [Decimal.integerText, String.toList_ofList]
      cases shape : Decimal.naturalDigits number with
      | nil => exact absurd shape Nat.toDigits_ne_nil
      | cons first others =>
          have member : first ∈ Decimal.naturalDigits number := shape ▸ List.mem_cons_self
          have digit : first.isDigit = true :=
            Nat.isDigit_of_mem_toDigits (by decide) (by decide) member
          rw [shape, List.cons_append] at found
          have notQuote : first ≠ '"' := by
            rintro rfl
            cases digit
          have notSign : first ≠ '-' := by
            rintro rfl
            cases digit
          rw [List.cons_append, read?, if_neg notQuote, if_neg notSign, if_pos digit, found]
          rfl
  | negSucc number =>
      rw [Decimal.integerText, String.toList_ofList, List.cons_append, read?,
        if_neg (by decide), if_pos rfl, readNatural?_naturalDigits_append _ ends]
      rfl

theorem read?_fullLiteral_append {value : Scalar} (discrete : value.IsDiscrete) {rest : List Char}
    (ends : EndsNumber rest) : read? (value.fullLiteral.toList ++ rest) = some (value, rest) := by
  cases value with
  | null => rfl
  | boolean truth => cases truth <;> rfl
  | integer value => exact read?_integerText_append value ends
  | real bits => exact absurd discrete id
  | text value => exact read?_quotedLiteral_append value rest

theorem ofLiteral?_fullLiteral {value : Scalar} (discrete : value.IsDiscrete) :
    ofLiteral? value.fullLiteral = some value := by
  have found := read?_fullLiteral_append discrete endsNumber_nil
  rw [List.append_nil] at found
  rw [ofLiteral?, found]

theorem fullLiteral_inj {first second : Scalar} (discrete : first.IsDiscrete)
    (otherDiscrete : second.IsDiscrete) :
    first.fullLiteral = second.fullLiteral ↔ first = second := by
  refine ⟨fun same => ?_, congrArg fullLiteral⟩
  have read := ofLiteral?_fullLiteral discrete
  rw [same, ofLiteral?_fullLiteral otherDiscrete, Option.some.injEq] at read
  exact read.symm

end Scalar

end TypedModules
