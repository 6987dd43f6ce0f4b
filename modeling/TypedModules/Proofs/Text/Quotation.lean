import Mathlib.Algebra.Group.Nat.Defs
import TypedModules.Proofs.Text.CodeUnits

/-! # Reading between quotes

A text between double quotes is read up to the quote that ends it. A backslash starts an
escape, and all other characters stand for themselves, as far as they may stand there. How
escapes are read, and which characters may stand for themselves, differs from notation to
notation. Everywhere an escape takes more room than what it stands for, so what stands
between quotes is read as itself exactly if it holds no escapes.
-/

namespace TypedModules.Text

/-! ## Letters and numbers in escapes -/

def letterEscape? : Char → Option Nat
  | 'b' => some 0x08
  | 't' => some 0x09
  | 'n' => some 0x0A
  | 'f' => some 0x0C
  | 'r' => some 0x0D
  | _ => none

def hexValue? (digit : Char) : Option Nat :=
  if '0' ≤ digit ∧ digit ≤ '9' then some (digit.toNat - '0'.toNat)
  else if 'a' ≤ digit ∧ digit ≤ 'f' then some (digit.toNat - 'a'.toNat + 10)
  else if 'A' ≤ digit ∧ digit ≤ 'F' then some (digit.toNat - 'A'.toNat + 10)
  else none

def hexNumber? : (width leading : Nat) → List Char → Option (Nat × List Char)
  | 0, leading, text => some (leading, text)
  | _ + 1, _, [] => none
  | width + 1, leading, digit :: rest =>
      (hexValue? digit).bind fun value => hexNumber? width (leading * 16 + value) rest

theorem hexValue?_hexDigit (value : Nat) : hexValue? (hexDigit value) = some (value % 16) := by
  have digits : ∀ digit < 16, hexValue? (Nat.digitChar digit) = some digit := by decide
  exact digits _ (Nat.mod_lt value (by decide))

theorem hexNumber?_append {width : Nat} {digits : List Char} (leading : Nat)
    (counted : digits.length = width) (rest : List Char) :
    hexNumber? width leading (digits ++ rest) =
      (hexNumber? width leading digits).map (Prod.map id fun _ => rest) := by
  induction width generalizing leading digits with
  | zero =>
      rw [List.eq_nil_of_length_eq_zero counted]
      rfl
  | succ width induction =>
      cases digits with
      | nil => cases counted
      | cons digit others =>
          rw [List.cons_append, hexNumber?, hexNumber?]
          cases hexValue? digit with
          | none => rfl
          | some value => exact induction _ (Nat.succ.inj counted)

theorem hexNumber?_concat {width leading number : Nat} {digits : List Char} {last : Char}
    {value : Nat} (counted : digits.length = width)
    (front : hexNumber? width leading digits = some (number, []))
    (isLast : hexValue? last = some value) :
    hexNumber? (width + 1) leading (digits ++ [last]) = some (number * 16 + value, []) := by
  induction width generalizing leading digits with
  | zero =>
      rw [List.eq_nil_of_length_eq_zero counted] at front ⊢
      cases front
      simp [hexNumber?, isLast]
  | succ width induction =>
      cases digits with
      | nil => cases counted
      | cons digit others =>
          rw [hexNumber?] at front
          rw [List.cons_append, hexNumber?]
          cases first : hexValue? digit with
          | none => simp [first] at front
          | some value =>
              rw [first, Option.bind_some] at front
              exact induction (Nat.succ.inj counted) front

theorem hexNumber?_hexDigits (width number : Nat) :
    hexNumber? width 0 (hexDigits width number) = some (number % 16 ^ width, []) := by
  induction width generalizing number with
  | zero => simp [hexNumber?, hexDigits, Nat.mod_one]
  | succ width induction =>
      have cut : number / 16 % 16 ^ width * 16 + number % 16 = number % 16 ^ (width + 1) := by
        rw [Nat.pow_succ', Nat.mod_mul]
        omega
      rw [hexDigits, hexNumber?_concat (length_hexDigits width _) (induction _)
        (hexValue?_hexDigit number), cut]

theorem exists_digits_of_hexNumber? {width leading number : Nat} {text behind : List Char}
    (found : hexNumber? width leading text = some (number, behind)) :
    ∃ digits, digits.length = width ∧ text = digits ++ behind := by
  induction width generalizing leading text with
  | zero =>
      cases found
      exact ⟨[], rfl, rfl⟩
  | succ width induction =>
      cases text with
      | nil => cases found
      | cons digit rest =>
          rw [hexNumber?] at found
          cases first : hexValue? digit with
          | none => simp [first] at found
          | some value =>
              rw [first, Option.bind_some] at found
              rcases induction found with ⟨digits, counted, rfl⟩
              exact ⟨digit :: digits, congrArg Nat.succ counted, rfl⟩

/-! ## Quotations -/

def Spends (text : List Char) (units : List Nat) (behind : List Char) : Prop :=
  ∃ spent, spent ≠ [] ∧ text = spent ++ behind ∧ units.length ≤ (codeUnits spent).length

theorem spends_of_length_le {first : Char} {behind : List Char} {units : List Nat}
    (spent : List Char) (fewer : units.length ≤ spent.length + 1) :
    Spends (first :: (spent ++ behind)) units behind :=
  ⟨first :: spent, List.cons_ne_nil _ _, rfl,
    Nat.le_trans fewer (length_le_length_codeUnits (first :: spent))⟩

theorem spends_of_number {width : Nat} {first : Char} {rest behind : List Char} {units : List Nat}
    (found : (hexNumber? width 0 rest).map (Prod.map ([·]) id) = some (units, behind)) :
    Spends (first :: rest) units behind := by
  rcases Option.map_eq_some_iff.mp found with ⟨⟨unit, others⟩, number, same⟩
  cases same
  rcases exists_digits_of_hexNumber? number with ⟨digits, -, rfl⟩
  exact spends_of_length_le digits (by simp)

/-- How a notation reads what stands between double quotes. -/
structure Quotation where
  /-- The characters that stand for themselves, apart from quotes and backslashes. -/
  standsAlone : Char → Bool
  /-- The code units that a backslash and the characters behind it stand for. -/
  escape? : List Char → Option (List Nat × List Char)
  /-- No escape is shorter than what it stands for. -/
  spends : ∀ {text units behind}, escape? text = some (units, behind) → Spends text units behind

namespace Quotation

variable {quotation : Quotation} {text content behind : List Char} {units : List Nat}
  {character : Char}

theorem length_of_escape? (found : quotation.escape? text = some (units, behind)) :
    behind.length < text.length := by
  rcases quotation.spends found with ⟨spent, nonempty, rfl, -⟩
  have positive := List.length_pos_iff.mpr nonempty
  rw [List.length_append]
  omega

def read? (quotation : Quotation) (text : List Char) : Option (List Nat × List Char) :=
  match text with
  | [] => none
  | first :: rest =>
      if first = '"' then some ([], rest)
      else if first = '\\' then
        match _found : quotation.escape? rest with
        | none => none
        | some (units, behind) => (quotation.read? behind).map (Prod.map (units ++ ·) id)
      else if quotation.standsAlone first then
        (quotation.read? rest).map (Prod.map (unitsOf first ++ ·) id)
      else none
termination_by text.length
decreasing_by
  · have shorter := length_of_escape? _found
    simp only [List.length_cons]
    omega
  · simp

def IsPlain (quotation : Quotation) (character : Char) : Prop :=
  character ≠ '"' ∧ character ≠ '\\' ∧ quotation.standsAlone character = true

instance (quotation : Quotation) (character : Char) : Decidable (quotation.IsPlain character) :=
  inferInstanceAs (Decidable (_ ∧ _))

theorem read?_quote (rest : List Char) : quotation.read? ('"' :: rest) = some ([], rest) := by
  rw [read?, if_pos rfl]

theorem read?_backslash (found : quotation.escape? text = some (units, behind)) :
    quotation.read? ('\\' :: text) =
      (quotation.read? behind).map (Prod.map (units ++ ·) id) := by
  rw [read?, if_neg (by decide), if_pos rfl]
  split
  · rename_i lost
    rw [found] at lost
    cases lost
  · rename_i again
    rw [found] at again
    cases again
    rfl

theorem read?_plain (plain : quotation.IsPlain character) (rest : List Char) :
    quotation.read? (character :: rest) =
      (quotation.read? rest).map (Prod.map (unitsOf character ++ ·) id) := by
  rw [read?, if_neg plain.1, if_neg plain.2.1, if_pos plain.2.2]

theorem read?_of_forall_isPlain (plain : ∀ character ∈ content, quotation.IsPlain character)
    (rest : List Char) :
    quotation.read? (content ++ '"' :: rest) = some (codeUnits content, rest) := by
  induction content with
  | nil => exact read?_quote rest
  | cons first others induction =>
      rw [List.forall_mem_cons] at plain
      rw [List.cons_append, read?_plain plain.1, induction plain.2, codeUnits_cons]
      rfl

theorem exists_content_of_read? (found : quotation.read? text = some (units, behind)) :
    ∃ content, text = content ++ '"' :: behind ∧ units.length ≤ (codeUnits content).length ∧
      ((codeUnits content).length ≤ units.length →
        ∀ character ∈ content, quotation.IsPlain character) := by
  fun_induction quotation.read? text generalizing units with
  | case1 => cases found
  | case2 rest =>
      cases found
      exact ⟨[], rfl, Nat.le_refl _, fun _ _ member => absurd member List.not_mem_nil⟩
  | case3 rest notQuote lost => cases found
  | case4 rest escaped after escape notQuote induction =>
      rcases Option.map_eq_some_iff.mp found with ⟨⟨further, behind⟩, later, same⟩
      cases same
      rcases quotation.spends escape with ⟨spent, -, rfl, fewer⟩
      rcases induction later with ⟨content, rfl, bound, -⟩
      -- The backslash itself is spent on nothing.
      have backslash : (unitsOf '\\').length = 1 := rfl
      refine ⟨'\\' :: spent ++ content, by simp, ?_, fun many => ?_⟩
      · simp only [List.cons_append, codeUnits_cons, codeUnits_append, List.length_append]
        omega
      · simp only [List.cons_append, codeUnits_cons, codeUnits_append, List.length_append] at many
        omega
  | case5 first rest notQuote notBackslash alone induction =>
      rcases Option.map_eq_some_iff.mp found with ⟨⟨further, behind⟩, later, same⟩
      cases same
      rcases induction later with ⟨content, rfl, bound, plain⟩
      refine ⟨first :: content, rfl, ?_, fun many => ?_⟩
      · simp only [codeUnits_cons, List.length_append]
        omega
      · simp only [codeUnits_cons, List.length_append] at many
        exact List.forall_mem_cons.mpr ⟨⟨notQuote, notBackslash, alone⟩, plain (by omega)⟩
  | case6 first rest notQuote notBackslash refused => cases found

/-- A text between quotes is read as itself exactly if it needs no escapes. -/
theorem read?_eq_codeUnits_iff (content rest : List Char) :
    quotation.read? (content ++ '"' :: rest) = some (codeUnits content, rest) ↔
      ∀ character ∈ content, quotation.IsPlain character := by
  refine ⟨fun found => ?_, fun plain => read?_of_forall_isPlain plain rest⟩
  rcases exists_content_of_read? found with ⟨spent, split, -, plain⟩
  have same : content = spent := List.append_cancel_right split
  exact same ▸ plain (same ▸ Nat.le_refl _)

end Quotation

end TypedModules.Text
