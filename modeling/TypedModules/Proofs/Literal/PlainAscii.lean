import Mathlib.Data.List.Basic
import Mathlib.Data.Nat.Digits.Defs
import TypedModules.Literal

/-! # Characters of literals

Whatever a value is, its literal is made of printable ASCII characters. So a
literal never breaks the line that it is on.
-/

namespace TypedModules

def IsPlainAscii (character : Char) : Prop :=
  ' ' ≤ character ∧ character ≤ '~'

instance (character : Char) : Decidable (IsPlainAscii character) :=
  inferInstanceAs (Decidable (_ ∧ _))

theorem isPlainAscii_of_isDigit {character : Char} (digit : character.isDigit = true) :
    IsPlainAscii character := by
  simp only [Char.isDigit, Bool.and_eq_true, decide_eq_true_eq] at digit
  exact ⟨Nat.le_trans (by decide) digit.1, Nat.le_trans digit.2 (by decide)⟩

theorem isPlainAscii_hexDigit (value : Nat) : IsPlainAscii (Text.hexDigit value) := by
  have digits : ∀ digit < 16, IsPlainAscii (Nat.digitChar digit) := by decide
  exact digits _ (Nat.mod_lt value (by decide))

namespace Decimal

theorem isPlainAscii_naturalDigits (value : Nat) :
    ∀ character ∈ naturalDigits value, IsPlainAscii character :=
  fun _ member => isPlainAscii_of_isDigit
    (Nat.isDigit_of_mem_toDigits (by decide) (by decide) member)

theorem isPlainAscii_integerText (value : Int) :
    ∀ character ∈ (integerText value).toList, IsPlainAscii character := by
  cases value with
  | ofNat value =>
      rw [integerText, String.toList_ofList]
      exact isPlainAscii_naturalDigits value
  | negSucc value =>
      rw [integerText, String.toList_ofList, List.forall_mem_cons]
      exact ⟨by decide, isPlainAscii_naturalDigits (value + 1)⟩

variable {digits : List Char}

theorem isPlainAscii_zeros (count : Nat) :
    ∀ character ∈ List.replicate count '0', IsPlainAscii character := by
  intro character member
  rw [List.eq_of_mem_replicate member]
  decide

theorem isPlainAscii_positional (plain : ∀ character ∈ digits, IsPlainAscii character)
    (point : Int) : ∀ character ∈ positional digits point, IsPlainAscii character := by
  have dot : IsPlainAscii '.' := by decide
  have zero : IsPlainAscii '0' := by decide
  have front : ∀ character ∈ digits.take point.toNat, IsPlainAscii character :=
    fun _ member => plain _ (List.mem_of_mem_take member)
  have back : ∀ character ∈ digits.drop point.toNat, IsPlainAscii character :=
    fun _ member => plain _ (List.mem_of_mem_drop member)
  have fraction : ∀ character ∈ (if (digits.drop point.toNat).isEmpty then ['0']
      else digits.drop point.toNat), IsPlainAscii character := by
    split
    · exact List.forall_mem_singleton.mpr zero
    · exact back
  rw [positional]
  split
  · rw [List.cons_append, List.cons_append, List.forall_mem_cons, List.forall_mem_cons,
      List.forall_mem_append]
    exact ⟨zero, dot, isPlainAscii_zeros _, plain⟩
  · rw [List.append_assoc, List.forall_mem_append, List.forall_mem_append, List.forall_mem_cons]
    exact ⟨front, isPlainAscii_zeros _, dot, fraction⟩

theorem isPlainAscii_scientific (style : Style)
    (plain : ∀ character ∈ digits, IsPlainAscii character) (exponent : Int) :
    ∀ character ∈ scientific style digits exponent, IsPlainAscii character := by
  have marker : IsPlainAscii 'e' := by decide
  have sign : IsPlainAscii (if exponent < 0 then '-' else '+') := by split <;> decide
  have first : ∀ character ∈ digits.take 1, IsPlainAscii character :=
    fun _ member => plain _ (List.mem_of_mem_take member)
  have fraction : ∀ character ∈ (if (digits.drop 1).isEmpty then []
      else '.' :: digits.drop 1), IsPlainAscii character := by
    split
    · simp
    · rw [List.forall_mem_cons]
      exact ⟨by decide, fun _ member => plain _ (List.mem_of_mem_drop member)⟩
  simp only [scientific, List.append_assoc, List.cons_append, List.forall_mem_cons,
    List.forall_mem_append]
  exact ⟨first, fraction, marker, sign, isPlainAscii_zeros _, isPlainAscii_naturalDigits _⟩

theorem isPlainAscii_scaledText (style : Style) (scaled : Scaled) :
    ∀ character ∈ scaledText style scaled, IsPlainAscii character := by
  have plain : ∀ character ∈ ((naturalDigits scaled.coefficient).reverse.dropWhile
      (· = '0')).reverse, IsPlainAscii character := by
    intro character member
    have kept := (List.dropWhile_sublist _).subset (List.mem_reverse.mp member)
    exact isPlainAscii_naturalDigits scaled.coefficient character (List.mem_reverse.mp kept)
  rw [scaledText]
  split
  · exact isPlainAscii_positional plain _
  · exact isPlainAscii_scientific style plain _

theorem isPlainAscii_signed (negative : Bool) {text : String}
    (plain : ∀ character ∈ text.toList, IsPlainAscii character) :
    ∀ character ∈ (binary64Text.signed negative text).toList, IsPlainAscii character := by
  have sign : ∀ character ∈ "-".toList, IsPlainAscii character := by simp [IsPlainAscii]
  rw [binary64Text.signed]
  split
  · rw [String.toList_append, List.forall_mem_append]
    exact ⟨sign, plain⟩
  · exact plain

end Decimal

namespace Scalar

theorem isPlainAscii_escapeUnit (unit : Nat) :
    ∀ character ∈ escapeUnit unit, IsPlainAscii character := by
  have digits (width : Nat) : ∀ unit, ∀ character ∈ Text.hexDigits width unit,
      IsPlainAscii character := by
    induction width with
    | zero => simp [Text.hexDigits]
    | succ width induction =>
        intro unit
        rw [Text.hexDigits, List.forall_mem_append]
        exact ⟨induction _, by simpa using isPlainAscii_hexDigit unit⟩
  simp only [escapeUnit, List.forall_mem_cons]
  exact ⟨by decide, by decide, digits 4 unit⟩

def letterEscapes : List (Char × Char) :=
  [('"', '"'), ('\\', '\\'), ('\n', 'n'), ('\r', 'r'), ('\t', 't'), ('\x0c', 'f'), ('\x08', 'b')]

theorem escape_cases (character : Char) :
    (∃ letter, (character, letter) ∈ letterEscapes ∧ escape character = ['\\', letter]) ∨
    ((character ≠ '"' ∧ character ≠ '\\' ∧ ' ' ≤ character ∧ character ≤ '~') ∧
      escape character = [character]) ∨
    (character.toNat < 0x10000 ∧ escape character = escapeUnit character.toNat) ∨
    (0x10000 ≤ character.toNat ∧ escape character =
      escapeUnit (0xD800 + (character.toNat - 0x10000) / 0x400) ++
        escapeUnit (0xDC00 + (character.toNat - 0x10000) % 0x400)) := by
  by_cases lettered : ∃ letter, (character, letter) ∈ letterEscapes
  · rcases lettered with ⟨letter, listed⟩
    refine .inl ⟨letter, listed, ?_⟩
    have written : ∀ pair ∈ letterEscapes, escape pair.1 = ['\\', pair.2] := by decide
    exact written _ listed
  · simp only [letterEscapes, List.mem_cons, Prod.mk.injEq, List.not_mem_nil, or_false, exists_or,
      exists_eq_right, not_or] at lettered
    rcases lettered with
      ⟨quote, backslash, lineFeed, carriageReturn, tab, formFeed, backspace⟩
    rw [escape, if_neg quote, if_neg backslash, if_neg lineFeed, if_neg carriageReturn, if_neg tab,
      if_neg formFeed, if_neg backspace]
    by_cases plain : ' ' ≤ character ∧ character ≤ '~'
    · exact .inr (.inl ⟨⟨quote, backslash, plain⟩, if_pos plain⟩)
    · rw [if_neg plain]
      by_cases basic : character.toNat < 0x10000
      · exact .inr (.inr (.inl ⟨basic, if_pos basic⟩))
      · exact .inr (.inr (.inr ⟨Nat.le_of_not_lt basic, if_neg basic⟩))

theorem isPlainAscii_escape (character : Char) :
    ∀ written ∈ escape character, IsPlainAscii written := by
  rcases escape_cases character with
    ⟨letter, listed, same⟩ | ⟨⟨-, -, plain⟩, same⟩ | ⟨-, same⟩ | ⟨-, same⟩ <;> rw [same]
  · have letters : ∀ pair ∈ letterEscapes, IsPlainAscii pair.2 := by decide
    rw [List.forall_mem_cons, List.forall_mem_singleton]
    exact ⟨by decide, letters _ listed⟩
  · rw [List.forall_mem_singleton]
    exact plain
  · exact isPlainAscii_escapeUnit _
  · rw [List.forall_mem_append]
    exact ⟨isPlainAscii_escapeUnit _, isPlainAscii_escapeUnit _⟩

theorem isPlainAscii_fullLiteral (value : Scalar) :
    ∀ character ∈ value.fullLiteral.toList, IsPlainAscii character := by
  have quote : IsPlainAscii '"' := by decide
  cases value with
  | null => simp [fullLiteral, IsPlainAscii]
  | boolean value => cases value <;> simp [fullLiteral, IsPlainAscii]
  | integer value => exact Decimal.isPlainAscii_integerText value
  | real bits =>
      rw [fullLiteral, Decimal.binary64Text.eq_def]
      cases Decimal.Binary64.ofBits bits with
      | notANumber => simp [realStyle, IsPlainAscii]
      | infinite negative =>
          exact Decimal.isPlainAscii_signed negative (by simp [realStyle, IsPlainAscii])
      | zero negative => exact Decimal.isPlainAscii_signed negative (by simp [IsPlainAscii])
      | finite negative magnitude =>
          apply Decimal.isPlainAscii_signed
          rw [String.toList_ofList]
          exact Decimal.isPlainAscii_scaledText realStyle magnitude.shortest
  | text value =>
      rw [fullLiteral, quotedLiteral, String.toList_ofList]
      simp only [List.cons_append, List.forall_mem_cons, List.forall_mem_append,
        List.forall_mem_flatMap]
      exact ⟨quote, fun character _ => isPlainAscii_escape character, by simpa using quote⟩

end Scalar

end TypedModules
