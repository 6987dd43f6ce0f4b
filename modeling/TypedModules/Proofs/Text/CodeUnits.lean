import TypedModules.Text.Hexadecimal

/-! # Code units

What stands between quotes is told in code units of sixteen bits. A character of the basic
plane is one unit, and any other is a surrogate pair: a high surrogate with a low one
behind it. No character is a surrogate, so the units of a text determine it.
-/

namespace TypedModules.Text

def unitsAt (point : Nat) : List Nat :=
  if point < 0x10000 then [point]
  else
    let beyond := point - 0x10000
    [0xD800 + beyond / 0x400, 0xDC00 + beyond % 0x400]

def unitsOf (character : Char) : List Nat :=
  unitsAt character.toNat

def codeUnits (text : List Char) : List Nat :=
  text.flatMap unitsOf

def IsSurrogatePair (high low : Nat) : Prop :=
  (0xD800 ≤ high ∧ high < 0xDC00) ∧ 0xDC00 ≤ low ∧ low < 0xE000

instance (high low : Nat) : Decidable (IsSurrogatePair high low) :=
  inferInstanceAs (Decidable (_ ∧ _))

def characterAt? (point : Nat) : Option Char :=
  if point.isValidChar then some (Char.ofNat point) else none

/-- The text that code units make up. There is none if a surrogate stands alone. -/
def ofCodeUnits? : List Nat → Option (List Char)
  | [] => some []
  | [unit] => (characterAt? unit).map ([·])
  | unit :: next :: rest =>
      if IsSurrogatePair unit next then
        (characterAt? (0x10000 + (unit - 0xD800) * 0x400 + (next - 0xDC00))).bind fun character =>
          (ofCodeUnits? rest).map (character :: ·)
      else
        (characterAt? unit).bind fun character =>
          (ofCodeUnits? (next :: rest)).map (character :: ·)

theorem characterAt?_toNat (character : Char) : characterAt? character.toNat = some character := by
  have valid : character.toNat.isValidChar := character.valid
  rw [characterAt?, if_pos valid, Char.ofNat_toNat]

theorem length_unitsAt_pos (point : Nat) : 0 < (unitsAt point).length := by
  rw [unitsAt]
  split <;> simp

theorem length_unitsAt_le (point : Nat) : (unitsAt point).length ≤ 2 := by
  rw [unitsAt]
  split <;> simp

theorem codeUnits_cons (character : Char) (text : List Char) :
    codeUnits (character :: text) = unitsOf character ++ codeUnits text :=
  List.flatMap_cons

theorem codeUnits_append (first second : List Char) :
    codeUnits (first ++ second) = codeUnits first ++ codeUnits second :=
  List.flatMap_append

theorem length_le_length_codeUnits (text : List Char) : text.length ≤ (codeUnits text).length := by
  induction text with
  | nil => exact Nat.le_refl _
  | cons character rest induction =>
      have positive : 0 < (unitsOf character).length := length_unitsAt_pos character.toNat
      rw [codeUnits_cons, List.length_append, List.length_cons]
      omega

theorem unitsOf_of_basic {character : Char} (basic : character.toNat < 0x10000) :
    unitsOf character = [character.toNat] :=
  if_pos basic

theorem ofCodeUnits?_unitsOf_append (character : Char) (rest : List Nat) :
    ofCodeUnits? (unitsOf character ++ rest) = (ofCodeUnits? rest).map (character :: ·) := by
  have valid : character.toNat < 0xD800 ∨ 0xDFFF < character.toNat ∧ character.toNat < 0x110000 :=
    character.valid
  have itself := characterAt?_toNat character
  rw [unitsOf, unitsAt]
  split
  · cases rest with
    | nil => simp [ofCodeUnits?, itself]
    | cons next others =>
        have alone : ¬IsSurrogatePair character.toNat next := by
          rintro ⟨high, -⟩
          omega
        rw [List.singleton_append, ofCodeUnits?, if_neg alone, itself, Option.bind_some]
  · rename_i beyond
    have pair : IsSurrogatePair (0xD800 + (character.toNat - 0x10000) / 0x400)
        (0xDC00 + (character.toNat - 0x10000) % 0x400) := by
      constructor <;> omega
    have point : 0x10000 + (0xD800 + (character.toNat - 0x10000) / 0x400 - 0xD800) * 0x400 +
        (0xDC00 + (character.toNat - 0x10000) % 0x400 - 0xDC00) = character.toNat := by
      omega
    simp only [List.cons_append, List.nil_append]
    rw [ofCodeUnits?, if_pos pair, point, itself, Option.bind_some]

theorem ofCodeUnits?_codeUnits (text : List Char) : ofCodeUnits? (codeUnits text) = some text := by
  induction text with
  | nil => rfl
  | cons character rest induction =>
      rw [codeUnits_cons, ofCodeUnits?_unitsOf_append, induction, Option.map_some]

end TypedModules.Text
