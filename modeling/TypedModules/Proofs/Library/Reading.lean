import TypedModules.Proofs.Library.Finding

/-! # What is read of a file

Reading a file unifies its line breaks. A carriage return is lost that way, and nothing
else is: every text without one can be read, and is read as it stands.
-/

namespace TypedModules

namespace Text

def unified (text : String) : String :=
  String.ofList (unifyLineBreaks text.toList)

theorem unified_eq_self_iff {text : String} : unified text = text ↔ '\r' ∉ text.toList := by
  rw [unified, ← String.toList_inj, String.toList_ofList, unifyLineBreaks_eq_self_iff]

theorem toUTF8_inj {first second : String} : first.toUTF8 = second.toUTF8 ↔ first = second := by
  rw [String.toUTF8_eq_toByteArray, String.toUTF8_eq_toByteArray, String.toByteArray_inj]

end Text

namespace Library

open FileTree

variable {tree : FileTree} {path : String} {content : ByteArray} {library : Library}

theorem textOf?_eq_some_iff {text : String} :
    textOf? content = some text ↔
      ∃ original : String, content = original.toUTF8 ∧ text = Text.unified original := by
  simp only [textOf?, Option.map_eq_some_iff, String.fromUTF8?]
  constructor
  · rintro ⟨original, decoded, rfl⟩
    split at decoded
    · rename_i valid
      rw [← Option.some.inj decoded]
      exact ⟨String.fromUTF8 content valid, rfl, rfl⟩
    · cases decoded
  · rintro ⟨original, rfl, rfl⟩
    exact ⟨original, dif_pos original.isValidUTF8, rfl⟩

theorem exists_original_of_load (loaded : load tree path = .ok library) :
    ∃ original : String, tree.find? path = some (.file original.toUTF8) ∧
      library.contents = Text.unified original := by
  rw [load] at loaded
  split at loaded
  · cases loaded
  · rename_i content read
    split at loaded
    · rename_i contents text
      rcases textOf?_eq_some_iff.mp text with ⟨original, rfl, rfl⟩
      rw [← Except.ok.inj loaded]
      exact ⟨original, read_eq_ok_iff.mp read, rfl⟩
    · cases loaded

theorem load_of_text {original : String}
    (found : tree.find? path = some (.file original.toUTF8)) :
    load tree path = .ok { file := path, contents := Text.unified original } := by
  rw [load_of_file found, textOf?_eq_some_iff.mpr ⟨original, rfl, rfl⟩]

end Library

end TypedModules
