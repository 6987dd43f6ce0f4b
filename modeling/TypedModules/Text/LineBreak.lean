/-! # Line breaks

A line ends at a line feed or at one of nine other characters. Within a file,
carriage returns are unified to line feeds when the file is read.
-/

namespace TypedModules.Text

def isLineBreak (character : Char) : Bool :=
  character ∈ ['\n', '\x0b', '\x0c', '\r', '\x1c', '\x1d', '\x1e', '\u0085', '\u2028', '\u2029']

def lines (text : List Char) : List (List Char) :=
  text.splitOnP isLineBreak

/-- Every carriage return becomes a line feed, together with a line feed that
follows it. -/
def unifyLineBreaks : List Char → List Char
  | '\r' :: '\n' :: rest => '\n' :: unifyLineBreaks rest
  | '\r' :: rest => '\n' :: unifyLineBreaks rest
  | character :: rest => character :: unifyLineBreaks rest
  | [] => []

theorem carriageReturn_notMem_unifyLineBreaks (text : List Char) :
    '\r' ∉ unifyLineBreaks text := by
  fun_induction unifyLineBreaks text with
  | case1 rest induction => simpa using induction
  | case2 rest _ induction => simpa using induction
  | case3 character rest _ notReturn induction =>
      rw [List.mem_cons, not_or]
      exact ⟨fun same => notReturn same.symm, induction⟩
  | case4 => exact List.not_mem_nil

theorem unifyLineBreaks_of_notMem {text : List Char} (free : '\r' ∉ text) :
    unifyLineBreaks text = text := by
  fun_induction unifyLineBreaks text with
  | case1 => simp at free
  | case2 => simp at free
  | case3 character rest _ _ induction =>
      rw [induction fun member => free (List.mem_cons_of_mem character member)]
  | case4 => rfl

theorem unifyLineBreaks_eq_self_iff {text : List Char} :
    unifyLineBreaks text = text ↔ '\r' ∉ text :=
  ⟨fun same => same ▸ carriageReturn_notMem_unifyLineBreaks text, unifyLineBreaks_of_notMem⟩

theorem lines_append_cons (before after : List Char) {character : Char}
    (ends : isLineBreak character = true) :
    lines (before ++ character :: after) = lines before ++ lines after :=
  List.splitOnP_append_cons before after ends

end TypedModules.Text
