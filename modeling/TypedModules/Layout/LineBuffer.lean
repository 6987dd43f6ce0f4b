import TypedModules.Attempt
import TypedModules.Layout.Fault

/-! # Line buffers

A line buffer collects lines. Each line gets the indentation that holds when it
is added, so a later change of the indentation does not affect lines that are
already there.
-/

namespace TypedModules

def defaultUnit : String := "  "

/-- Collected lines, with the indentation of the next one. -/
structure LineBuffer where
  unit : String := defaultUnit
  lines : List String := []
  indentation : String := ""
  deriving DecidableEq

inductive Edit where
  | add (line : String)
  | indent
  | outdent
  deriving DecidableEq

namespace LineBuffer

def add (buffer : LineBuffer) (line : String) : LineBuffer :=
  { buffer with lines := buffer.lines ++ [buffer.indentation ++ line] }

def indent (buffer : LineBuffer) : LineBuffer :=
  { buffer with indentation := buffer.indentation ++ buffer.unit }

/-- An indentation without its last level. An empty unit takes away everything,
as there is no telling its levels apart. -/
def shortened (indentation unit : String) : String :=
  if unit = "" then ""
  else String.ofList (indentation.toList.take (indentation.length - unit.length))

def outdent (buffer : LineBuffer) : Except LayoutFault LineBuffer :=
  if buffer.indentation = "" then .error .notIndented
  else .ok { buffer with indentation := shortened buffer.indentation buffer.unit }

def join (buffer : LineBuffer) (glue : String) : String :=
  glue.intercalate buffer.lines

def text (buffer : LineBuffer) : String :=
  buffer.join "\n"

def clear (buffer : LineBuffer) : LineBuffer :=
  { buffer with lines := [] }

/-- Change what further levels of indentation add. The present indentation stays. -/
def setUnit (buffer : LineBuffer) (unit : String) : LineBuffer :=
  { buffer with unit }

def edit (buffer : LineBuffer) : Edit → Except LayoutFault LineBuffer
  | .add line => .ok (buffer.add line)
  | .indent => .ok buffer.indent
  | .outdent => buffer.outdent

@[simp]
theorem lines_add (buffer : LineBuffer) (line : String) :
    (buffer.add line).lines = buffer.lines ++ [buffer.indentation ++ line] := rfl

@[simp]
theorem indentation_add (buffer : LineBuffer) (line : String) :
    (buffer.add line).indentation = buffer.indentation := rfl

@[simp]
theorem unit_add (buffer : LineBuffer) (line : String) : (buffer.add line).unit = buffer.unit := rfl

@[simp]
theorem lines_indent (buffer : LineBuffer) : buffer.indent.lines = buffer.lines := rfl

@[simp]
theorem indentation_indent (buffer : LineBuffer) :
    buffer.indent.indentation = buffer.indentation ++ buffer.unit := rfl

@[simp]
theorem unit_indent (buffer : LineBuffer) : buffer.indent.unit = buffer.unit := rfl

theorem shortened_append (indentation : String) {unit : String} (visible : unit ≠ "") :
    shortened (indentation ++ unit) unit = indentation := by
  apply String.toList_injective
  simp [shortened, visible, ← String.length_toList]

theorem outdent_eq_error_iff (buffer : LineBuffer) (fault : LayoutFault) :
    buffer.outdent = .error fault ↔ buffer.indentation = "" ∧ fault = .notIndented := by
  unfold outdent
  split
  · rename_i flat
    simp [flat, eq_comm]
  · rename_i indented
    simp [indented]

theorem lines_of_outdent {buffer after : LineBuffer} (accepted : buffer.outdent = .ok after) :
    after.lines = buffer.lines := by
  unfold outdent at accepted
  split at accepted <;> simp at accepted
  rw [← accepted]

end LineBuffer

end TypedModules
