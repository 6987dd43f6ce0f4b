import TypedModules.Layout.LineBuffer

/-! # Namespace blocks

A namespace block holds the body of an exported namespace. Its heading is
written when it is opened and its closing brace when it is closed. After that
it takes no more content.
-/

namespace TypedModules

/-- A block with a heading, a body one level deeper and, once closed, an end. -/
structure NamespaceBlock where
  name : String
  buffer : LineBuffer
  closed : Bool := false
  deriving DecidableEq

namespace NamespaceBlock

def heading (name : String) : String :=
  "export namespace " ++ name ++ " \x7b"

def opened (name unit : String) : NamespaceBlock where
  name := name
  buffer := (({ unit } : LineBuffer).add (heading name)).indent

def edit (block : NamespaceBlock) (edit : Edit) : Except LayoutFault NamespaceBlock :=
  if block.closed then .error (.closed block.name)
  else (block.buffer.edit edit).map fun buffer => { block with buffer }

/-- Write the closing brace. The block has to be open, and its body indented by
exactly one level. -/
def close (block : NamespaceBlock) : Except LayoutFault NamespaceBlock :=
  if block.closed then .error (.closed block.name)
  else if block.buffer.indentation ≠ block.buffer.unit then .error (.unbalanced block.name)
  else block.buffer.outdent.map fun buffer =>
    { block with buffer := buffer.add "\x7d", closed := true }

def text (block : NamespaceBlock) : String :=
  block.buffer.text

theorem edit_of_closed {block : NamespaceBlock} (isClosed : block.closed = true) (edit : Edit) :
    block.edit edit = .error (.closed block.name) := by
  simp [NamespaceBlock.edit, isClosed]

theorem close_of_closed {block : NamespaceBlock} (isClosed : block.closed = true) :
    block.close = .error (.closed block.name) := by
  simp [close, isClosed]

theorem closed_and_name_of_edit {block after : NamespaceBlock} {edit : Edit}
    (accepted : block.edit edit = .ok after) :
    after.closed = false ∧ block.closed = false ∧ after.name = block.name := by
  unfold NamespaceBlock.edit at accepted
  split at accepted
  · simp at accepted
  · cases outcome : block.buffer.edit edit with
    | error fault => simp [outcome, Except.map] at accepted
    | ok buffer =>
        simp only [outcome, Except.map, Except.ok.injEq] at accepted
        simp_all [← accepted]

end NamespaceBlock

end TypedModules
