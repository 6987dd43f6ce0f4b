import TypedModules.Declaration.Enumeration
import TypedModules.Layout.NamespaceBlock

/-! # Calls on buffers

The operations that a buffer or a namespace block can be asked for, and what
each of them leaves behind and answers.
-/

namespace TypedModules

inductive BufferCall where
  | edit (edit : Edit)
  | join (glue : String)
  | clear
  | setUnit (unit : String)
  | enumeration (enumeration : Enumeration) (exported : Bool)
  deriving DecidableEq

inductive BlockCall where
  | content (call : BufferCall)
  | close
  deriving DecidableEq

namespace LineBuffer

def editIfAny (buffer : LineBuffer) (next : Except LiteralFault Edit) :
    Except LayoutFault LineBuffer :=
  (next.mapError .literal).bind buffer.edit

def writeEnumeration (buffer : LineBuffer) (enumeration : Enumeration) (exported : Bool) :
    Attempt LayoutFault LineBuffer Unit :=
  .runAll editIfAny buffer (enumeration.edits exported (!buffer.lines.isEmpty))

def perform (buffer : LineBuffer) : BufferCall → Attempt LayoutFault LineBuffer (Option String)
  | .edit edit => (Attempt.ofExcept buffer (buffer.edit edit)).map fun _ => none
  | .join glue => ⟨buffer, .ok (buffer.join glue)⟩
  | .clear => ⟨buffer.clear, .ok none⟩
  | .setUnit unit => ⟨buffer.setUnit unit, .ok none⟩
  | .enumeration enumeration exported =>
      (buffer.writeEnumeration enumeration exported).map fun _ => none

end LineBuffer

namespace NamespaceBlock

def editIfAny (block : NamespaceBlock) (next : Except LiteralFault Edit) :
    Except LayoutFault NamespaceBlock :=
  (next.mapError .literal).bind block.edit

def writeEnumeration (block : NamespaceBlock) (enumeration : Enumeration) (exported : Bool) :
    Attempt LayoutFault NamespaceBlock Unit :=
  .runAll editIfAny block (enumeration.edits exported (!block.buffer.lines.isEmpty))

/-- Perform an operation. Content is refused by a closed block. Dropping the
lines and changing the unit are possible at any time. -/
def perform (block : NamespaceBlock) :
    BlockCall → Attempt LayoutFault NamespaceBlock (Option String)
  | .close => (Attempt.ofExcept block block.close).map fun _ => none
  | .content (.edit edit) => (Attempt.ofExcept block (block.edit edit)).map fun _ => none
  | .content (.join glue) => ⟨block, .ok (block.buffer.join glue)⟩
  | .content .clear => ⟨{ block with buffer := block.buffer.clear }, .ok none⟩
  | .content (.setUnit unit) => ⟨{ block with buffer := block.buffer.setUnit unit }, .ok none⟩
  | .content (.enumeration enumeration exported) =>
      (block.writeEnumeration enumeration exported).map fun _ => none

end NamespaceBlock

end TypedModules
