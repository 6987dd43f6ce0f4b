import TypedModules.SourceModule.Basic

/-! # Type definitions

The type definitions of a module are its sections in a fixed order with a blank
line between them. Services come first, as everything may refer to them, and
nested namespaces last, so that they merge with the classes they extend.
-/

namespace TypedModules

def generatedNote : String :=
  "// This is an automatically generated file. Please do not change its contents manually!"

/-- The note is a comment. -/
theorem exists_toList_generatedNote :
    ∃ rest, generatedNote.toList = '/' :: '/' :: rest ∧
      '\n' ∉ rest ∧ '\x7b' ∉ rest ∧ '\x7d' ∉ rest :=
  -- The literal is taken for the list of its characters, so that it need not be decoded.
  ⟨_, String.toList_ofList, by decide +kernel⟩

inductive DefinitionPart where
  | buffer (label : Section)
  | namespaces
  deriving DecidableEq

namespace DefinitionPart

def order : List DefinitionPart :=
  [.buffer .services, .buffer .types, .buffer .enumerations, .buffer .inlineEnumerations,
    .buffer .aspects, .buffer .classes, .buffer .events, .buffer .actions, .namespaces]

def label : DefinitionPart → String
  | buffer .preamble => "preamble"
  | buffer .services => "services"
  | buffer .types => "types"
  | buffer .enumerations => "enums"
  | buffer .inlineEnumerations => "inline_enums"
  | buffer .aspects => "aspects"
  | buffer .classes => "classes"
  | buffer .events => "events"
  | buffer .actions => "actions"
  | namespaces => "namespaces"

end DefinitionPart

namespace SourceModule

def importLine (specifier : String) (imported : Namespace) : String :=
  "import * as " ++ imported.identifier ++ " from '" ++ specifier ++ "';"

def importLines (module : SourceModule) : List String :=
  (module.imports.entries.filter fun entry => entry.1 ≠ "./").map fun entry =>
    importLine entry.1 entry.2

def closeIfOpen (block : NamespaceBlock) : Except LayoutFault NamespaceBlock :=
  if block.closed then .ok block else block.close

def closeInOrder : List (String × NamespaceBlock) →
    Attempt LayoutFault (List (String × NamespaceBlock)) Unit
  | [] => ⟨[], .ok ()⟩
  | (name, block) :: rest =>
      match closeIfOpen block with
      | .error fault => ⟨(name, block) :: rest, .error fault⟩
      | .ok after => (closeInOrder rest).embed ((name, after) :: ·)

theorem names_closeInOrder (blocks : List (String × NamespaceBlock)) :
    (closeInOrder blocks).state.map Prod.fst = blocks.map Prod.fst := by
  induction blocks with
  | nil => rfl
  | cons entry rest induction =>
      obtain ⟨name, block⟩ := entry
      rw [closeInOrder]
      cases closeIfOpen block with
      | error fault => rfl
      | ok after => simp [Attempt.embed, induction]

/-- Close all open blocks in the order in which they were opened. The first one
that is out of balance is reported, and it and those after it stay as they are. -/
def closeBlocks (module : SourceModule) : Attempt LayoutFault SourceModule Unit :=
  let closing := closeInOrder module.blocks.entries
  ⟨{ module with
      blocks :=
        { entries := closing.state
          distinct := by
            rw [names_closeInOrder]
            exact module.blocks.distinct } },
    closing.answer⟩

def partText (module : SourceModule) : DefinitionPart → String
  | .buffer label => (module.sections.get label).text
  | .namespaces => "\n".intercalate (module.blocks.values.map NamespaceBlock.text)

def definitionTexts (module : SourceModule) : List String :=
  generatedNote :: "\n".intercalate module.importLines :: (module.sections.get .preamble).text ::
    DefinitionPart.order.map module.partText

def layOut (module : SourceModule) : String :=
  "\n\n".intercalate (module.definitionTexts.filter (· ≠ ""))

def typeDefinitions (module : SourceModule) : Attempt LayoutFault SourceModule String :=
  let closing := module.closeBlocks
  closing.map fun _ => closing.state.layOut

end SourceModule

end TypedModules
