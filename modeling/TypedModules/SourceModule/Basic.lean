import TypedModules.Layout.NamespaceBlock
import TypedModules.Literal
import TypedModules.Namespace
import TypedModules.Registry
import TypedModules.SourceModule.Section
import TypedModules.Text.Quoted

/-! # Source modules

A source module is assembled from contributions. Beside the buffers of its
sections it keeps what the runtime stub is made of: the names of the exports and
what each of them stands for.
-/

namespace TypedModules

structure EnumerationRecord where
  name : String
  fullName : String
  members : List (String × Scalar)
  property : Option String := none
  deriving DecidableEq

namespace EnumerationRecord

/-- The record of an enumeration on a property. It is addressed through its
entity, under both names. -/
def ofProperty (entity property : String) (members : List (String × Scalar)) :
    EnumerationRecord where
  name := entity ++ "." ++ property
  fullName := entity ++ "." ++ property
  members := members
  property := some property

def isInline (record : EnumerationRecord) : Bool :=
  record.property.isSome

def named (records : List EnumerationRecord) : List EnumerationRecord :=
  records.filter fun record => !record.isInline

end EnumerationRecord

structure EventRecord where
  name : String
  fullName : String
  deriving DecidableEq

/-- The names of an entity: for one of it, for many, and the one it is defined by. -/
structure Inflection where
  singular : String
  plural : String
  entity : String
  deriving DecidableEq

structure SourceModule where
  home : Namespace
  imports : Registry Namespace := .empty
  sections : Sections := {}
  blocks : Registry NamespaceBlock := .empty
  serviceNames : List String := []
  enumerations : List EnumerationRecord := []
  actionNames : List String := []
  events : List EventRecord := []
  inflections : List Inflection := []
  classNames : Registry String := .empty
  typeNames : Registry String := .empty
  deriving DecidableEq

namespace SourceModule

def service? (module : SourceModule) : Option String :=
  module.serviceNames.head?

def describeServices (module : SourceModule) : String :=
  "ServicesSection(names=" ++ Text.quotedList module.serviceNames ++ ")"

def setSection (module : SourceModule) (label : Section) (buffer : LineBuffer) : SourceModule :=
  { module with sections := module.sections.set label buffer }

def addLine (module : SourceModule) (label : Section) (line : String) : SourceModule :=
  module.setSection label ((module.sections.get label).add line)

end SourceModule

end TypedModules
