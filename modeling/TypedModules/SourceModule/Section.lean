import TypedModules.Layout.LineBuffer

/-! # Sections

The content of a module is collected in one buffer for each kind of
declaration, so that contributions may arrive in any order.
-/

namespace TypedModules

inductive Section where
  | preamble
  | services
  | types
  | enumerations
  | inlineEnumerations
  | aspects
  | classes
  | events
  | actions
  deriving DecidableEq

structure Sections where
  preamble : LineBuffer := {}
  services : LineBuffer := {}
  types : LineBuffer := {}
  enumerations : LineBuffer := {}
  inlineEnumerations : LineBuffer := {}
  aspects : LineBuffer := {}
  classes : LineBuffer := {}
  events : LineBuffer := {}
  actions : LineBuffer := {}
  deriving DecidableEq

namespace Sections

def get (sections : Sections) : Section → LineBuffer
  | .preamble => sections.preamble
  | .services => sections.services
  | .types => sections.types
  | .enumerations => sections.enumerations
  | .inlineEnumerations => sections.inlineEnumerations
  | .aspects => sections.aspects
  | .classes => sections.classes
  | .events => sections.events
  | .actions => sections.actions

def set (sections : Sections) (label : Section) (buffer : LineBuffer) : Sections :=
  match label with
  | .preamble => { sections with preamble := buffer }
  | .services => { sections with services := buffer }
  | .types => { sections with types := buffer }
  | .enumerations => { sections with enumerations := buffer }
  | .inlineEnumerations => { sections with inlineEnumerations := buffer }
  | .aspects => { sections with aspects := buffer }
  | .classes => { sections with classes := buffer }
  | .events => { sections with events := buffer }
  | .actions => { sections with actions := buffer }

@[simp]
theorem get_set_same (sections : Sections) (label : Section) (buffer : LineBuffer) :
    (sections.set label buffer).get label = buffer := by
  cases label <;> rfl

theorem get_set_other (sections : Sections) {label other : Section} (buffer : LineBuffer)
    (different : other ≠ label) : (sections.set label buffer).get other = sections.get other := by
  cases label <;> cases other <;> first | rfl | exact absurd rfl different

theorem set_get (sections : Sections) (label : Section) :
    sections.set label (sections.get label) = sections := by
  cases label <;> rfl

theorem set_comm (sections : Sections) {label other : Section} (first second : LineBuffer)
    (different : other ≠ label) :
    (sections.set label first).set other second = (sections.set other second).set label first := by
  cases label <;> cases other <;> first | rfl | exact absurd rfl different

end Sections

end TypedModules
