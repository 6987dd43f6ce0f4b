import TypedModules.Proofs.SourceModule.Effect

/-! # Categories of contributions

Every contribution belongs to one category. It reads and writes only what the
module keeps for that category, so contributions of different categories may
arrive in any order.
-/

namespace TypedModules

/-- The kinds of content that are independent of each other. -/
inductive Category where
  | imports
  | preamble
  | services
  | types
  | namedEnumerations
  | inlineEnumerations
  | aspects
  | classes
  | events
  | callables
  | blocks
  | inflections
  deriving DecidableEq

namespace Section

def category : Section → Category
  | preamble => .preamble
  | services => .services
  | types => .types
  | enumerations => .namedEnumerations
  | inlineEnumerations => .inlineEnumerations
  | aspects => .aspects
  | classes => .classes
  | events => .events
  | actions => .callables

end Section

namespace Contribution

def category : Contribution → Category
  | importOf _ => .imports
  | preamble _ => .preamble
  | typeAlias _ _ _ => .types
  | className _ _ => .classes
  | event _ _ => .events
  | service _ => .services
  | furtherService _ => .services
  | inflection _ => .inflections
  | callable _ _ _ _ => .callables
  | enumeration _ _ => .namedEnumerations
  | inlineEnumeration _ _ _ => .inlineEnumerations
  | write label _ => label.category
  | block _ _ => .blocks
  | heldBlock _ _ => .blocks

end Contribution

namespace Sections

theorem eq_of_get {first second : Sections} (same : ∀ label, first.get label = second.get label) :
    first = second := by
  cases first
  cases second
  congr
  · exact same .preamble
  · exact same .services
  · exact same .types
  · exact same .enumerations
  · exact same .inlineEnumerations
  · exact same .aspects
  · exact same .classes
  · exact same .events
  · exact same .actions

end Sections

namespace SourceModule

variable {category : Category} {module other third : SourceModule}

/-- Two modules that can not be told apart by what belongs to a category. The
records of enumerations share one list, of which each category sees its own
ones. -/
structure AgreesOn (category : Category) (module other : SourceModule) : Prop where
  home : module.home = other.home
  buffers : ∀ label : Section, label.category = category →
    module.sections.get label = other.sections.get label
  imports : category = .imports → module.imports = other.imports
  serviceNames : category = .services → module.serviceNames = other.serviceNames
  typeNames : category = .types → module.typeNames = other.typeNames
  named : category = .namedEnumerations →
    EnumerationRecord.named module.enumerations = EnumerationRecord.named other.enumerations
  inline : category = .inlineEnumerations →
    module.enumerations.filter EnumerationRecord.isInline =
      other.enumerations.filter EnumerationRecord.isInline
  classNames : category = .classes → module.classNames = other.classNames
  events : category = .events → module.events = other.events
  actionNames : category = .callables → module.actionNames = other.actionNames
  blocks : category = .blocks → module.blocks = other.blocks
  inflections : category = .inflections → module.inflections = other.inflections

namespace AgreesOn

theorem refl (category : Category) (module : SourceModule) : AgreesOn category module module := by
  constructor <;> intros <;> rfl

theorem symm (agree : AgreesOn category module other) : AgreesOn category other module where
  home := agree.home.symm
  buffers label inCategory := (agree.buffers label inCategory).symm
  imports same := (agree.imports same).symm
  serviceNames same := (agree.serviceNames same).symm
  typeNames same := (agree.typeNames same).symm
  named same := (agree.named same).symm
  inline same := (agree.inline same).symm
  classNames same := (agree.classNames same).symm
  events same := (agree.events same).symm
  actionNames same := (agree.actionNames same).symm
  blocks same := (agree.blocks same).symm
  inflections same := (agree.inflections same).symm

theorem trans (first : AgreesOn category module other) (second : AgreesOn category other third) :
    AgreesOn category module third where
  home := first.home.trans second.home
  buffers label inCategory :=
    (first.buffers label inCategory).trans (second.buffers label inCategory)
  imports same := (first.imports same).trans (second.imports same)
  serviceNames same := (first.serviceNames same).trans (second.serviceNames same)
  typeNames same := (first.typeNames same).trans (second.typeNames same)
  named same := (first.named same).trans (second.named same)
  inline same := (first.inline same).trans (second.inline same)
  classNames same := (first.classNames same).trans (second.classNames same)
  events same := (first.events same).trans (second.events same)
  actionNames same := (first.actionNames same).trans (second.actionNames same)
  blocks same := (first.blocks same).trans (second.blocks same)
  inflections same := (first.inflections same).trans (second.inflections same)

theorem setSection_left (agree : AgreesOn category module other) (label : Section)
    (different : label.category ≠ category) (buffer : LineBuffer) :
    AgreesOn category (module.setSection label buffer) other :=
  { agree with
    buffers := fun read inCategory => by
      have otherSection : read ≠ label := by
        rintro rfl
        exact different inCategory
      rw [setSection, Sections.get_set_other module.sections buffer otherSection]
      exact agree.buffers read inCategory }

theorem setSection (agree : AgreesOn category module other) (label : Section)
    (buffer : LineBuffer) :
    AgreesOn category (module.setSection label buffer) (other.setSection label buffer) :=
  { agree with
    buffers := fun read inCategory => by
      by_cases same : read = label
      · subst read
        simp [SourceModule.setSection]
      · rw [SourceModule.setSection, SourceModule.setSection,
          Sections.get_set_other _ _ same, Sections.get_set_other _ _ same]
        exact agree.buffers read inCategory }

theorem addLine (label : Section) (agree : AgreesOn label.category module other)
    (line : String) :
    AgreesOn label.category (module.addLine label line) (other.addLine label line) := by
  rw [SourceModule.addLine, SourceModule.addLine, agree.buffers label rfl]
  exact agree.setSection label _

theorem performOn (label : Section) (agree : AgreesOn label.category module other)
    (call : BufferCall) :
    (module.performOn label call).answer = (other.performOn label call).answer ∧
      AgreesOn label.category (module.performOn label call).state
        (other.performOn label call).state := by
  have sameBuffer := agree.buffers label rfl
  constructor
  · rw [answer_performOn, answer_performOn, sameBuffer]
  · rw [state_performOn, state_performOn, sameBuffer]
    exact agree.setSection label _

theorem addService (agree : AgreesOn .services module other) (fullName : String) :
    AgreesOn .services (module.addService fullName) (other.addService fullName) :=
  { AgreesOn.addLine .services agree _ with
    serviceNames := fun same => congrArg (· ++ [fullName]) (agree.serviceNames same) }

theorem blockOrNew (agree : AgreesOn .blocks module other) (name : String) :
    module.blockOrNew name = other.blockOrNew name := by
  rw [SourceModule.blockOrNew, SourceModule.blockOrNew, agree.blocks rfl]

end AgreesOn

/-! ## One contribution -/

theorem contribute_agreesOn_of_ne (workingDirectory : String) (module : SourceModule)
    {contribution : Contribution} (different : contribution.category ≠ category) :
    AgreesOn category (module.contribute workingDirectory contribution).state module := by
  have unchanged := AgreesOn.refl category module
  cases contribution with
  | importOf imported =>
      rw [contribute_importOf]
      cases imported.specifier workingDirectory module.home.localDirectory with
      | error fault => exact unchanged
      | ok specifier =>
          exact { unchanged with imports := fun same => absurd same.symm different }
  | preamble code => exact unchanged.setSection_left .preamble different _
  | typeAlias fullName name definition =>
      exact { unchanged.setSection_left .types different _ with
        typeNames := fun same => absurd same.symm different }
  | className name fullName =>
      exact { unchanged with classNames := fun same => absurd same.symm different }
  | event name fullName =>
      exact { unchanged with events := fun same => absurd same.symm different }
  | service fullName =>
      rw [contribute_service]
      cases module.serviceNames with
      | nil =>
          exact { unchanged.setSection_left .services different _ with
            serviceNames := fun same => absurd same.symm different }
      | cons existing rest => exact unchanged
  | furtherService fullName =>
      exact { unchanged.setSection_left .services different _ with
        serviceNames := fun same => absurd same.symm different }
  | inflection inflection =>
      exact { unchanged with inflections := fun same => absurd same.symm different }
  | callable kind name parameters returns =>
      have commented := unchanged.setSection_left .actions different
        ((module.sections.get .actions).add ("// " ++ kind.word))
      exact { commented.setSection_left .actions different _ with
        actionNames := fun same => absurd same.symm different }
  | enumeration fullName enumeration =>
      rw [contribute_enumeration, state_addEnumeration]
      refine AgreesOn.setSection_left ?_ .enumerations different _
      -- The list of records grows for both categories, but one of them filters the
      -- new record out.
      exact { unchanged with
        named := fun same => absurd same.symm different
        inline := fun _ => by simp [EnumerationRecord.isInline] }
  | inlineEnumeration entity property members =>
      rw [contribute_inlineEnumeration, state_addEnumeration]
      refine AgreesOn.setSection_left ?_ .inlineEnumerations different _
      exact { unchanged with
        named := fun _ => by
          simp [EnumerationRecord.named, EnumerationRecord.isInline, EnumerationRecord.ofProperty]
        inline := fun same => absurd same.symm different }
  | write label call => exact unchanged.setSection_left label different _
  | block name call =>
      rw [contribute_block]
      split
      · exact { unchanged with blocks := fun same => absurd same.symm different }
      · cases call <;> exact { unchanged with blocks := fun same => absurd same.symm different }
  | heldBlock name call =>
      rw [contribute_heldBlock]
      cases module.blocks.find? name with
      | none => exact unchanged
      | some block => exact { unchanged with blocks := fun same => absurd same.symm different }

/-- What a contribution answers and leaves behind in its category depends on that
category only. -/
theorem contribute_congr (workingDirectory : String) {contribution : Contribution}
    (agree : AgreesOn contribution.category module other) :
    (module.contribute workingDirectory contribution).answer =
        (other.contribute workingDirectory contribution).answer ∧
      AgreesOn contribution.category (module.contribute workingDirectory contribution).state
        (other.contribute workingDirectory contribution).state := by
  cases contribution with
  | importOf imported =>
      have located : imported.specifier workingDirectory module.home.localDirectory =
          imported.specifier workingDirectory other.home.localDirectory := by
        rw [agree.home]
      rw [contribute_importOf, contribute_importOf, located]
      cases imported.specifier workingDirectory other.home.localDirectory with
      | error fault => exact ⟨rfl, agree⟩
      | ok specifier =>
          refine ⟨rfl, { agree with imports := fun same => ?_ }⟩
          simp only [agree.imports same]
  | preamble code => exact ⟨rfl, AgreesOn.addLine .preamble agree code⟩
  | typeAlias fullName name definition =>
      exact ⟨rfl, { AgreesOn.addLine .types agree _ with
        typeNames := fun same => congrArg (·.put name fullName) (agree.typeNames same) }⟩
  | className name fullName =>
      exact ⟨rfl, { agree with
        classNames := fun same => congrArg (·.put name fullName) (agree.classNames same) }⟩
  | event name fullName =>
      exact ⟨rfl, { agree with
        events := fun same =>
          congrArg (fun events => events ++ [EventRecord.mk name fullName]) (agree.events same) }⟩
  | service fullName =>
      rw [contribute_service, contribute_service, agree.serviceNames rfl]
      cases other.serviceNames with
      | nil => exact ⟨rfl, agree.addService fullName⟩
      | cons existing rest =>
          refine ⟨?_, agree⟩
          rw [agree.home]
  | furtherService fullName => exact ⟨rfl, AgreesOn.addService agree fullName⟩
  | inflection inflection =>
      exact ⟨rfl, { agree with
        inflections := fun same => congrArg (· ++ [inflection]) (agree.inflections same) }⟩
  | callable kind name parameters returns =>
      have commented := AgreesOn.addLine .actions agree ("// " ++ kind.word)
      exact ⟨rfl, { AgreesOn.addLine .actions commented _ with
        actionNames := fun same => congrArg (· ++ [name]) (agree.actionNames same) }⟩
  | enumeration fullName enumeration =>
      rw [contribute_enumeration, contribute_enumeration]
      apply AgreesOn.performOn .enumerations
      exact { agree with
        named := fun same => by
          have records := agree.named same
          simp only [EnumerationRecord.named, List.filter_append] at records ⊢
          rw [records]
        inline := nofun }
  | inlineEnumeration entity property members =>
      rw [contribute_inlineEnumeration, contribute_inlineEnumeration]
      apply AgreesOn.performOn .inlineEnumerations
      exact { agree with
        named := nofun
        inline := fun same => by
          have records := agree.inline same
          simp only [List.filter_append] at records ⊢
          rw [records] }
  | write label call => exact AgreesOn.performOn label agree call
  | block name call =>
      rw [contribute_block, contribute_block, AgreesOn.blockOrNew agree name, agree.blocks rfl]
      -- A closed block is refused, and any other one is kept as it becomes.
      split
      · exact ⟨rfl, { agree with blocks := fun _ => rfl }⟩
      · cases call <;> exact ⟨rfl, { agree with blocks := fun _ => rfl }⟩
  | heldBlock name call =>
      rw [contribute_heldBlock, contribute_heldBlock, agree.blocks rfl]
      cases other.blocks.find? name with
      | none => exact ⟨rfl, agree⟩
      | some block => exact ⟨rfl, { agree with blocks := fun _ => rfl }⟩

end SourceModule

end TypedModules
