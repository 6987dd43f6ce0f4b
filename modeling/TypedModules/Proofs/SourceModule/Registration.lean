import TypedModules.Proofs.SourceModule.Records

/-! # What a run registers

The runtime stub is made of what was registered: inflections, events, callables
and enumerations in the order of their contributions, and the first service. It
does not matter what is written to the buffers as such.
-/

namespace TypedModules

namespace Contribution

def event? : Contribution → Option EventRecord
  | event name fullName => some ⟨name, fullName⟩
  | _ => none

def inflection? : Contribution → Option Inflection
  | inflection registered => some registered
  | _ => none

def addedService? : Contribution → Option String
  | service fullName => some fullName
  | furtherService fullName => some fullName
  | _ => none

end Contribution

def addedServices (calls : List ModuleCall) : List String :=
  (contributionsIn .services calls).filterMap (·.addedService?)

theorem mem_addedServices_iff {calls : List ModuleCall} {fullName : String} :
    fullName ∈ addedServices calls ↔
      .contribute (.service fullName) ∈ calls ∨ .contribute (.furtherService fullName) ∈ calls := by
  simp only [addedServices, List.mem_filterMap, mem_contributionsIn_iff]
  constructor
  · rintro ⟨contribution, ⟨called, -⟩, added⟩
    cases contribution with
    | service other | furtherService other =>
        cases added
        simp [called]
    | _ => cases added
  · rintro (called | called)
    · exact ⟨.service fullName, ⟨called, rfl⟩, rfl⟩
    · exact ⟨.furtherService fullName, ⟨called, rfl⟩, rfl⟩

namespace SourceModule

theorem performAll_registered {α : Type} (workingDirectory : String) (home : Namespace)
    {category : Category} (notBlocks : category ≠ .blocks) {registered : SourceModule → List α}
    {registration? : Contribution → Option α} (new : registered { home } = [])
    (congr : ∀ {module other}, AgreesOn category module other →
      registered module = registered other)
    (step : ∀ {module contribution}, contribution.category = category →
      registered (module.contribute workingDirectory contribution).state =
        registered module ++ (registration? contribution).toList)
    (calls : List ModuleCall) :
    registered (({ home } : SourceModule).performAll workingDirectory calls).1 =
      (contributionsIn category calls).filterMap registration? := by
  let Holds (module : SourceModule) (past : List Contribution) : Prop :=
    registered module = past.filterMap registration?
  have respects : ∀ {module other past}, AgreesOn category module other → Holds other past →
      Holds module past := fun agree holds => (congr agree).trans holds
  have continues : ∀ {module past contribution}, contribution.category = category →
      Holds module past →
      Holds (module.contribute workingDirectory contribution).state (past ++ [contribution]) := by
    intro module past contribution concerned holds
    have last : [contribution].filterMap registration? = (registration? contribution).toList := by
      cases found : registration? contribution <;> simp [found]
    have before : registered module = past.filterMap registration? := holds
    change registered _ = _
    rw [step concerned, before, List.filterMap_append, last]
  have concerned : ∀ contribution ∈ contributionsIn category calls,
      contribution.category = category :=
    fun _ member => (mem_contributionsIn_iff.mp member).2
  have start : Holds { home } [] := new
  exact performAll_induction workingDirectory notBlocks Holds respects continues calls concerned
    start

section Lists

variable (workingDirectory : String) (home : Namespace) (calls : List ModuleCall)

theorem events_performAll :
    (({ home } : SourceModule).performAll workingDirectory calls).1.events =
      (contributionsIn .events calls).filterMap (·.event?) := by
  refine performAll_registered workingDirectory home (by decide) rfl
    (fun agree => agree.events rfl) ?_ calls
  intro module contribution concerned
  cases contribution with
  | event name fullName => rfl
  | write label call => exact (List.append_nil _).symm
  | _ => cases concerned

theorem inflections_performAll :
    (({ home } : SourceModule).performAll workingDirectory calls).1.inflections =
      (contributionsIn .inflections calls).filterMap (·.inflection?) := by
  refine performAll_registered workingDirectory home (by decide) rfl
    (fun agree => agree.inflections rfl) ?_ calls
  intro module contribution concerned
  cases contribution with
  | inflection registered => rfl
  | write label call => exact (List.append_nil _).symm
  | _ => cases concerned

theorem actionNames_performAll :
    (({ home } : SourceModule).performAll workingDirectory calls).1.actionNames =
      ((contributionsIn .callables calls).filterMap (·.callable?)).map (·.name) := by
  rw [List.map_filterMap]
  refine performAll_registered workingDirectory home (by decide) rfl
    (fun agree => agree.actionNames rfl) ?_ calls
  intro module contribution concerned
  cases contribution with
  | callable kind name parameters returns => rfl
  | write label call => exact (List.append_nil _).symm
  | _ => cases concerned

theorem named_performAll :
    (EnumerationRecord.named
        (({ home } : SourceModule).performAll workingDirectory calls).1.enumerations).map
          EnumerationRecord.declared =
      (contributionsIn .namedEnumerations calls).filterMap (·.enumeration?) := by
  let registered (module : SourceModule) : List Enumeration :=
    (EnumerationRecord.named module.enumerations).map EnumerationRecord.declared
  have congr : ∀ {module other}, AgreesOn .namedEnumerations module other →
      registered module = registered other :=
    fun agree => congrArg (List.map EnumerationRecord.declared) (agree.named rfl)
  change registered _ = _
  refine performAll_registered workingDirectory home (by decide) rfl congr ?_ calls
  intro module contribution concerned
  cases contribution with
  | enumeration fullName enumeration =>
      rw [contribute_enumeration]
      simp [registered, state_addEnumeration, setSection, EnumerationRecord.named,
        EnumerationRecord.isInline, EnumerationRecord.declared, Contribution.enumeration?]
  | write label call => exact (List.append_nil _).symm
  | _ => cases concerned

end Lists

def HasFirstService (module : SourceModule) (past : List Contribution) : Prop :=
  module.serviceNames.head? = (past.filterMap (·.addedService?)).head? ∧
    ((∀ fullName, .furtherService fullName ∉ past) → module.serviceNames.length ≤ 1)

theorem HasFirstService.step {module : SourceModule} {workingDirectory : String}
    {past : List Contribution} {contribution : Contribution}
    (concerned : contribution.category = .services) (held : HasFirstService module past) :
    HasFirstService (module.contribute workingDirectory contribution).state
      (past ++ [contribution]) := by
  rcases held with ⟨first, single⟩
  have singleBefore : (∀ fullName, .furtherService fullName ∉ past ++ [contribution]) →
      module.serviceNames.length ≤ 1 :=
    fun none => single fun fullName member => none fullName (List.mem_append_left _ member)
  rw [HasFirstService, List.filterMap_append, List.head?_append, ← first]
  cases contribution with
  | service fullName =>
      rw [contribute_service]
      cases names : module.serviceNames with
      | nil => exact ⟨by simp [addService, names, Contribution.addedService?],
          fun _ => by simp [addService, names]⟩
      | cons existing rest => exact ⟨by simp [names], singleBefore⟩
  | furtherService fullName =>
      have added : (module.addService fullName).serviceNames =
          module.serviceNames ++ [fullName] := rfl
      have given : .furtherService fullName ∈ past ++ [Contribution.furtherService fullName] := by
        simp
      refine ⟨?_, fun asked => absurd given (asked fullName)⟩
      change (module.addService fullName).serviceNames.head? = _
      rw [added, List.head?_append]
      rfl
  | write label call => exact ⟨(Option.or_none).symm, singleBefore⟩
  | _ => cases concerned

theorem hasFirstService_performAll (workingDirectory : String) (home : Namespace)
    (calls : List ModuleCall) :
    HasFirstService (({ home } : SourceModule).performAll workingDirectory calls).1
      (contributionsIn .services calls) := by
  have respects : ∀ {module other past}, AgreesOn .services module other →
      HasFirstService other past → HasFirstService module past := by
    intro module other past agree held
    rwa [HasFirstService, agree.serviceNames rfl]
  have concerned : ∀ contribution ∈ contributionsIn .services calls,
      contribution.category = .services :=
    fun _ member => (mem_contributionsIn_iff.mp member).2
  have start : HasFirstService { home } [] := ⟨rfl, by simp⟩
  exact performAll_induction workingDirectory (by decide) HasFirstService respects
    HasFirstService.step calls concerned start

section Services

variable {workingDirectory : String} {home : Namespace} {calls : List ModuleCall}

theorem serviceNames_performAll
    (single : (({ home } : SourceModule).performAll workingDirectory calls).1.serviceNames.length ≤
      1) :
    (({ home } : SourceModule).performAll workingDirectory calls).1.serviceNames =
      (addedServices calls).head?.toList := by
  have first := (hasFirstService_performAll workingDirectory home calls).1
  rw [addedServices, ← first]
  match names : (({ home } : SourceModule).performAll workingDirectory calls).1.serviceNames with
  | [] => rfl
  | [fullName] => rfl
  | _ :: _ :: _ => simp [names] at single

theorem length_serviceNames_performAll
    (asked : ∀ fullName, ModuleCall.contribute (.furtherService fullName) ∉ calls) :
    (({ home } : SourceModule).performAll workingDirectory calls).1.serviceNames.length ≤ 1 :=
  (hasFirstService_performAll workingDirectory home calls).2 fun fullName member =>
    asked fullName (mem_contributionsIn_iff.mp member).1

/-- Only the first service is accepted. -/
theorem contribute_service_refused_iff (fullName : String) :
    (∃ fault, ((({ home } : SourceModule).performAll workingDirectory calls).1.contribute
        workingDirectory (.service fullName)).answer = .error fault) ↔
      addedServices calls ≠ [] := by
  have first := (hasFirstService_performAll workingDirectory home calls).1
  rw [contribute_service, Ne, ← List.head?_eq_none_iff, addedServices, ← first]
  cases (({ home } : SourceModule).performAll workingDirectory calls).1.serviceNames with
  | nil => simp
  | cons existing rest => simp

end Services

end SourceModule

end TypedModules
