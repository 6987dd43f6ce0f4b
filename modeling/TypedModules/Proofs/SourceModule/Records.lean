import TypedModules.Proofs.Layout.Enumeration
import TypedModules.Proofs.Literal.Limit
import TypedModules.Proofs.SourceModule.Run

/-! # Declarations and records in step

What is written to the buffers of enumerations, callables and services is kept
as records too, from which the runtime stub is made. As long as nothing else is
written to these buffers, declarations and records tell the same.
-/

namespace TypedModules

/-! ## What is contributed -/

structure InlineEnumeration where
  entity : String
  property : String
  members : List (String × Scalar)

namespace InlineEnumeration

def declared (inline : InlineEnumeration) : Enumeration :=
  ⟨inline.entity ++ "_" ++ inline.property, inline.members⟩

def recorded (inline : InlineEnumeration) : EnumerationRecord where
  name := inline.entity ++ "." ++ inline.property
  fullName := inline.entity ++ "." ++ inline.property
  members := inline.members
  property := some inline.property

end InlineEnumeration

structure DeclaredCallable where
  kind : CallableKind
  name : String
  parameters : List Parameter
  returns : String

namespace DeclaredCallable

def lines (callable : DeclaredCallable) : List String :=
  ["// " ++ callable.kind.word,
    "export declare const " ++ Callable.text
      { name := some callable.name
        parameters := callable.parameters
        returns := callable.returns } ++ ";"]

end DeclaredCallable

namespace EnumerationRecord

def declared (record : EnumerationRecord) : Enumeration :=
  ⟨record.name, record.members⟩

end EnumerationRecord

namespace Contribution

def enumeration? : Contribution → Option Enumeration
  | enumeration _ declared => some declared
  | _ => none

def inlineEnumeration? : Contribution → Option InlineEnumeration
  | inlineEnumeration entity property members => some ⟨entity, property, members⟩
  | _ => none

def callable? : Contribution → Option DeclaredCallable
  | callable kind name parameters returns => some ⟨kind, name, parameters, returns⟩
  | _ => none

def service? : Contribution → Option String
  | service fullName => some fullName
  | _ => none

def IsWrite : Contribution → Prop
  | write _ _ => True
  | _ => False

end Contribution

namespace SourceModule

variable {module : SourceModule} {workingDirectory : String}

/-! ## Categories in step -/

def NamedInStep (module : SourceModule) (past : List Contribution) : Prop :=
  module.sections.get .enumerations = LineBuffer.printed true (past.filterMap (·.enumeration?)) ∧
    (EnumerationRecord.named module.enumerations).map EnumerationRecord.declared =
      past.filterMap (·.enumeration?)

def InlineInStep (module : SourceModule) (past : List Contribution) : Prop :=
  module.sections.get .inlineEnumerations =
      LineBuffer.printed false ((past.filterMap (·.inlineEnumeration?)).map (·.declared)) ∧
    module.enumerations.filter EnumerationRecord.isInline =
      (past.filterMap (·.inlineEnumeration?)).map (·.recorded)

def CallablesInStep (module : SourceModule) (past : List Contribution) : Prop :=
  module.sections.get .actions = { lines := (past.filterMap (·.callable?)).flatMap (·.lines) } ∧
    module.actionNames = (past.filterMap (·.callable?)).map (·.name)

def ServicesInStep (module : SourceModule) (past : List Contribution) : Prop :=
  module.sections.get .services = { lines := module.serviceNames.map serviceDeclaration } ∧
    ((∀ fullName, .furtherService fullName ∉ past) →
      module.serviceNames = (past.filterMap (·.service?)).head?.toList)

/-! ## Each contribution keeps its category in step -/

theorem NamedInStep.step {past : List Contribution} {contribution : Contribution}
    (concerned : contribution.category = .namedEnumerations) (notWritten : ¬contribution.IsWrite)
    (inStep : NamedInStep module past) :
    NamedInStep (module.contribute workingDirectory contribution).state
      (past ++ [contribution]) := by
  cases contribution with
  | enumeration fullName declared =>
      rcases inStep with ⟨buffer, records⟩
      have added : (past ++ [Contribution.enumeration fullName declared]).filterMap
          (·.enumeration?) = past.filterMap (·.enumeration?) ++ [declared] :=
        List.filterMap_append
      rw [NamedInStep, added, LineBuffer.printed_append, ← buffer, ← records,
        contribute_enumeration, state_addEnumeration]
      refine ⟨rfl, ?_⟩
      simp [setSection, EnumerationRecord.named, EnumerationRecord.isInline,
        EnumerationRecord.declared]
  | write label call => exact absurd trivial notWritten
  | _ => cases concerned

theorem InlineInStep.step {past : List Contribution} {contribution : Contribution}
    (concerned : contribution.category = .inlineEnumerations)
    (notWritten : ¬contribution.IsWrite) (inStep : InlineInStep module past) :
    InlineInStep (module.contribute workingDirectory contribution).state
      (past ++ [contribution]) := by
  cases contribution with
  | inlineEnumeration entity property members =>
      rcases inStep with ⟨buffer, records⟩
      have added : (past ++ [Contribution.inlineEnumeration entity property members]).filterMap
          (·.inlineEnumeration?) =
            past.filterMap (·.inlineEnumeration?) ++ [⟨entity, property, members⟩] :=
        List.filterMap_append
      rw [InlineInStep, added, List.map_append, List.map_append, List.map_singleton,
        LineBuffer.printed_append, ← buffer, ← records, contribute_inlineEnumeration,
        state_addEnumeration]
      refine ⟨rfl, ?_⟩
      simp [setSection, EnumerationRecord.isInline, EnumerationRecord.ofProperty,
        InlineEnumeration.recorded]
  | write label call => exact absurd trivial notWritten
  | _ => cases concerned

theorem CallablesInStep.step {past : List Contribution} {contribution : Contribution}
    (concerned : contribution.category = .callables) (notWritten : ¬contribution.IsWrite)
    (inStep : CallablesInStep module past) :
    CallablesInStep (module.contribute workingDirectory contribution).state
      (past ++ [contribution]) := by
  cases contribution with
  | callable kind name parameters returns =>
      rcases inStep with ⟨buffer, names⟩
      have added : (past ++ [Contribution.callable kind name parameters returns]).filterMap
          (·.callable?) = past.filterMap (·.callable?) ++ [⟨kind, name, parameters, returns⟩] :=
        List.filterMap_append
      rw [CallablesInStep, added, List.flatMap_append, List.map_append, ← names,
        contribute_callable]
      refine ⟨?_, rfl⟩
      rw [get_addCallable, buffer]
      simp [LineBuffer.add, DeclaredCallable.lines]
  | write label call => exact absurd trivial notWritten
  | _ => cases concerned

theorem get_addService_of_inStep {past : List Contribution} (inStep : ServicesInStep module past)
    (fullName : String) :
    (module.addService fullName).sections.get .services =
      { lines := (module.addService fullName).serviceNames.map serviceDeclaration } := by
  rw [get_addService, inStep.1]
  simp [LineBuffer.add, addService]

theorem ServicesInStep.step {past : List Contribution} {contribution : Contribution}
    (concerned : contribution.category = .services) (notWritten : ¬contribution.IsWrite)
    (inStep : ServicesInStep module past) :
    ServicesInStep (module.contribute workingDirectory contribution).state
      (past ++ [contribution]) := by
  cases contribution with
  | service fullName =>
      have asked : (∀ further, Contribution.furtherService further ∉
            past ++ [Contribution.service fullName]) →
          module.serviceNames = (past.filterMap (·.service?)).head?.toList := by
        intro none
        exact inStep.2 fun further member => none further (List.mem_append_left _ member)
      have added : (past ++ [Contribution.service fullName]).filterMap (·.service?) =
          past.filterMap (·.service?) ++ [fullName] := List.filterMap_append
      rw [contribute_service]
      rw [ServicesInStep, added, List.head?_append]
      -- The name is taken exactly when no service was asked for before.
      cases names : module.serviceNames with
      | nil =>
          refine ⟨get_addService_of_inStep inStep fullName, fun none => ?_⟩
          have before := asked none
          rw [names] at before
          cases first : (past.filterMap (·.service?)).head? with
          | none => simp [addService, names]
          | some existing => simp [first] at before
      | cons existing rest =>
          refine ⟨inStep.1, fun none => ?_⟩
          have before := asked none
          rw [names] at before
          cases first : (past.filterMap (·.service?)).head? with
          | none => simp [first] at before
          | some earliest => simpa [first, names] using before
  | furtherService fullName =>
      refine ⟨get_addService_of_inStep inStep fullName, fun none => ?_⟩
      exact absurd (List.mem_append_right past List.mem_cons_self) (none fullName)
  | write label call => exact absurd trivial notWritten
  | _ => cases concerned

/-! ## Whole runs -/

section Runs

variable {other : SourceModule} {past : List Contribution}

theorem NamedInStep.congr (agree : AgreesOn .namedEnumerations module other)
    (inStep : NamedInStep other past) : NamedInStep module past := by
  rw [NamedInStep, agree.buffers .enumerations rfl, agree.named rfl]
  exact inStep

theorem InlineInStep.congr (agree : AgreesOn .inlineEnumerations module other)
    (inStep : InlineInStep other past) : InlineInStep module past := by
  rw [InlineInStep, agree.buffers .inlineEnumerations rfl, agree.inline rfl]
  exact inStep

theorem CallablesInStep.congr (agree : AgreesOn .callables module other)
    (inStep : CallablesInStep other past) : CallablesInStep module past := by
  rw [CallablesInStep, agree.buffers .actions rfl, agree.actionNames rfl]
  exact inStep

theorem ServicesInStep.congr (agree : AgreesOn .services module other)
    (inStep : ServicesInStep other past) : ServicesInStep module past := by
  rw [ServicesInStep, agree.buffers .services rfl, agree.serviceNames rfl]
  exact inStep

end Runs

/-- A category of a new module stays in step when none of its contributions is
written to the buffer as such. -/
theorem performAll_inStep (workingDirectory : String) (home : Namespace) {category : Category}
    (notBlocks : category ≠ .blocks) {calls : List ModuleCall}
    (notWritten : ∀ label call, ModuleCall.contribute (.write label call) ∈ calls →
      label.category ≠ category)
    {InStep : SourceModule → List Contribution → Prop}
    (congr : ∀ {module other past}, AgreesOn category module other → InStep other past →
      InStep module past)
    (step : ∀ {module past contribution}, contribution.category = category →
      ¬contribution.IsWrite → InStep module past →
      InStep (module.contribute workingDirectory contribution).state (past ++ [contribution]))
    (start : InStep { home } []) :
    InStep (({ home } : SourceModule).performAll workingDirectory calls).1
      (contributionsIn category calls) := by
  have allowed : ∀ contribution ∈ contributionsIn category calls,
      contribution.category = category ∧ ¬contribution.IsWrite := by
    intro contribution member
    rcases mem_contributionsIn_iff.mp member with ⟨called, concerned⟩
    refine ⟨concerned, ?_⟩
    cases contribution with
    | write label call => exact fun _ => notWritten label call called concerned
    | _ => exact id
  exact performAll_induction workingDirectory notBlocks InStep congr
    (fun permitted => step permitted.1 permitted.2) calls allowed start

theorem map_enumerationLine (records : List EnumerationRecord) :
    records.map enumerationLine = (records.map (·.declared)).map fun enumeration =>
      "module.exports." ++ enumeration.name ++ " = " ++
        Enumeration.objectOf enumeration.memberTexts := by
  rw [List.map_map]
  apply List.map_congr_left
  intro record _
  exact Enumeration.exportText_eq record.declared

theorem isRenderable_iff : module.IsRenderable ↔
    ∀ enumeration ∈ (EnumerationRecord.named module.enumerations).map (·.declared),
      enumeration.IsRenderable := by
  rw [List.forall_mem_map]
  rfl

/-- Declarations and runtime stub tell the same after every run in which nothing
is written to the buffers of enumerations, callables and services as such. If a value of
a named enumeration has no literal, its declaration breaks off and there is no stub. -/
theorem typeDefinitions_inStep_with_runtimeStub (workingDirectory : String) (home : Namespace)
    (calls : List ModuleCall)
    (notWritten : ∀ label call, ModuleCall.contribute (.write label call) ∈ calls →
      label ∉ [Section.enumerations, .inlineEnumerations, .actions, .services]) :
    let final := (({ home } : SourceModule).performAll workingDirectory calls).1
    let named := (contributionsIn .namedEnumerations calls).filterMap (·.enumeration?)
    let inline := (contributionsIn .inlineEnumerations calls).filterMap (·.inlineEnumeration?)
    let callables := (contributionsIn .callables calls).filterMap (·.callable?)
    let services := (contributionsIn .services calls).filterMap (·.service?)
    let stub :=
      [generatedNote, "const cds = require('@sap/cds')",
        "const csn = cds.entities('" ++ home.dotted ++ "')"] ++
      final.serviceNames.map serviceLine ++ final.aliasLines ++
      "// events" :: final.events.map eventLine ++
      "// actions" :: callables.map (fun callable => actionLine callable.name) ++
      "// enums" :: named.map fun enumeration => "module.exports." ++ enumeration.name ++ " = " ++
        Enumeration.objectOf enumeration.memberTexts
    ((EnumerationRecord.named final.enumerations).map (·.declared) = named ∧
        final.sections.get .enumerations = LineBuffer.printed true named ∧
        ((∀ enumeration ∈ named, enumeration.IsRenderable) →
          (final.sections.get .enumerations).lines = [""].intercalate
            (named.map (·.declarationLines true defaultUnit)))) ∧
      (final.enumerations.filter (·.isInline) = inline.map (·.recorded) ∧
        final.sections.get .inlineEnumerations =
          LineBuffer.printed false (inline.map (·.declared)) ∧
        ((∀ enumeration ∈ inline, enumeration.declared.IsRenderable) →
          (final.sections.get .inlineEnumerations).lines = [""].intercalate
            (inline.map (·.declared.declarationLines false defaultUnit)))) ∧
      final.sections.get .actions = { lines := callables.flatMap (·.lines) } ∧
      final.sections.get .services = { lines := final.serviceNames.map serviceDeclaration } ∧
      ((∀ fullName, ModuleCall.contribute (.furtherService fullName) ∉ calls) →
        final.serviceNames = services.head?.toList) ∧
      ((∀ enumeration ∈ named, enumeration.IsRenderable) →
        final.stubLines = stub ∧ final.runtimeStub = .ok ("\n".intercalate stub ++ "\n")) ∧
      ((∃ enumeration ∈ named, ¬enumeration.IsRenderable) →
        final.runtimeStub = .error .tooManyDigits) := by
  intro final named inline callables services stub
  have unwritten : ∀ buffer ∈ [Section.enumerations, .inlineEnumerations, .actions, .services],
      ∀ label call, ModuleCall.contribute (.write label call) ∈ calls →
        label.category ≠ buffer.category := by
    intro buffer reserved label call called concerned
    have same : label = buffer := by
      cases label <;> cases buffer <;> first | rfl | cases concerned
    subst same
    exact notWritten label call called reserved
  have namedInStep : NamedInStep final (contributionsIn .namedEnumerations calls) :=
    performAll_inStep workingDirectory home (by decide)
      (unwritten .enumerations (by decide)) NamedInStep.congr NamedInStep.step ⟨rfl, rfl⟩
  have inlineInStep : InlineInStep final (contributionsIn .inlineEnumerations calls) :=
    performAll_inStep workingDirectory home (by decide)
      (unwritten .inlineEnumerations (by decide)) InlineInStep.congr InlineInStep.step ⟨rfl, rfl⟩
  have callablesInStep : CallablesInStep final (contributionsIn .callables calls) :=
    performAll_inStep workingDirectory home (by decide)
      (unwritten .actions (by decide)) CallablesInStep.congr CallablesInStep.step ⟨rfl, rfl⟩
  have servicesInStep : ServicesInStep final (contributionsIn .services calls) :=
    performAll_inStep workingDirectory home (by decide)
      (unwritten .services (by decide)) ServicesInStep.congr ServicesInStep.step
      ⟨rfl, fun _ => rfl⟩
  rcases namedInStep with ⟨namedBuffer, namedRecords⟩
  rcases inlineInStep with ⟨inlineBuffer, inlineRecords⟩
  rcases callablesInStep with ⟨callableBuffer, callableNames⟩
  rcases servicesInStep with ⟨serviceBuffer, onlyService⟩
  have writable : final.IsRenderable ↔ ∀ enumeration ∈ named, enumeration.IsRenderable := by
    rw [isRenderable_iff, namedRecords]
  have sameLines : final.stubLines = stub := by
    have located : final.home = home := home_performAll workingDirectory calls { home }
    have actions : callables.map (fun callable => actionLine callable.name) =
        final.actionNames.map actionLine := by
      rw [callableNames, List.map_map]
      rfl
    have enumerations := map_enumerationLine (EnumerationRecord.named final.enumerations)
    rw [namedRecords] at enumerations
    unfold stubLines
    rw [enumerations, located, ← actions]
  refine ⟨⟨namedRecords, namedBuffer, fun renderable => ?_⟩,
    ⟨inlineRecords, inlineBuffer, fun renderable => ?_⟩, callableBuffer, serviceBuffer, ?_,
    fun renderable => ⟨sameLines, ?_⟩, fun unrenderable => ?_⟩
  · rw [namedBuffer, LineBuffer.printed_eq true renderable]
  · rw [inlineBuffer, LineBuffer.printed_eq false (List.forall_mem_map.mpr renderable),
      List.map_map]
    rfl
  · intro noFurther
    apply onlyService
    intro fullName member
    exact noFurther fullName (mem_contributionsIn_iff.mp member).1
  · rw [runtimeStub, if_pos (writable.mpr renderable), sameLines]
  · rw [runtimeStub, if_neg]
    intro all
    rcases unrenderable with ⟨enumeration, isNamed, unrenderable⟩
    exact unrenderable (writable.mp all enumeration isNamed)

/-- An inline enumeration and a refused service leave no line in the stub. -/
theorem typeDefinitions_inStep_with_runtimeStub_of_shop :
    let calls : List ModuleCall :=
      [.contribute (.inlineEnumeration "Books" "genre" [("horror", .text "h")]),
        .contribute (.service "shop.S"), .typeDefinitions,
        .contribute (.enumeration "shop.State" ⟨"State", [("open", .integer 1)]⟩),
        .contribute (.service "shop.T"),
        .contribute (.callable .action "order" [⟨"id", "string"⟩] "any")]
    let final :=
      (({ home := ⟨["shop"], by decide⟩ } : SourceModule).performAll "/" calls).1
    (∀ label call, ModuleCall.contribute (.write label call) ∈ calls →
      label ∉ [Section.enumerations, .inlineEnumerations, .actions, .services]) ∧
    (final.sections.get .enumerations).lines =
        ["// enum", "export const State = \x7b", "  open: 1,", "\x7d as const;",
          "export type State = 1;"] ∧
      final.serviceNames = ["shop.S"] ∧
      final.stubLines =
        [generatedNote, "const cds = require('@sap/cds')", "const csn = cds.entities('shop')",
          "module.exports = \x7b name: 'shop.S' \x7d", "// events", "// actions",
          "module.exports.order = 'order'", "// enums",
          "module.exports.State = \x7b open: 1 \x7d"] ∧
      final.runtimeStub = .ok ("\n".intercalate final.stubLines ++ "\n") := by
  intro calls final
  have notWritten : ∀ label call, ModuleCall.contribute (.write label call) ∈ calls →
      label ∉ [Section.enumerations, .inlineEnumerations, .actions, .services] := by
    simp [calls]
  have renderable : ∀ enumeration ∈ (contributionsIn .namedEnumerations calls).filterMap
      (·.enumeration?), enumeration.IsRenderable := by decide
  rcases typeDefinitions_inStep_with_runtimeStub "/" ⟨["shop"], by decide⟩ calls notWritten with
    ⟨⟨_, _, declarations⟩, _, _, _, services, stub, _⟩
  have onlyService : final.serviceNames = ["shop.S"] := services (by simp [calls])
  rcases stub renderable with ⟨lines, text⟩
  refine ⟨notWritten, declarations renderable, onlyService, ?_, lines.symm ▸ text⟩
  have noAliases : final.aliasLines = [] := by
    have unnamed : final.inflections = [] := rfl
    simp [aliasLines, unnamed]
  rw [lines, onlyService, noAliases]
  rfl

/-- An enumeration with a value that has no literal is recorded, but only half of it is
declared, and there is no stub any more. -/
theorem not_inStep_of_powerOfTen :
    let endless : Enumeration := ⟨"Big", [("a", .integer (10 ^ Scalar.digitLimit))]⟩
    let run := ({ home := ⟨["shop"], by decide⟩ } : SourceModule).performAll "/"
      [.contribute (.enumeration "shop.Big" endless), .runtimeStub]
    (EnumerationRecord.named run.1.enumerations).map (·.declared) = [endless] ∧
      (run.1.sections.get .enumerations).lines = ["// enum", "export const Big = \x7b"] ∧
      run.2 = [.error (.layout (.literal .tooManyDigits)),
        .error (.layout (.literal .tooManyDigits))] := by
  intro endless run
  have unwritable : ¬brokenOff.IsRenderable := fun all =>
    Scalar.not_isRenderable_powerOfTen (all _ List.mem_cons_self ("a", _) List.mem_cons_self)
  have stub : brokenOff.runtimeStub = .error .tooManyDigits := if_neg unwritable
  have ends : run = (brokenOff, [.error (.layout (.literal .tooManyDigits)),
      .error (.layout (.literal .tooManyDigits))]) := by
    rw [show run = _ from performAll_powerOfTen "/" [.runtimeStub]]
    simp only [performAll, perform, stub]
    rfl
  rw [ends]
  exact ⟨rfl, rfl, rfl⟩

end SourceModule

end TypedModules
