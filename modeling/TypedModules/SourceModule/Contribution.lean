import TypedModules.Declaration.Callable
import TypedModules.Layout.Call
import TypedModules.SourceModule.Basic

/-! # Contributions

A contribution adds one thing to a module. It may be refused, and says why. A
refused contribution leaves no trace beyond a newly opened block. A declaration of
an enumeration may also break off, at a value without a literal above all. What has
been written until then stays, and so does the level of indentation. So does the
record of the enumeration, which is kept before the declaration is written.
-/

namespace TypedModules

inductive ContributionFault where
  | layout (fault : LayoutFault)
  | directory (fault : DirectoryFault)
  | duplicateService (place existing added : String)
  deriving DecidableEq

def ContributionFault.message : ContributionFault → String
  | layout fault => fault.message
  | directory fault => fault.message
  | duplicateService place existing added =>
      "trying to add more than one service to file " ++ place ++ ". Existing service is " ++
        existing ++ ", trying to add " ++ added

inductive CallableKind where
  | function
  | action
  deriving DecidableEq

def CallableKind.word : CallableKind → String
  | function => "function"
  | action => "action"

inductive Contribution where
  | importOf (imported : Namespace)
  | preamble (code : String)
  | typeAlias (fullName name definition : String)
  | className (name fullName : String)
  | event (name fullName : String)
  | service (fullName : String)
  | furtherService (fullName : String)
  | inflection (inflection : Inflection)
  | callable (kind : CallableKind) (name : String) (parameters : List Parameter)
      (returns : String)
  | enumeration (fullName : String) (enumeration : Enumeration)
  | inlineEnumeration (entity property : String) (members : List (String × Scalar))
  | write (label : Section) (call : BufferCall)
  /-- Ask for a nested namespace by name and, possibly, do something with it. -/
  | block (name : String) (call : Option BlockCall)
  /-- Do something with a nested namespace that was asked for before. -/
  | heldBlock (name : String) (call : BlockCall)
  deriving DecidableEq

def Enumeration.inlineName (entity property : String) : String :=
  entity ++ "_" ++ property

namespace SourceModule

abbrev Contributed := Attempt ContributionFault SourceModule (Option String)

private def accepted (module : SourceModule) : Contributed :=
  ⟨module, .ok none⟩

def performOn (module : SourceModule) (label : Section) (call : BufferCall) : Contributed :=
  (((module.sections.get label).perform call).mapFault .layout).embed (module.setSection label)

/-- Import a namespace, unless a module in the same directory is imported already. -/
def importNamespace (module : SourceModule) (workingDirectory : String) (imported : Namespace) :
    Except DirectoryFault SourceModule :=
  (imported.specifier workingDirectory module.home.localDirectory).map fun specifier =>
    if specifier ∈ module.imports.keys then module
    else { module with imports := module.imports.put specifier imported }

def addService (module : SourceModule) (fullName : String) : SourceModule :=
  { module.addLine .services ("export default \x7b name: '" ++ fullName ++ "' \x7d") with
    serviceNames := module.serviceNames ++ [fullName] }

def addCallable (module : SourceModule) (kind : CallableKind) (name : String)
    (parameters : List Parameter) (returns : String) : SourceModule :=
  let callable : Callable := { name := some name, parameters, returns }
  let commented := module.addLine .actions ("// " ++ kind.word)
  { commented.addLine .actions ("export declare const " ++ callable.text ++ ";") with
    actionNames := module.actionNames ++ [name] }

/-- Keep the record of an enumeration and write its declaration to a section. -/
def addEnumeration (module : SourceModule) (record : EnumerationRecord) (label : Section)
    (enumeration : Enumeration) (exported : Bool) : Contributed :=
  { module with enumerations := module.enumerations ++ [record] }.performOn label
    (.enumeration enumeration exported)

def blockOrNew (module : SourceModule) (name : String) : NamespaceBlock :=
  (module.blocks.find? name).getD (.opened name defaultUnit)

def requestBlock (module : SourceModule) (name : String) :
    Attempt ContributionFault SourceModule NamespaceBlock :=
  let block := module.blockOrNew name
  ⟨{ module with blocks := module.blocks.put name block },
    if block.closed then .error (.layout (.closed name)) else .ok block⟩

def performOnBlock (module : SourceModule) (name : String) (block : NamespaceBlock)
    (call : BlockCall) : Contributed :=
  ((block.perform call).mapFault .layout).embed fun after =>
    { module with blocks := module.blocks.put name after }

def contribute (workingDirectory : String) (module : SourceModule) : Contribution → Contributed
  | .importOf imported =>
      let outcome := (module.importNamespace workingDirectory imported).mapError .directory
      (Attempt.ofExcept module outcome).map fun _ => none
  | .preamble code => accepted (module.addLine .preamble code)
  | .typeAlias fullName name definition =>
      accepted { module.addLine .types ("export type " ++ name ++ " = " ++ definition ++ ";") with
        typeNames := module.typeNames.put name fullName }
  | .className name fullName =>
      accepted { module with classNames := module.classNames.put name fullName }
  | .event name fullName =>
      accepted { module with events := module.events ++ [⟨name, fullName⟩] }
  | .service fullName =>
      match module.service? with
      | some existing =>
          ⟨module, .error (.duplicateService module.home.localDirectory existing fullName)⟩
      | none => accepted (module.addService fullName)
  | .furtherService fullName => accepted (module.addService fullName)
  | .inflection inflection =>
      accepted { module with inflections := module.inflections ++ [inflection] }
  | .callable kind name parameters returns =>
      accepted (module.addCallable kind name parameters returns)
  | .enumeration fullName enumeration =>
      module.addEnumeration ⟨enumeration.name, fullName, enumeration.members, none⟩
        .enumerations enumeration true
  | .inlineEnumeration entity property members =>
      module.addEnumeration (.ofProperty entity property members) .inlineEnumerations
        ⟨Enumeration.inlineName entity property, members⟩ false
  | .write label call => module.performOn label call
  | .block name call =>
      let request := module.requestBlock name
      match request.answer, call with
      | .error fault, _ => ⟨request.state, .error fault⟩
      | .ok _, none => accepted request.state
      | .ok block, some call => request.state.performOnBlock name block call
  | .heldBlock name call =>
      match module.blocks.find? name with
      | some block => module.performOnBlock name block call
      | none => accepted module

end SourceModule

end TypedModules
