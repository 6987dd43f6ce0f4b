import TypedModules.Proofs.SourceModule.Refusal
import TypedModules.Proofs.SourceModule.Resumption
import TypedModules.Proofs.SourceModule.Written

/-! # What a run takes up

Contributions that are refused leave nothing behind. What a module holds has been
made by the others, including those that broke off, in whatever order those of different
places came.
-/

namespace TypedModules

namespace Contribution

theorem IsAdditive.keepsUnits {contribution : Contribution} (additive : contribution.IsAdditive) :
    contribution.KeepsUnits := by
  cases contribution with
  | write label call => exact BufferCall.IsAdditive.keepsUnit additive
  | heldBlock name call => exact BlockCall.IsAdditive.keepsUnit additive
  | block name call =>
      cases call with
      | none => trivial
      | some call => exact BlockCall.IsAdditive.keepsUnit additive
  | _ => trivial

def held? : Contribution → Option String
  | heldBlock name _ => some name
  | _ => none

end Contribution

namespace SourceModule

variable {workingDirectory : String} {home : Namespace} {module : SourceModule}
variable {contribution : Contribution} {past : List Contribution}

def NotRefused (workingDirectory : String) (module : SourceModule)
    (contribution : Contribution) : Prop :=
  ∀ fault, (module.contribute workingDirectory contribution).answer = .error fault →
    fault.isRefusal = false

/-- A contribution takes effect if it is not refused. A nested namespace can only be
held after it was asked for. -/
def TakesUp (workingDirectory : String) (module : SourceModule) (contribution : Contribution) :
    Prop :=
  module.NotRefused workingDirectory contribution ∧
    ∀ name, contribution.held? = some name → name ∈ module.blocks.keys

instance (workingDirectory : String) (module : SourceModule) (contribution : Contribution) :
    Decidable (module.TakesUp workingDirectory contribution) :=
  decidable_of_iff
    ((match (module.contribute workingDirectory contribution).answer with
        | .ok _ => true
        | .error fault => !fault.isRefusal) = true ∧
      contribution.held?.all (fun name => decide (name ∈ module.blocks.keys)) = true) <| by
    unfold TakesUp NotRefused
    cases (module.contribute workingDirectory contribution).answer <;>
      cases contribution.held? <;> simp

def takenUpFrom (workingDirectory : String) (module : SourceModule) :
    ModuleCall → List Contribution
  | .contribute contribution =>
      if module.TakesUp workingDirectory contribution then [contribution] else []
  | _ => []

/-- The contributions of a run that take effect, in order. -/
def takenUp (workingDirectory : String) (module : SourceModule) :
    List ModuleCall → List Contribution
  | [] => []
  | call :: rest =>
      module.takenUpFrom workingDirectory call ++
        (module.perform workingDirectory call).state.takenUp workingDirectory rest

theorem mem_of_mem_takenUp {calls : List ModuleCall}
    (taken : contribution ∈ module.takenUp workingDirectory calls) :
    .contribute contribution ∈ calls := by
  induction calls generalizing module with
  | nil => cases taken
  | cons call rest induction =>
      rcases List.mem_append.mp taken with isFirst | later
      · cases call with
        | contribute other =>
            rw [takenUpFrom] at isFirst
            split at isFirst
            · rw [List.mem_singleton] at isFirst
              exact isFirst ▸ List.mem_cons_self
            · cases isFirst
        | typeDefinitions | runtimeStub | imports => cases isFirst
      · exact List.mem_cons_of_mem call (induction later)

/-! ## Accepted contributions -/

theorem home_contribute (workingDirectory : String) (module : SourceModule)
    (contribution : Contribution) :
    (module.contribute workingDirectory contribution).state.home = module.home :=
  home_performAll workingDirectory [.contribute contribution] module

theorem sections_contribute (notRefused : module.NotRefused workingDirectory contribution) :
    (module.contribute workingDirectory contribution).state.sections =
      match contribution.sectionCalls? with
      | some (label, calls) =>
          module.sections.set label ((module.sections.get label).afterCalls calls)
      | none => module.sections := by
  cases contribution with
  | importOf imported =>
      rw [contribute_importOf]
      cases imported.specifier workingDirectory module.home.localDirectory <;> rfl
  | service fullName =>
      rw [NotRefused, contribute_service] at notRefused
      rw [contribute_service]
      cases names : module.serviceNames with
      | nil => rfl
      | cons existing rest =>
          rw [names] at notRefused
          cases notRefused _ rfl
  | block name call =>
      rw [contribute_block]
      split
      · rfl
      · cases call <;> rfl
  | heldBlock name call =>
      rw [contribute_heldBlock]
      cases module.blocks.find? name <;> rfl
  | preamble code | typeAlias fullName name definition | className name fullName
  | event name fullName | furtherService fullName | inflection inflection
  | callable kind name parameters returns | enumeration fullName enumeration
  | inlineEnumeration entity property members | write label call => rfl

theorem get_contribute (label : Section)
    (notRefused : module.NotRefused workingDirectory contribution) :
    (module.contribute workingDirectory contribution).state.sections.get label =
      (module.sections.get label).afterCalls (contribution.callsOn label) := by
  rw [sections_contribute notRefused, Contribution.callsOn]
  cases contribution.sectionCalls? with
  | none => rfl
  | some written =>
      rcases written with ⟨other, calls⟩
      by_cases same : other = label
      · subst same
        simp
      · rw [Sections.get_set_other _ _ (Ne.symm same)]
        simp [same, LineBuffer.afterCalls]

theorem blockOrNew_put (module : SourceModule) (name other : String) (block : NamespaceBlock) :
    ({ module with blocks := module.blocks.put name block } : SourceModule).blockOrNew other =
      if other = name then block else module.blockOrNew other := by
  by_cases same : other = name
  · subst same
    simp [blockOrNew]
  · simp [blockOrNew, Registry.find?_put_other _ _ same, same]

theorem takesEffect_of_mapError {attempt : Attempt LayoutFault NamespaceBlock (Option String)}
    (notRefused : ∀ fault, attempt.answer.mapError ContributionFault.layout = .error fault →
      fault.isRefusal = false) : attempt.TakesEffect := by
  intro fault answered
  exact notRefused (.layout fault) (by rw [answered]; rfl)

theorem hasBody_putBlock {calls : String → List BufferCall} {asked : String} {call : BlockCall}
    (held : ∀ name, (module.blockOrNew name).HasBody name (calls name))
    (additive : call.IsAdditive)
    (takesEffect : ((module.blockOrNew asked).perform call).TakesEffect) (name : String) :
    (({ module with
          blocks := module.blocks.put asked ((module.blockOrNew asked).perform call).state } :
        SourceModule).blockOrNew name).HasBody name
      (calls name ++ if asked = name then call.onBody else []) := by
  rw [blockOrNew_put]
  by_cases same : name = asked
  · subst same
    rw [if_pos rfl, if_pos rfl]
    exact (held name).perform additive takesEffect
  · rw [if_neg same, if_neg (Ne.symm same), List.append_nil]
    exact held name

theorem hasBody_contribute {calls : String → List BufferCall}
    (held : ∀ name, (module.blockOrNew name).HasBody name (calls name))
    (additive : contribution.IsAdditive) (taken : module.TakesUp workingDirectory contribution)
    (name : String) :
    ((module.contribute workingDirectory contribution).state.blockOrNew name).HasBody name
      (calls name ++ contribution.callsIn name) := by
  rcases taken with ⟨notRefused, known⟩
  by_cases concerned : contribution.category = .blocks
  · cases contribution with
    | block asked call =>
        rw [NotRefused, contribute_block] at notRefused
        rw [contribute_block]
        by_cases isClosed : (module.blockOrNew asked).closed = true
        · rw [if_pos isClosed] at notRefused
          cases notRefused _ rfl
        · rw [if_neg isClosed] at notRefused ⊢
          cases call with
          | none =>
              have nothing : (Contribution.block asked none).callsIn name = [] := rfl
              rw [blockOrNew_put, nothing, List.append_nil]
              split
              · rename_i same
                exact same ▸ held asked
              · exact held name
          | some call =>
              simp only [Registry.put_put]
              exact hasBody_putBlock held additive (takesEffect_of_mapError notRefused) name
    | heldBlock asked call =>
        rw [NotRefused, contribute_heldBlock] at notRefused
        rw [contribute_heldBlock]
        cases found : module.blocks.find? asked with
        | none => exact absurd (known asked rfl) (Registry.find?_eq_none_iff.mp found)
        | some block =>
            have isHeld : module.blockOrNew asked = block := by simp [blockOrNew, found]
            rw [found] at notRefused
            subst isHeld
            exact hasBody_putBlock held additive (takesEffect_of_mapError notRefused) name
    | write label call => cases label <;> cases concerned
    | _ => cases concerned
  · have unchanged := (contribute_agreesOn_of_ne workingDirectory module concerned).blockOrNew name
    have elsewhere : contribution.callsIn name = [] := by
      cases contribution with
      | block asked call | heldBlock asked call => exact absurd rfl concerned
      | _ => rfl
    rw [unchanged, elsewhere, List.append_nil]
    exact held name

theorem mem_keys_perform {call : ModuleCall} {name : String}
    (known : name ∈ (module.perform workingDirectory call).state.blocks.keys) :
    name ∈ module.blocks.keys ∨ call.requested? = some name := by
  rw [keys_perform] at known
  cases requested : call.requested? with
  | none =>
      rw [requested] at known
      exact .inl known
  | some asked =>
      simp only [requested] at known
      split at known
      · exact .inl known
      · rcases List.mem_append.mp known with before | new
        · exact .inl before
        · exact .inr (congrArg some (List.mem_singleton.mp new).symm)

/-- A contribution that does not take effect changes nothing. -/
theorem state_contribute_of_not_takesUp (regular : module.IsRegular)
    (refused : ¬module.TakesUp workingDirectory contribution) :
    (module.contribute workingDirectory contribution).state = module := by
  by_cases notRefused : module.NotRefused workingDirectory contribution
  · have unheld : ∃ name, contribution.held? = some name ∧ name ∉ module.blocks.keys := by
      by_contra known
      simp only [not_exists, not_and, not_not] at known
      exact refused ⟨notRefused, known⟩
    rcases unheld with ⟨name, isHeld, unknown⟩
    cases contribution with
    | heldBlock asked call =>
        cases isHeld
        rw [contribute_heldBlock, Registry.find?_eq_none_iff.mpr unknown]
    | _ => cases isHeld
  · simp only [NotRefused, not_forall, Bool.not_eq_false] at notRefused
    rcases notRefused with ⟨fault, answered, isRefusal⟩
    exact state_contribute_of_refused regular answered isRefusal

/-! ## Runs -/

/-- A module that holds what contributions have made. -/
structure Reflects (workingDirectory : String) (home : Namespace) (module : SourceModule)
    (past : List Contribution) : Prop where
  regular : module.IsRegular
  located : module.home = home
  sections : ∀ label, module.sections.get label =
    ({} : LineBuffer).afterCalls (past.flatMap (·.callsOn label))
  bodies : ∀ name, (module.blockOrNew name).HasBody name (past.flatMap (·.callsIn name))
  asked : ∀ name ∈ module.blocks.keys, ∃ call, .block name call ∈ past
  imports : ∀ entry ∈ module.imports.entries, .importOf entry.2 ∈ past ∧
    entry.2.specifier workingDirectory home.localDirectory = .ok entry.1

namespace Reflects

theorem new (workingDirectory : String) (home : Namespace) :
    Reflects workingDirectory home { home } [] where
  regular := .new home
  located := rfl
  sections label := by cases label <;> rfl
  bodies name := .opened name
  asked name known := by cases known
  imports entry member := by cases member

theorem asked_contribute (held : Reflects workingDirectory home module past) :
    ∀ name ∈ (module.contribute workingDirectory contribution).state.blocks.keys,
      ∃ call, .block name call ∈ past ++ [contribution] := by
  intro name known
  have asked : name ∈ module.blocks.keys ∨
      (ModuleCall.contribute contribution).requested? = some name := mem_keys_perform known
  rcases asked with before | requested
  · rcases held.asked name before with ⟨call, member⟩
    exact ⟨call, List.mem_append_left _ member⟩
  · cases contribution with
    | block other call =>
        cases requested
        exact ⟨call, List.mem_append_right _ List.mem_cons_self⟩
    | _ => cases requested

theorem imports_contribute (held : Reflects workingDirectory home module past) :
    ∀ entry ∈ (module.contribute workingDirectory contribution).state.imports.entries,
      .importOf entry.2 ∈ past ++ [contribution] ∧
        entry.2.specifier workingDirectory home.localDirectory = .ok entry.1 := by
  have before : ∀ entry ∈ module.imports.entries, .importOf entry.2 ∈ past ++ [contribution] ∧
      entry.2.specifier workingDirectory home.localDirectory = .ok entry.1 := by
    intro entry member
    exact ⟨List.mem_append_left _ (held.imports entry member).1, (held.imports entry member).2⟩
  by_cases concerned : contribution.category = .imports
  · cases contribution with
    | importOf imported =>
        rw [contribute_importOf, held.located]
        cases located : imported.specifier workingDirectory home.localDirectory with
        | error fault => exact before
        | ok specifier =>
            simp only
            split
            · exact before
            · rename_i new
              rw [Registry.entries_put_of_new new]
              intro entry member
              rcases List.mem_append.mp member with inBefore | isNew
              · exact before entry inBefore
              · rw [List.mem_singleton] at isNew
                subst isNew
                exact ⟨List.mem_append_right _ List.mem_cons_self, located⟩
    | write label call => cases label <;> cases concerned
    | _ => cases concerned
  · have unchanged := contribute_agreesOn_of_ne workingDirectory module concerned
    rw [unchanged.imports rfl]
    exact before

theorem contribute (held : Reflects workingDirectory home module past)
    (additive : contribution.IsAdditive) (taken : module.TakesUp workingDirectory contribution) :
    Reflects workingDirectory home (module.contribute workingDirectory contribution).state
      (past ++ [contribution]) where
  regular := held.regular.contribute additive.keepsUnits
  located := (home_contribute workingDirectory module contribution).trans held.located
  sections label := by
    rw [get_contribute label taken.1, held.sections, List.flatMap_append,
      LineBuffer.afterCalls_append, List.flatMap_singleton]
  bodies name := by
    rw [List.flatMap_append, List.flatMap_singleton]
    exact hasBody_contribute held.bodies additive taken name
  asked := held.asked_contribute
  imports := held.imports_contribute

theorem hasBody_typeDefinitions (held : Reflects workingDirectory home module past)
    (name : String) :
    (module.typeDefinitions.state.blockOrNew name).HasBody name
      (past.flatMap (·.callsIn name)) := by
  have before := held.bodies name
  have closes : Registry.Pointwise (fun block done => IsLaterThan done block) module.blocks
      module.typeDefinitions.state.blocks := closes_typeDefinitions module
  rcases closes.find? name with ⟨unknown, stillUnknown⟩ | ⟨block, done, found, foundLater, later⟩
  · rw [blockOrNew, unknown] at before
    rwa [blockOrNew, stillUnknown]
  · rw [blockOrNew, found, Option.getD_some] at before
    rw [blockOrNew, foundLater, Option.getD_some]
    rcases later with rfl | accepted
    · exact before
    · rcases closeIfOpen_cases accepted with ⟨-, rfl⟩ | closed
      · exact before
      · exact before.of_close closed

theorem typeDefinitions (held : Reflects workingDirectory home module past) :
    Reflects workingDirectory home module.typeDefinitions.state past where
  regular := held.regular.typeDefinitions
  located := held.located
  sections := held.sections
  bodies := held.hasBody_typeDefinitions
  asked name known := by
    have same : module.typeDefinitions.state.blocks.keys = module.blocks.keys :=
      names_closeInOrder module.blocks.entries
    exact held.asked name (same ▸ known)
  imports := held.imports

theorem perform (held : Reflects workingDirectory home module past) {call : ModuleCall}
    (additive : call.IsAdditive) :
    Reflects workingDirectory home (module.perform workingDirectory call).state
      (past ++ module.takenUpFrom workingDirectory call) := by
  cases call with
  | contribute contribution =>
      by_cases taken : module.TakesUp workingDirectory contribution
      · rw [takenUpFrom, if_pos taken]
        exact held.contribute additive taken
      · have unchanged := state_contribute_of_not_takesUp held.regular taken
        rw [takenUpFrom, if_neg taken, List.append_nil]
        change Reflects workingDirectory home
          (module.contribute workingDirectory contribution).state past
        rwa [unchanged]
  | typeDefinitions =>
      rw [takenUpFrom, List.append_nil]
      · exact held.typeDefinitions
      · simp
  | runtimeStub | imports =>
      rw [takenUpFrom, List.append_nil]
      · exact held
      · simp

theorem performAll {calls : List ModuleCall} (additive : ∀ call ∈ calls, call.IsAdditive) :
    ∀ {module : SourceModule} {past : List Contribution},
      Reflects workingDirectory home module past →
      Reflects workingDirectory home (module.performAll workingDirectory calls).1
        (past ++ module.takenUp workingDirectory calls) := by
  induction calls with
  | nil =>
      intro module past held
      rwa [takenUp, List.append_nil]
  | cons call rest induction =>
      intro module past held
      rw [List.forall_mem_cons] at additive
      have later := induction additive.2 (held.perform additive.1)
      rwa [List.append_assoc] at later

theorem lines_of_closed (held : Reflects workingDirectory home module past)
    {entry : String × NamespaceBlock} (member : entry ∈ module.blocks.entries)
    (isClosed : entry.2.closed = true) :
    (∃ call, .block entry.1 call ∈ past) ∧
      entry.2.buffer.lines =
        (NamespaceBlock.body entry.1 (past.flatMap (·.callsIn entry.1))).lines ++ ["\x7d"] := by
  refine ⟨held.asked entry.1 (List.mem_map_of_mem member), ?_⟩
  have body := held.bodies entry.1
  rw [blockOrNew, Registry.find?_eq_some_iff.mpr member] at body
  exact body.ofClosed isClosed

theorem importLines_of_composable {Holds : String → Prop}
    (held : Reflects workingDirectory home module past) (composable : Text.IsComposable Holds)
    (rooted : Directory.isAbsolute workingDirectory = true) (homeDotted : home.IsDotted)
    (importsDotted : ∀ imported, .importOf imported ∈ past → imported.IsDotted)
    (texts : ∀ contribution ∈ past, ∀ text ∈ contribution.texts, Holds text) :
    ∀ line ∈ module.importLines, Holds line := by
  intro line member
  rcases List.mem_map.mp member with ⟨⟨specifier, imported⟩, isShown, rfl⟩
  rcases held.imports _ (List.mem_filter.mp isShown).1 with ⟨isImported, located⟩
  have leads := Namespace.eq_routeSpecifier_of_specifier homeDotted
    (importsDotted imported isImported) rooted located
  simp only at leads
  rw [leads]
  exact importLine_of_composable composable home (texts _ isImported)

end Reflects

end SourceModule

end TypedModules
