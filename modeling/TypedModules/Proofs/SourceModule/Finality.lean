import Mathlib.Data.List.Nodup
import TypedModules.Proofs.Layout.Finality
import TypedModules.Proofs.SourceModule.Repetition
import TypedModules.Proofs.SourceModule.Resumption

/-! # Nested namespaces that are closed

A nested namespace stays known under its name, and may be held on to after it was
closed. Whatever is asked of the module or of the held block from there on, all type
definitions show the same text at the same place for it, unless its lines are dropped.
-/

namespace TypedModules

def ModuleCall.dropLines (name : String) : ModuleCall :=
  .contribute (.heldBlock name (.content .clear))

namespace SourceModule

variable {module : SourceModule} {name title indentation : String} {lines : List String}

/-! ## Where a nested namespace stands -/

theorem keys_isPrefix_perform (workingDirectory : String) (module : SourceModule)
    (call : ModuleCall) :
    module.blocks.keys <+: (module.perform workingDirectory call).state.blocks.keys := by
  rw [keys_perform]
  split
  · exact List.prefix_refl _
  · split
    · exact List.prefix_refl _
    · exact List.prefix_append _ _

theorem keys_isPrefix_performAll (workingDirectory : String) (calls : List ModuleCall) :
    ∀ module : SourceModule,
      module.blocks.keys <+: (module.performAll workingDirectory calls).1.blocks.keys := by
  induction calls with
  | nil => exact fun module => List.prefix_refl _
  | cons call rest induction =>
      exact fun module => (keys_isPrefix_perform workingDirectory module call).trans (induction _)

theorem keys_typeDefinitions (module : SourceModule) :
    module.typeDefinitions.state.blocks.keys = module.blocks.keys :=
  names_closeInOrder module.blocks.entries

theorem partText_namespaces_of_find? {block : NamespaceBlock}
    (found : module.blocks.find? name = some block) :
    ∃ front back : List String,
      front.length = module.blocks.keys.idxOf name ∧
        module.partText .namespaces = "\n".intercalate (front ++ block.text :: back) := by
  rcases List.append_of_mem (Registry.find?_eq_some_iff.mp found) with ⟨before, after, entries⟩
  have distinct := module.blocks.distinct
  rw [entries, List.map_append, List.map_cons, List.nodup_middle, List.nodup_cons,
    List.mem_append, not_or] at distinct
  refine ⟨before.map (·.2.text), after.map (·.2.text), ?_, ?_⟩
  · rw [Registry.keys, entries, List.map_append, List.idxOf_append_of_notMem distinct.1.1]
    simp
  · simp [partText, Registry.values, entries, Function.comp_def]

/-! ## What a closed one keeps -/

def HasEnded (module : SourceModule) (name title indentation : String) (lines : List String) :
    Prop :=
  ∃ block, module.blocks.find? name = some block ∧ block.HasEnded title indentation lines

namespace HasEnded

theorem contribute_block (ended : module.HasEnded name title indentation lines)
    (workingDirectory asked : String) (call : Option BlockCall) :
    (module.contribute workingDirectory (.block asked call)).state.HasEnded name title indentation
      lines := by
  rcases ended with ⟨block, found, hasEnded⟩
  rw [SourceModule.contribute_block]
  by_cases same : asked = name
  · subst same
    have known : module.blockOrNew asked = block := by simp [blockOrNew, found]
    rw [known, if_pos hasEnded.closed]
    exact ⟨block, Registry.find?_put_same _ _ _, hasEnded⟩
  · have elsewhere (other : NamespaceBlock) :
        (module.blocks.put asked other).find? name = some block := by
      rw [Registry.find?_put_other _ _ (Ne.symm same), found]
    split
    · exact ⟨block, elsewhere _, hasEnded⟩
    · cases call with
      | none => exact ⟨block, elsewhere _, hasEnded⟩
      | some call =>
          simp only [Registry.put_put]
          exact ⟨block, elsewhere _, hasEnded⟩

theorem contribute_heldBlock (ended : module.HasEnded name title indentation lines)
    (workingDirectory asked : String) (call : BlockCall) :
    (module.contribute workingDirectory (.heldBlock asked call)).state.HasEnded name title
      indentation (if asked = name ∧ call = .content .clear then [] else lines) := by
  rcases ended with ⟨block, found, hasEnded⟩
  rw [SourceModule.contribute_heldBlock]
  by_cases same : asked = name
  · subst same
    simp only [found, true_and]
    exact ⟨_, Registry.find?_put_same _ _ _, hasEnded.perform call⟩
  · rw [if_neg fun both => same both.1]
    cases module.blocks.find? asked with
    | none => exact ⟨block, found, hasEnded⟩
    | some other =>
        refine ⟨block, ?_, hasEnded⟩
        exact (Registry.find?_put_other _ _ (Ne.symm same)).trans found

theorem typeDefinitions (ended : module.HasEnded name title indentation lines) :
    module.typeDefinitions.state.HasEnded name title indentation lines := by
  rcases ended with ⟨block, found, hasEnded⟩
  have closes : Registry.Pointwise (fun block done => IsLaterThan done block) module.blocks
      module.typeDefinitions.state.blocks := closes_typeDefinitions module
  rcases closes.find? name with ⟨unknown, -⟩ | ⟨known, done, foundBefore, foundLater, later⟩
  · rw [found] at unknown
    cases unknown
  · rw [found, Option.some.injEq] at foundBefore
    subst foundBefore
    have unchanged : done = block := by
      rcases later with same | accepted
      · exact same
      · rw [closeIfOpen_of_closed hasEnded.closed, Except.ok.injEq] at accepted
        exact accepted.symm
    exact ⟨block, unchanged ▸ foundLater, hasEnded⟩

theorem perform (ended : module.HasEnded name title indentation lines)
    (workingDirectory : String) (call : ModuleCall) :
    (module.perform workingDirectory call).state.HasEnded name title indentation
      (if call = .dropLines name then [] else lines) := by
  by_cases concerned : call.category? = some .blocks
  · cases call with
    | contribute contribution =>
        cases contribution with
        | block asked call =>
            rw [if_neg (by simp [ModuleCall.dropLines])]
            exact ended.contribute_block workingDirectory asked call
        | heldBlock asked call =>
            simp only [ModuleCall.dropLines, ModuleCall.contribute.injEq,
              Contribution.heldBlock.injEq]
            exact ended.contribute_heldBlock workingDirectory asked call
        | write label call => cases label <;> cases concerned
        | _ => cases concerned
    | typeDefinitions =>
        rw [if_neg (by simp [ModuleCall.dropLines])]
        exact ended.typeDefinitions
    | runtimeStub | imports => cases concerned
  · have kept : call ≠ .dropLines name := by
      rintro rfl
      exact concerned rfl
    have unchanged := (perform_agreesOn_of_ne workingDirectory module concerned).blocks rfl
    rw [if_neg kept, HasEnded, unchanged]
    exact ended

theorem performAll (ended : module.HasEnded name title indentation lines)
    (workingDirectory : String) (calls : List ModuleCall) :
    (module.performAll workingDirectory calls).1.HasEnded name title indentation
      (if .dropLines name ∈ calls then [] else lines) := by
  induction calls generalizing module lines with
  | nil => exact ended
  | cons call rest induction =>
      have later := induction (ended.perform workingDirectory call)
      rw [SourceModule.performAll]
      by_cases dropped : call = .dropLines name
      · subst dropped
        simpa using later
      · simpa [dropped, Ne.symm dropped] using later

end HasEnded

/-- Type definitions show a closed block where it always stood, with all its lines or,
once they were dropped, without any. -/
theorem shows_ended {block : NamespaceBlock} (found : module.blocks.find? name = some block)
    (isClosed : block.closed = true) (workingDirectory : String) {calls : List ModuleCall}
    {text : String} :
    let later := (module.performAll workingDirectory calls).1
    later.typeDefinitions.answer = .ok text →
      text = later.typeDefinitions.state.layOut ∧
        ∃ front back : List String,
          front.length = module.blocks.keys.idxOf name ∧
            later.typeDefinitions.state.partText .namespaces =
              "\n".intercalate
                (front ++ (if .dropLines name ∈ calls then "" else block.text) :: back) := by
  intro later answered
  have now : module.HasEnded name block.name block.buffer.indentation block.buffer.lines :=
    ⟨block, found, .of_closed isClosed⟩
  rcases (now.performAll workingDirectory calls).typeDefinitions with ⟨last, foundLast, ended⟩
  have shown : last.text = if .dropLines name ∈ calls then "" else block.text := by
    rw [NamespaceBlock.text, LineBuffer.text, LineBuffer.join, ended.lines]
    split <;> rfl
  have place : later.blocks.keys.idxOf name = module.blocks.keys.idxOf name := by
    rcases keys_isPrefix_performAll workingDirectory calls module with ⟨further, keys⟩
    have known : name ∈ module.blocks.keys :=
      List.mem_map.mpr ⟨(name, block), Registry.find?_eq_some_iff.mp found, rfl⟩
    rw [← keys, List.idxOf_append_of_mem known]
  rcases partText_namespaces_of_find? foundLast with ⟨front, back, length, namespaces⟩
  rw [keys_typeDefinitions, place] at length
  exact ⟨(isSettled_and_eq_of_answer answered).2, front, back, length, shown ▸ namespaces⟩

end SourceModule

open NamespaceBlock in
/-- A closed block stays closed, keeps its level and refuses content, whatever is asked
of it. It keeps the lines that closing left, from its heading to its brace, exactly
until its lines are dropped, and then has none. So it is with what type definitions
show for a closed block in a module that keeps it. -/
theorem closed_is_final_unless_dropped (name : String) (block : NamespaceBlock) :
    (∀ (unit : String) (calls further : List BlockCall),
      ((NamespaceBlock.opened name unit).afterCalls calls).close = .ok block →
      let dropped := BlockCall.content .clear
      let later := block.afterCalls further
      (later.closed = true ∧ later.buffer.indentation = block.buffer.indentation ∧
        ∀ call : BlockCall, call.IsContent → later.perform call = ⟨later, .error (.closed name)⟩) ∧
      (later.buffer.lines = block.buffer.lines ↔ dropped ∉ further) ∧
      (dropped ∈ further → later.buffer.lines = []) ∧
      (dropped ∉ further → ∃ body, later.text = "\n".intercalate (body ++ ["\x7d"]) ∧
        (dropped ∉ calls → body.head? = some (heading name)))) ∧
    ∀ (workingDirectory text : String) (module : SourceModule) (calls : List ModuleCall),
      module.blocks.find? name = some block → block.closed = true →
      let later := (module.performAll workingDirectory calls).1
      later.typeDefinitions.answer = .ok text →
        text = later.typeDefinitions.state.layOut ∧
          ∃ front back : List String,
            front.length = module.blocks.keys.idxOf name ∧
              later.typeDefinitions.state.partText .namespaces =
                "\n".intercalate
                  (front ++ (if .dropLines name ∈ calls then "" else block.text) :: back) := by
  refine ⟨?_, fun workingDirectory text module calls found isClosed =>
    SourceModule.shows_ended found isClosed workingDirectory⟩
  intro unit calls further accepted dropped later
  rcases result_of_close accepted with ⟨isClosed, sameName, lines⟩
  have ended := (NamespaceBlock.HasEnded.of_closed isClosed).afterCalls further
  have named : later.name = name := by
    rw [name_afterCalls, sameName, name_afterCalls]
    rfl
  refine ⟨⟨ended.closed, ended.indentation, ?_⟩, ⟨?_, ?_⟩, ?_, ?_⟩
  · intro call isContent
    rw [perform_of_closed ended.closed isContent, named]
  · intro same isDropped
    have kept := same.symm.trans ended.lines
    rw [if_pos isDropped, lines] at kept
    simp at kept
  · intro kept
    rw [ended.lines, if_neg kept]
  · intro isDropped
    rw [ended.lines, if_pos isDropped]
  · intro kept
    refine ⟨((NamespaceBlock.opened name unit).afterCalls calls).buffer.lines, ?_, ?_⟩
    · rw [NamespaceBlock.text, LineBuffer.text, LineBuffer.join, ended.lines, if_neg kept, lines]
    · intro keptBefore
      have headed := (IsHeaded.opened name unit).afterCalls keptBefore
      rcases headed (close_eq_ok_iff.mp accepted).1 with ⟨inner, headedLines⟩
      rw [headedLines]
      rfl

/-- A block with one line is closed and shown, and refuses a second line ever after. -/
theorem closed_is_final_unless_dropped_of_books :
    let calls : List BlockCall := [.content (.edit (.add "type text = string;"))]
    let lines := ["export namespace Books \x7b", "  type text = string;", "\x7d"]
    let block : NamespaceBlock := { name := "Books", buffer := { lines }, closed := true }
    let late := BlockCall.content (.edit (.add "late"))
    let module := (({ home := ⟨["shop"], by decide⟩ } : SourceModule).performAll "/"
      [.contribute (.block "Authors" none), .contribute (.block "Books" calls.head?),
        .typeDefinitions]).1
    let later := (module.performAll "/" [.contribute (.heldBlock "Books" late)]).1
    ((NamespaceBlock.opened "Books" "  ").afterCalls calls).close = .ok block ∧
      (block.afterCalls [late]).buffer.lines = lines ∧
      module.blocks.find? "Books" = some block ∧ block.closed = true ∧
      later.typeDefinitions.answer = .ok later.typeDefinitions.state.layOut ∧
      ∃ front back, front.length = 1 ∧
        later.typeDefinitions.state.partText .namespaces =
          "\n".intercalate (front ++ block.text :: back) := by
  intro calls lines block late module later
  have accepted : ((NamespaceBlock.opened "Books" "  ").afterCalls calls).close = .ok block := by
    decide
  have found : module.blocks.find? "Books" = some block := by decide
  have answered : later.typeDefinitions.answer = .ok later.typeDefinitions.state.layOut := rfl
  rcases closed_is_final_unless_dropped "Books" block with ⟨onBlocks, onModules⟩
  have kept := (onBlocks "  " calls [late] accepted).2.1.mpr (by decide)
  have shown := onModules "/" _ module [.contribute (.heldBlock "Books" late)] found rfl answered
  exact ⟨accepted, kept, found, rfl, answered, shown.2⟩

/-- The lines of a closed block can be dropped, and its module then shows nothing for it. -/
theorem not_final_of_dropped_lines :
    let block := ((NamespaceBlock.opened "Books" "  ").perform .close).state
    let later := (block.perform (.content .clear)).state
    let module := (({ home := ⟨["shop"], by decide⟩ } : SourceModule).performAll "/"
      [.contribute (.block "Books" none), .typeDefinitions]).1
    block.closed = true ∧
      block.buffer.lines = ["export namespace Books \x7b", "\x7d"] ∧
      later.closed = true ∧ later.buffer.lines = [] ∧
      module.typeDefinitions.state.partText .namespaces = block.text ∧
      (module.performAll "/" [.dropLines "Books"]).1.typeDefinitions.state.partText .namespaces =
        "" := by
  decide

end TypedModules
