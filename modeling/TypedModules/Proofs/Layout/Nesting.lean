import TypedModules.Proofs.Declaration.Composition
import TypedModules.Proofs.Layout.Content
import TypedModules.Proofs.Text.Nesting

/-! # Nesting in buffers

The lines of a declaration open as many braces as they close, unless it breaks off. So
the depth behind the lines of a buffer is that behind the lines which were added to it as
such.
-/

namespace TypedModules

open Text

variable {margin : String}

theorem IsMargin.isBalanced (isMargin : IsMargin margin) : IsBalanced margin := by
  apply isComposable_isBalanced.bare
  intro character member
  rw [isMargin character member]
  decide

namespace Enumeration

variable {enumeration : Enumeration}

theorem isBalanced_declaration (balanced : ∀ text ∈ enumeration.texts, IsBalanced text)
    (exported : Bool) :
    IsBalanced (String.join (enumeration.declarationLines exported defaultUnit)) := by
  rcases List.forall_mem_cons.mp balanced with ⟨name, textsBalanced⟩
  have values := forall_mem_textsOf_iff.mp textsBalanced
  have union : IsBalanced enumeration.unionText :=
    unionText_of_composable isComposable_isBalanced fun member isMember =>
      (values member isMember).2
  have modifierBalanced : IsBalanced (if exported then "export " else "") := by
    cases exported <;> decide
  have members : IsBalanced (String.join
      (enumeration.memberTexts.map fun text => defaultUnit ++ text ++ ",")) := by
    apply IsBalanced.join
    intro line isLine
    rcases List.mem_map.mp isLine with ⟨text, isText, rfl⟩
    rcases List.mem_map.mp isText with ⟨member, isMember, rfl⟩
    rcases values member isMember with ⟨key, value⟩
    have written := memberText_of_composable isComposable_isBalanced key value
    exact isComposable_isBalanced.enclosed (by decide) written (by decide)
  let modifier := if exported then "export " else ""
  have opens : nesting (String.join ["// enum",
      modifier ++ "const " ++ enumeration.name ++ " = \x7b"]) 0 = some 1 := by
    have comment : nesting "// enum" 0 = some 0 := rfl
    have const : nesting "const " 0 = some 0 := rfl
    have brace : nesting " = \x7b" 0 = some 1 := rfl
    simp [nesting_append, comment, const, brace, modifierBalanced.nesting, name.nesting, modifier]
  have closes : nesting (String.join ["\x7d as const;",
      modifier ++ "type " ++ enumeration.name ++ " = " ++ enumeration.unionText ++ ";"]) 1 =
        some 0 := by
    have brace : nesting "\x7d as const;" 1 = some 0 := rfl
    have typeLine : IsBalanced (modifier ++ "type " ++ enumeration.name ++ " = " ++
        enumeration.unionText ++ ";") :=
      ((((modifierBalanced.append (by decide)).append name).append (by decide)).append
        union).append (by decide)
    have rest := IsBalanced.join (List.forall_mem_singleton.mpr typeLine)
    rw [String.join_cons, nesting_append, brace, Option.bind_some, rest.nesting]
  rw [isBalanced_iff, declarationLines, String.join_append, String.join_append, nesting_append,
    nesting_append, opens, Option.bind_some, members.nesting, Option.bind_some, closes]

end Enumeration

theorem NamespaceBlock.nesting_opened {name : String} (balanced : IsBalanced name) :
    nesting (String.join (opened name defaultUnit).buffer.lines) 0 = some 1 := by
  have front : nesting "export namespace " 0 = some 0 := rfl
  have brace : nesting " \x7b" 0 = some 1 := rfl
  have lines : (opened name defaultUnit).buffer.lines = ["" ++ heading name] := rfl
  rw [lines, String.join_cons, String.join_nil, String.append_empty, String.empty_append]
  unfold heading
  rw [nesting_append, nesting_append, front, Option.bind_some, balanced.nesting, Option.bind_some,
    brace]

theorem BufferCall.nesting_written {call : BufferCall} (renderable : call.IsRenderable)
    (balanced : ∀ text ∈ call.texts, IsBalanced text) (isMargin : IsMargin margin)
    (lines : List String) (depth : Nat) :
    nesting (String.join ((call.written lines).map (margin ++ ·))) depth =
      nesting (String.join call.line?.toList) depth := by
  rw [isMargin.isBalanced.nesting_join_map]
  cases call with
  | edit edit => cases edit <;> rfl
  | enumeration declared exported =>
      have separator : IsBalanced (String.join (if lines = [] then [] else [""])) := by
        split <;> decide
      have declaration := Enumeration.isBalanced_declaration balanced exported
      rw [written, Enumeration.printedLines_of_isRenderable renderable, String.join_append,
        (separator.append declaration).nesting]
      rfl
  | join glue | clear | setUnit unit => rfl

/-- The depth behind the lines of a buffer is that behind the lines added as such. -/
theorem LineBuffer.nesting_afterCalls {buffer : LineBuffer} (regular : buffer.IsRegular)
    {calls : List BufferCall} (additive : ∀ call ∈ calls, call.IsAdditive)
    (renderable : ∀ call ∈ calls, call.IsRenderable)
    (balanced : ∀ call ∈ calls, ∀ text ∈ call.texts, IsBalanced text) (depth : Nat) :
    nesting (String.join (buffer.afterCalls calls).lines) depth =
      nesting (String.join (buffer.lines ++ calls.filterMap (·.line?))) depth := by
  let Holds (lines : List String) (past : List BufferCall) : Prop :=
    nesting (String.join lines) depth =
      nesting (String.join (buffer.lines ++ past.filterMap (·.line?))) depth
  have start : Holds buffer.lines [] := by
    simp only [Holds, List.filterMap_nil, List.append_nil]
  refine lines_afterCalls_induction regular start ?_ additive
    fun call member => And.intro (renderable call member) (balanced call member)
  rintro lines past call margin ⟨rendered, texts⟩ isMargin held
  have last : [call].filterMap (·.line?) = call.line?.toList := by
    cases found : call.line? <;> simp [found]
  change nesting _ _ = nesting _ _ at held ⊢
  rw [List.filterMap_append, last, ← List.append_assoc, String.join_append, String.join_append,
    nesting_append, nesting_append, held]
  cases nesting (String.join (buffer.lines ++ past.filterMap (·.line?))) depth with
  | none => rfl
  | some inner => exact BufferCall.nesting_written rendered texts isMargin lines inner

end TypedModules
