import TypedModules.Proofs.Layout.Step
import TypedModules.Proofs.Literal.Limit
import TypedModules.Proofs.Literal.Reading
import TypedModules.Proofs.Text.Repeats

/-! # The values of an enumeration

The type of an enumeration lists the literals of its members, each once, with bars between
them. As literals are read up to their end, bars within texts do no harm: what is listed are
the distinct values, in the order in which they occur first.
-/

namespace TypedModules

open Scalar

namespace Enumeration

variable {enumeration : Enumeration} {text : List Char} {listed others : List Scalar}

def values (enumeration : Enumeration) : List Scalar :=
  (enumeration.members.map Prod.snd).eraseDups

/-- The values that are read of a text, if it consists of literals with bars between them. -/
inductive Lists : List Char → List Scalar → Prop
  | last {text value} (found : read? text = some (value, [])) : Lists text [value]
  | further {text value rest others} (found : read? text = some (value, " | ".toList ++ rest))
      (behind : Lists rest others) : Lists text (value :: others)

theorem Lists.unique (lists : Lists text listed) (alsoLists : Lists text others) :
    others = listed := by
  induction lists generalizing others with
  | last found =>
      cases alsoLists with
      | last again =>
          rw [found] at again
          cases again
          rfl
      | further again _ =>
          rw [found] at again
          cases again
  | further found _ induction =>
      cases alsoLists with
      | last again =>
          rw [found] at again
          cases again
      | further again behind =>
          rw [found, Option.some.injEq, Prod.mk.injEq] at again
          rcases again with ⟨rfl, same⟩
          rw [List.append_cancel_left same] at induction
          rw [induction behind]

theorem lists_intercalate (discrete : ∀ value ∈ listed, value.IsDiscrete) (nonempty : listed ≠ []) :
    Lists (" | ".intercalate (listed.map fullLiteral)).toList listed := by
  induction listed with
  | nil => exact absurd rfl nonempty
  | cons value rest induction =>
      rw [List.forall_mem_cons] at discrete
      cases rest with
      | nil =>
          have found := read?_fullLiteral_append discrete.1 endsNumber_nil
          rw [List.append_nil] at found
          rw [List.map_singleton, String.intercalate_singleton]
          exact .last found
      | cons next others =>
          have behind := induction discrete.2 (List.cons_ne_nil next others)
          rw [List.map_cons, List.map_cons, String.intercalate_cons_cons, String.toList_append,
            String.toList_append, List.append_assoc, ← List.map_cons]
          exact .further (read?_fullLiteral_append discrete.1 (by simp [EndsNumber])) behind

/-! ## The type of an enumeration -/

theorem mem_values_iff {value : Scalar} :
    value ∈ enumeration.values ↔ ∃ member ∈ enumeration.members, member.2 = value := by
  rw [values, List.mem_eraseDups, List.mem_map]

theorem discrete_of_mem_values (discrete : ∀ member ∈ enumeration.members, member.2.IsDiscrete) :
    ∀ value ∈ enumeration.values, value.IsDiscrete := by
  intro value isValue
  rcases mem_values_iff.mp isValue with ⟨member, isMember, rfl⟩
  exact discrete member isMember

theorem alternatives_eq (discrete : ∀ member ∈ enumeration.members, member.2.IsDiscrete) :
    enumeration.alternatives = enumeration.values.map fullLiteral := by
  have literals : enumeration.members.map (fun member => member.2.fullLiteral) =
      (enumeration.members.map Prod.snd).map fullLiteral := by
    rw [List.map_map]
    rfl
  rw [alternatives, literals, values]
  apply eraseDups_map
  intro first isFirst second isSecond
  rcases List.mem_map.mp isFirst with ⟨member, isMember, rfl⟩
  rcases List.mem_map.mp isSecond with ⟨other, isOther, rfl⟩
  exact (fullLiteral_inj (discrete member isMember) (discrete other isOther)).mp

theorem values_ne_nil (nonempty : enumeration.members ≠ []) : enumeration.values ≠ [] := by
  rcases List.exists_mem_of_ne_nil _ nonempty with ⟨member, isMember⟩
  exact List.ne_nil_of_mem (mem_values_iff.mpr ⟨member, isMember, rfl⟩)

/-- The type lists the distinct values, and nothing else can be read of it. -/
theorem lists_unionText_iff (discrete : ∀ member ∈ enumeration.members, member.2.IsDiscrete)
    (nonempty : enumeration.members ≠ []) :
    Lists enumeration.unionText.toList listed ↔ listed = enumeration.values := by
  have union : enumeration.unionText = " | ".intercalate (enumeration.values.map fullLiteral) := by
    have filled : enumeration.values.map fullLiteral ≠ [] := by simpa using values_ne_nil nonempty
    rw [unionText, alternatives_eq discrete]
    split
    · rename_i empty
      exact absurd empty filled
    · rfl
  have lists := lists_intercalate (discrete_of_mem_values discrete) (values_ne_nil nonempty)
  rw [union]
  refine ⟨lists.unique, ?_⟩
  rintro rfl
  exact lists

end Enumeration

/-! ## The printed lines -/

theorem NamespaceBlock.writeEnumeration_buffer_of_ok {block after : NamespaceBlock}
    {enumeration : Enumeration} {exported : Bool}
    (printed : block.writeEnumeration enumeration exported = ⟨after, .ok ()⟩) :
    block.buffer.writeEnumeration enumeration exported = ⟨after.buffer, .ok ()⟩ := by
  cases state : block.closed with
  | true =>
      rw [writeEnumeration_of_closed state] at printed
      cases congrArg Attempt.answer printed
  | false =>
      rw [writeEnumeration_of_open state] at printed
      have body : (block.buffer.writeEnumeration enumeration exported).state = after.buffer :=
        congrArg (·.state.buffer) printed
      have answer : (block.buffer.writeEnumeration enumeration exported).answer = .ok () :=
        congrArg Attempt.answer printed
      rw [← body, ← answer]

theorem LineBuffer.lines_of_writeEnumeration {buffer after : LineBuffer}
    {enumeration : Enumeration} {exported : Bool}
    (printed : buffer.writeEnumeration enumeration exported = ⟨after, .ok ()⟩) :
    after.lines = buffer.lines ++
      (buffer.separator ++ enumeration.openingLines exported).map (buffer.indentation ++ ·) ++
        enumeration.memberTexts.map
          (fun text => buffer.indentation ++ buffer.unit ++ (text ++ ",")) ++
        (enumeration.closingLines exported).map (after.indentation ++ ·) := by
  rw [writeEnumeration_eq_outdent] at printed
  split at printed
  · rename_i renderable
    split at printed
    · rename_i level outdented
      cases printed
      have kept := lines_of_outdent outdented
      simp [addAll, kept, unfinished, Function.comp_def,
        Enumeration.renderedTexts_of_isRenderable renderable]
    · cases congrArg Attempt.answer printed
  · cases congrArg Attempt.answer printed

/-- Every value has a literal but whole numbers with too many digits. Literals are plain and
read back as what they were written for, so they tell values apart. Hence the type of an
enumeration whose values all have literals lists each value of its members once, in order of
first occurrence, and every member is written with the literal of one of these values. -/
theorem literals_and_types_read_back :
    (∀ value : Scalar,
      value.literal = .ok value.fullLiteral ∨ value.literal = .error .tooManyDigits) ∧
    (∀ value : Scalar, value.literal = .error .tooManyDigits ↔
      ∃ number, value = .integer number ∧ 10 ^ Scalar.digitLimit ≤ number.natAbs) ∧
    (∀ (value : Scalar) (literal : String), value.IsDiscrete → value.literal = .ok literal →
      (∀ character ∈ literal.toList, IsPlainAscii character) ∧
        Scalar.ofLiteral? literal = some value) ∧
    (∀ (first second : Scalar) (literal other : String), first.IsDiscrete → second.IsDiscrete →
      first.literal = .ok literal → second.literal = .ok other →
        (literal = other ↔ first = second)) ∧
    ∀ enumeration : Enumeration, (∀ member ∈ enumeration.members, member.2.IsDiscrete) →
      (∀ member ∈ enumeration.members, member.2.literal = .ok member.2.fullLiteral) →
      (∀ value, value ∈ enumeration.values ↔ ∃ member ∈ enumeration.members, member.2 = value) ∧
      (enumeration.values.Pairwise fun first second =>
        (enumeration.members.map Prod.snd).idxOf first <
          (enumeration.members.map Prod.snd).idxOf second) ∧
      (enumeration.members ≠ [] → ∀ listed,
        Enumeration.Lists enumeration.unionText.toList listed ↔ listed = enumeration.values) ∧
      (enumeration.members = [] → enumeration.unionText = "never") ∧
      ∀ exported,
        (∀ buffer : LineBuffer, buffer.unit ≠ "" →
          ∃ after, buffer.writeEnumeration enumeration exported = ⟨after, .ok ()⟩) ∧
        (∀ buffer after : LineBuffer,
          buffer.writeEnumeration enumeration exported = ⟨after, .ok ()⟩ →
            after.lines = buffer.lines ++
              (buffer.separator ++ enumeration.openingLines exported).map
                (buffer.indentation ++ ·) ++
              enumeration.members.map (fun member => buffer.indentation ++ buffer.unit ++
                (MemberName.written member.1 ++ ": " ++ member.2.fullLiteral ++ ",")) ++
              [after.indentation ++ "\x7d as const;",
                after.indentation ++ ((if exported then "export " else "") ++ "type " ++
                  enumeration.name ++ " = " ++ enumeration.unionText ++ ";")]) ∧
        ∀ block after : NamespaceBlock,
          block.writeEnumeration enumeration exported = ⟨after, .ok ()⟩ →
            block.buffer.writeEnumeration enumeration exported = ⟨after.buffer, .ok ()⟩ := by
  refine ⟨fun value => ?_, fun value => ?_, ?_, ?_, fun enumeration discrete rendered =>
    ⟨fun value => Enumeration.mem_values_iff, eraseDups_rises _, ?_, ?_, fun exported =>
      ⟨?_, ?_, ?_⟩⟩⟩
  · by_cases renderable : value.IsRenderable
    · exact .inl (Scalar.literal_eq_ok_iff.mpr ⟨renderable, rfl⟩)
    · exact .inr (Scalar.literal_eq_error_iff.mpr renderable)
  · rw [Scalar.literal_eq_error_iff, Scalar.not_isRenderable_iff]
  · intro value literal discrete isLiteral
    rcases Scalar.literal_eq_ok_iff.mp isLiteral with ⟨-, rfl⟩
    exact ⟨value.isPlainAscii_fullLiteral, Scalar.ofLiteral?_fullLiteral discrete⟩
  · intro first second literal other discrete otherDiscrete isLiteral isOther
    rcases Scalar.literal_eq_ok_iff.mp isLiteral with ⟨-, rfl⟩
    rcases Scalar.literal_eq_ok_iff.mp isOther with ⟨-, rfl⟩
    exact Scalar.fullLiteral_inj discrete otherDiscrete
  · exact fun nonempty listed => Enumeration.lists_unionText_iff discrete nonempty
  · intro empty
    simp [Enumeration.unionText, Enumeration.alternatives, empty]
  · intro buffer visible
    have renderable : enumeration.IsRenderable := fun member isMember =>
      (Scalar.literal_eq_ok_iff.mp (rendered member isMember)).1
    exact ⟨_, LineBuffer.writeEnumeration_eq buffer visible renderable exported⟩
  · intro buffer after printed
    rw [LineBuffer.lines_of_writeEnumeration printed, Enumeration.memberTexts, List.map_map]
    rfl
  · exact fun block after printed => NamespaceBlock.writeEnumeration_buffer_of_ok printed

/-- A whole number of one digit more than can be written. -/
theorem literal_of_powerOfTen :
    (Scalar.integer (10 ^ Scalar.digitLimit)).IsDiscrete ∧
      (Scalar.integer (10 ^ Scalar.digitLimit)).literal = .error .tooManyDigits :=
  ⟨trivial, Scalar.literal_eq_error_iff.mpr Scalar.not_isRenderable_powerOfTen⟩

/-- A text with a bar, quotes, a line break and characters beyond ASCII among other values,
printed on an indented buffer. -/
theorem literals_and_types_read_back_of_mixed :
    let note : Scalar := .text "a | \"b\"\né😀"
    let enumeration : Enumeration :=
      ⟨"Kind", [("note", note), ("sap-low", .integer (-3)), ("on", .boolean true), ("again", note),
        ("none", .null)]⟩
    let buffer : LineBuffer := { indentation := "  " }
    let literal := "\"a | \\\"b\\\"\\n\\u00e9\\ud83d\\ude00\""
    ((∀ member ∈ enumeration.members, member.2.IsDiscrete) ∧
        ∀ member ∈ enumeration.members, member.2.literal = .ok member.2.fullLiteral) ∧
      enumeration.members ≠ [] ∧ note.literal = .ok literal ∧
      Scalar.ofLiteral? literal = some note ∧ literal ≠ "\"a\"" ∧
      enumeration.unionText = literal ++ " | -3 | true | null" ∧
      Enumeration.Lists enumeration.unionText.toList
        [note, .integer (-3), .boolean true, .null] ∧
      ∃ after, buffer.writeEnumeration enumeration false = ⟨after, .ok ()⟩ ∧
        after.lines = ["  // enum", "  const Kind = \x7b", "    note: " ++ literal ++ ",",
          "    \"sap-low\": -3,", "    on: true,", "    again: " ++ literal ++ ",",
          "    none: null,", "  \x7d as const;",
          "  type Kind = " ++ literal ++ " | -3 | true | null;"] := by
  intro note enumeration buffer literal
  rcases literals_and_types_read_back with ⟨-, -, readsBack, apart, types⟩
  have discrete : ∀ member ∈ enumeration.members, member.2.IsDiscrete := by decide
  have rendered : ∀ member ∈ enumeration.members,
      member.2.literal = .ok member.2.fullLiteral := by decide +kernel
  have nonempty : enumeration.members ≠ [] := List.cons_ne_nil _ _
  have written : note.literal = .ok literal := by decide +kernel
  have plain : (Scalar.text "a").literal = .ok "\"a\"" := by decide +kernel
  have values : enumeration.values = [note, .integer (-3), .boolean true, .null] := by
    decide +kernel
  have union : enumeration.unionText = literal ++ " | -3 | true | null" := by decide +kernel
  rcases types enumeration discrete rendered with ⟨-, -, listed, -, printed⟩
  rcases (printed false).1 buffer (by decide) with ⟨after, done⟩
  have lines := (printed false).2.1 buffer after done
  have level : after.indentation = "  " := by
    have complete := LineBuffer.writeEnumeration_eq buffer (by decide)
      (by decide : enumeration.IsRenderable) false
    rw [complete] at done
    cases done
    rfl
  refine ⟨⟨discrete, rendered⟩, nonempty, written, (readsBack note literal trivial written).2, ?_,
    union, (listed nonempty _).mpr values.symm, after, done, ?_⟩
  · rw [Ne, apart note (.text "a") literal _ trivial trivial written plain]
    decide
  · rw [lines, level]
    decide +kernel

end TypedModules
