import TypedModules.Proofs.Layout.Content

/-! # What a buffer was asked for

How deep a buffer is indented, whether a block is closed and which lines it holds can be
told from the operations that it was asked for and that it accepted. As long as levels of
indentation can be told apart, this is what its state follows, and what it refuses next
depends on no more than that.
-/

namespace TypedModules

/-! ## Histories -/

structure Event where
  call : BlockCall
  accepted : Bool
  deriving DecidableEq

namespace Event

def indented : Event := ⟨.content (.edit .indent), true⟩

def outdented : Event := ⟨.content (.edit .outdent), true⟩

def closed : Event := ⟨.close, true⟩

end Event

/-- What a buffer was asked for since it was created, the last operation first. -/
abbrev History := List Event

structure Origin where
  unit : String
  depth : Nat
  lines : List String

def Origin.plain (unit : String) : Origin where
  unit := unit
  depth := 0
  lines := []

def Origin.block (name unit : String) : Origin where
  unit := unit
  depth := 1
  lines := [NamespaceBlock.heading name]

/-! ## Levels of indentation -/

def levels (unit : String) (depth : Nat) : String :=
  String.join (List.replicate depth unit)

@[simp]
theorem levels_zero (unit : String) : levels unit 0 = "" := rfl

theorem levels_one (unit : String) : levels unit 1 = unit := by
  simp [levels]

theorem levels_succ (unit : String) (depth : Nat) :
    levels unit (depth + 1) = levels unit depth ++ unit := by
  simp [levels, List.replicate_succ']

theorem length_levels (unit : String) (depth : Nat) :
    (levels unit depth).length = depth * unit.length := by
  simp [levels]

theorem levels_inj {unit : String} (visible : unit ≠ "") {first second : Nat} :
    levels unit first = levels unit second ↔ first = second := by
  refine ⟨fun same => ?_, fun same => same ▸ rfl⟩
  have lengths := congrArg String.length same
  rw [length_levels, length_levels] at lengths
  exact Nat.mul_right_cancel (by simpa [Nat.pos_iff_ne_zero] using visible) lengths

/-! ## The state that a history leads to -/

namespace History

variable (origin : Origin)

def indents (history : History) : Nat :=
  history.count .indented

def outdents (history : History) : Nat :=
  history.count .outdented

def depth (history : History) : Nat :=
  origin.depth + history.indents - history.outdents

def IsClosed (history : History) : Prop :=
  .closed ∈ history

instance (history : History) : Decidable history.IsClosed :=
  inferInstanceAs (Decidable (_ ∈ _))

/-- What was written since lines were dropped for the last time, or since the start. A
line stands behind the levels of the time when it was added. -/
def lines : History → List String
  | [] => origin.lines
  | ⟨_, false⟩ :: earlier => lines earlier
  | ⟨.content .clear, true⟩ :: _ => []
  | ⟨.content (.edit (.add line)), true⟩ :: earlier =>
      lines earlier ++ [levels origin.unit (depth origin earlier) ++ line]
  | ⟨.close, true⟩ :: earlier => lines earlier ++ ["\x7d"]
  | ⟨_, true⟩ :: earlier => lines earlier

/-- The state of a buffer, or of the body of a block, that was asked for these operations. -/
structure Leads (history : History) (buffer : LineBuffer) (closed : Bool) : Prop where
  unit : buffer.unit = origin.unit
  ended : closed = true ↔ history.IsClosed
  balanced : history.outdents ≤ origin.depth + history.indents
  indentation :
    buffer.indentation = if closed then "" else levels origin.unit (history.depth origin)
  lines : buffer.lines = history.lines origin

namespace Leads

variable {origin : Origin} {history : History} {buffer after : LineBuffer} {closed : Bool}

theorem level (leads : history.Leads origin buffer closed) {event : Event}
    (isLevel : event ∉ [.indented, .outdented, .closed]) (sameUnit : after.unit = buffer.unit)
    (sameIndentation : after.indentation = buffer.indentation)
    (written : after.lines = History.lines origin (event :: history)) :
    Leads origin (event :: history) after closed := by
  simp only [List.mem_cons, List.not_mem_nil, or_false, not_or] at isLevel
  have sameIndents : indents (event :: history) = history.indents :=
    List.count_cons_of_ne isLevel.1
  have sameOutdents : outdents (event :: history) = history.outdents :=
    List.count_cons_of_ne isLevel.2.1
  have sameDepth : depth origin (event :: history) = history.depth origin := by
    rw [depth, depth, sameIndents, sameOutdents]
  constructor
  · rw [sameUnit, leads.unit]
  · rw [leads.ended, IsClosed, IsClosed, List.mem_cons, or_iff_right (Ne.symm isLevel.2.2)]
  · rw [sameIndents, sameOutdents]
    exact leads.balanced
  · rw [sameIndentation, sameDepth, leads.indentation]
  · exact written

theorem refused (leads : history.Leads origin buffer closed) (call : BlockCall) :
    Leads origin (⟨call, false⟩ :: history) buffer closed :=
  leads.level (by simp [Event.indented, Event.outdented, Event.closed]) rfl rfl leads.lines

theorem joined (leads : history.Leads origin buffer closed) (glue : String) :
    Leads origin (⟨.content (.join glue), true⟩ :: history) buffer closed :=
  leads.level (by simp [Event.indented, Event.outdented, Event.closed]) rfl rfl leads.lines

theorem cleared (leads : history.Leads origin buffer closed) :
    Leads origin (⟨.content .clear, true⟩ :: history) buffer.clear closed :=
  leads.level (by decide) rfl rfl rfl

theorem added (leads : history.Leads origin buffer false) (line : String) :
    Leads origin (⟨.content (.edit (.add line)), true⟩ :: history) (buffer.add line) false := by
  refine leads.level (by simp [Event.indented, Event.outdented, Event.closed]) rfl rfl ?_
  rw [History.lines, LineBuffer.lines_add, leads.lines, leads.indentation]
  rfl

theorem indented (leads : history.Leads origin buffer false) :
    Leads origin (.indented :: history) buffer.indent false := by
  have further : indents (.indented :: history) = history.indents + 1 := List.count_cons_self
  have same : outdents (.indented :: history) = history.outdents :=
    List.count_cons_of_ne (by decide)
  have balanced := leads.balanced
  have deeper : depth origin (.indented :: history) = history.depth origin + 1 := by
    rw [depth, depth, further, same]
    omega
  constructor
  · exact leads.unit
  · simpa [IsClosed, Event.indented, Event.closed] using leads.ended
  · rw [further, same]
    omega
  · rw [deeper, levels_succ, LineBuffer.indentation_indent, leads.indentation, leads.unit]
    rfl
  · exact leads.lines

theorem outdented (leads : history.Leads origin buffer false) {lower : Nat}
    (deep : history.depth origin = lower + 1) :
    Leads origin (.outdented :: history) { buffer with indentation := levels origin.unit lower }
      false := by
  have further : outdents (.outdented :: history) = history.outdents + 1 := List.count_cons_self
  have same : indents (.outdented :: history) = history.indents :=
    List.count_cons_of_ne (by decide)
  rw [depth] at deep
  have shallower : depth origin (.outdented :: history) = lower := by
    rw [depth, further, same]
    omega
  constructor
  · exact leads.unit
  · simpa [IsClosed, Event.outdented, Event.closed] using leads.ended
  · rw [further, same]
    omega
  · rw [shallower]
    rfl
  · exact leads.lines

theorem ended_of_close (leads : history.Leads origin buffer false) :
    Leads origin (.closed :: history) ({ buffer with indentation := "" }.add "\x7d") true := by
  have sameIndents : indents (.closed :: history) = history.indents :=
    List.count_cons_of_ne (by decide)
  have sameOutdents : outdents (.closed :: history) = history.outdents :=
    List.count_cons_of_ne (by decide)
  constructor
  · exact leads.unit
  · simp [IsClosed]
  · rw [sameIndents, sameOutdents]
    exact leads.balanced
  · rfl
  · rw [LineBuffer.lines_add, leads.lines]
    rfl

end Leads

end History

/-! ## What is refused -/

def BufferCall.IsElementary : BufferCall → Prop
  | edit _ | join _ | clear => True
  | setUnit _ | enumeration _ _ => False

def BlockCall.IsElementary : BlockCall → Prop
  | content call => call.IsElementary
  | close => True

def BlockCall.IsRefusedAt (depth : Nat) (closed : Bool) : BlockCall → Prop
  | content (.edit .outdent) => closed = true ∨ depth = 0
  | content (.edit _) => closed = true
  | content _ => False
  | close => closed = true ∨ depth ≠ 1

def Event.of {Answer : Type} (call : BlockCall) (answer : Except LayoutFault Answer) : Event :=
  ⟨call, answer.isOk⟩

section Refused

variable {Answer : Type} {Refused : Prop}

theorem refused_ok_iff (answer : Answer) (allowed : ¬Refused) :
    (Except.ok answer : Except LayoutFault Answer).isOk = false ↔ Refused :=
  iff_of_false Bool.false_ne_true.symm allowed

theorem refused_error_iff (fault : LayoutFault) (refused : Refused) :
    (Except.error fault : Except LayoutFault Answer).isOk = false ↔ Refused :=
  iff_of_true rfl refused

end Refused

namespace LineBuffer

variable {origin : Origin} {history : History} {buffer : LineBuffer}

theorem outdent_of_levels {unit : String} {lower : Nat} (sameUnit : buffer.unit = unit)
    (visible : unit ≠ "") (indentation : buffer.indentation = levels unit (lower + 1)) :
    buffer.outdent = .ok { buffer with indentation := levels unit lower } := by
  rw [levels_succ] at indentation
  have indented : buffer.indentation ≠ "" := by simp [indentation, visible]
  rw [outdent, if_neg indented, indentation, sameUnit, shortened_append _ visible]

theorem leads_perform (leads : history.Leads origin buffer false) (visible : origin.unit ≠ "")
    {call : BufferCall} (elementary : call.IsElementary) :
    History.Leads origin (.of (.content call) (buffer.perform call).answer :: history)
        (buffer.perform call).state false ∧
      ((buffer.perform call).answer.isOk = false ↔
        BlockCall.IsRefusedAt (history.depth origin) false (.content call)) := by
  cases call with
  | join glue => exact ⟨leads.joined glue, refused_ok_iff _ id⟩
  | clear => exact ⟨leads.cleared, refused_ok_iff _ id⟩
  | setUnit unit | enumeration enumeration exported => cases elementary
  | edit edit =>
      cases edit with
      | add line => exact ⟨leads.added line, refused_ok_iff _ Bool.false_ne_true⟩
      | indent => exact ⟨leads.indented, refused_ok_iff _ Bool.false_ne_true⟩
      | outdent =>
          have indentation : buffer.indentation = levels origin.unit (history.depth origin) :=
            leads.indentation
          rw [perform, edit]
          cases deep : history.depth origin with
          | zero =>
              have flat : buffer.outdent = .error .notIndented := by
                rw [outdent, if_pos (by rw [indentation, deep, levels_zero])]
              rw [flat]
              exact ⟨leads.refused _, refused_error_iff _ (.inr rfl)⟩
          | succ lower =>
              rw [outdent_of_levels leads.unit visible (deep ▸ indentation)]
              exact ⟨leads.outdented deep, refused_ok_iff _ (by simp [BlockCall.IsRefusedAt])⟩

end LineBuffer

namespace NamespaceBlock

variable {origin : Origin} {history : History} {block : NamespaceBlock}

theorem leads_perform_of_closed (leads : history.Leads origin block.buffer block.closed)
    (isClosed : block.closed = true) {call : BlockCall} (elementary : call.IsElementary) :
    History.Leads origin (.of call (block.perform call).answer :: history)
        (block.perform call).state.buffer (block.perform call).state.closed ∧
      ((block.perform call).answer.isOk = false ↔
        call.IsRefusedAt (history.depth origin) block.closed) := by
  cases call with
  | close =>
      have isContent : BlockCall.close.IsContent := trivial
      rw [perform_of_closed isClosed isContent]
      exact ⟨leads.refused _, refused_error_iff _ (.inl isClosed)⟩
  | content call =>
      cases call with
      | edit edit =>
          have isContent : (BlockCall.content (.edit edit)).IsContent := trivial
          rw [perform_of_closed isClosed isContent]
          refine ⟨leads.refused _, refused_error_iff _ ?_⟩
          cases edit with
          | add line | indent => exact isClosed
          | outdent => exact .inl isClosed
      | join glue => exact ⟨leads.joined glue, refused_ok_iff _ id⟩
      | clear => exact ⟨leads.cleared, refused_ok_iff _ id⟩
      | setUnit unit | enumeration enumeration exported => cases elementary

theorem leads_perform_of_open (leads : history.Leads origin block.buffer block.closed)
    (isOpen : block.closed = false) (visible : origin.unit ≠ "") {call : BlockCall}
    (elementary : call.IsElementary) :
    History.Leads origin (.of call (block.perform call).answer :: history)
        (block.perform call).state.buffer (block.perform call).state.closed ∧
      ((block.perform call).answer.isOk = false ↔
        call.IsRefusedAt (history.depth origin) block.closed) := by
  have onBuffer : history.Leads origin block.buffer false := isOpen ▸ leads
  cases call with
  | content call =>
      have ofBuffer := LineBuffer.leads_perform onBuffer visible elementary
      rw [perform_content_of_open isOpen, Attempt.embed, isOpen]
      exact ofBuffer
  | close =>
      have indentation : block.buffer.indentation = levels origin.unit (history.depth origin) :=
        onBuffer.indentation
      -- Closing compares texts, which tells depths apart as no level is empty.
      by_cases single : history.depth origin = 1
      · rw [single] at indentation
        have balanced : block.buffer.indentation = block.buffer.unit := by
          rw [indentation, levels_one, leads.unit]
        rw [perform, close, if_neg (by simp [isOpen]), if_neg (by simp [balanced]),
          LineBuffer.outdent_of_levels leads.unit visible indentation]
        exact ⟨onBuffer.ended_of_close,
          refused_ok_iff _ (by simp [BlockCall.IsRefusedAt, isOpen, single])⟩
      · have unbalanced : block.buffer.indentation ≠ block.buffer.unit := by
          intro balanced
          refine single ((levels_inj visible).mp ?_)
          rw [← indentation, balanced, leads.unit, levels_one]
        rw [perform, close, if_neg (by simp [isOpen]), if_pos unbalanced]
        exact ⟨leads.refused _, refused_error_iff _ (.inr single)⟩

theorem leads_perform (leads : history.Leads origin block.buffer block.closed)
    (visible : origin.unit ≠ "") {call : BlockCall} (elementary : call.IsElementary) :
    History.Leads origin (.of call (block.perform call).answer :: history)
        (block.perform call).state.buffer (block.perform call).state.closed ∧
      ((block.perform call).answer.isOk = false ↔
        call.IsRefusedAt (history.depth origin) block.closed) := by
  cases state : block.closed with
  | true => exact state ▸ leads_perform_of_closed leads state elementary
  | false => exact state ▸ leads_perform_of_open leads state visible elementary

end NamespaceBlock

/-! ## Runs -/

theorem Attempt.exists_error_of_not_isOk {Fault State Answer : Type}
    {attempt : Attempt Fault State Answer} (refused : attempt.answer.isOk = false) :
    ∃ fault, attempt.answer = .error fault := by
  cases outcome : attempt.answer with
  | ok answer => simp [outcome, Except.isOk, Except.toBool] at refused
  | error fault => exact ⟨fault, rfl⟩

namespace History

variable {State Call : Type} (perform : State → Call → Attempt LayoutFault State (Option String))
  (asked : Call → BlockCall)

def advance (reached : State × History) (call : Call) : State × History :=
  let attempt := perform reached.1 call
  (attempt.state, .of (asked call) attempt.answer :: reached.2)

def follow (start : State × History) (calls : List Call) : State × History :=
  calls.foldl (advance perform asked) start

theorem isSuffix_follow (reached : State × History) (calls : List Call) :
    reached.2 <:+ (follow perform asked reached calls).2 := by
  induction calls generalizing reached with
  | nil => exact List.suffix_refl _
  | cons call rest induction =>
      exact (List.suffix_cons _ _).trans (induction (advance perform asked reached call))

end History

theorem LineBuffer.leads_follow {origin : Origin} {reached : LineBuffer × History}
    (leads : reached.2.Leads origin reached.1 false) (visible : origin.unit ≠ "")
    {calls : List BufferCall} (elementary : ∀ call ∈ calls, call.IsElementary) :
    let later := History.follow perform .content reached calls
    later.2.Leads origin later.1 false :=
  List.foldlRecOn calls (History.advance perform .content) leads fun _ held call member =>
    (leads_perform held visible (elementary call member)).1

theorem NamespaceBlock.leads_follow {origin : Origin} {reached : NamespaceBlock × History}
    (leads : reached.2.Leads origin reached.1.buffer reached.1.closed)
    (visible : origin.unit ≠ "") {calls : List BlockCall}
    (elementary : ∀ call ∈ calls, call.IsElementary) :
    let later := History.follow perform id reached calls
    later.2.Leads origin later.1.buffer later.1.closed :=
  List.foldlRecOn calls (History.advance perform id) leads fun _ held call member =>
    (leads_perform held visible (elementary call member)).1

theorem History.leads_plain (unit : String) : History.Leads (.plain unit) [] { unit } false where
  unit := rfl
  ended := by simp [History.IsClosed]
  balanced := Nat.zero_le _
  indentation := rfl
  lines := rfl

theorem History.leads_opened (name unit : String) :
    History.Leads (.block name unit) [] (NamespaceBlock.opened name unit).buffer false where
  unit := rfl
  ended := by simp [History.IsClosed]
  balanced := Nat.zero_le _
  indentation := (levels_one unit).symm
  lines := rfl

theorem LineBuffer.state_perform_of_elementary {buffer : LineBuffer} {call : BufferCall}
    (elementary : call.IsElementary) {fault : LayoutFault}
    (refused : (buffer.perform call).answer = .error fault) :
    (buffer.perform call).state = buffer := by
  cases call with
  | edit edit =>
      exact Attempt.state_ofExcept_of_error buffer (Attempt.answer_map_eq_error_iff.mp refused)
  | join glue | clear => cases refused
  | setUnit unit | enumeration enumeration exported => cases elementary

theorem NamespaceBlock.state_perform_of_elementary {block : NamespaceBlock} {call : BlockCall}
    (elementary : call.IsElementary) {fault : LayoutFault}
    (refused : (block.perform call).answer = .error fault) :
    (block.perform call).state = block := by
  cases call with
  | close =>
      exact Attempt.state_ofExcept_of_error block (Attempt.answer_map_eq_error_iff.mp refused)
  | content call =>
      cases call with
      | edit edit =>
          exact Attempt.state_ofExcept_of_error block (Attempt.answer_map_eq_error_iff.mp refused)
      | join glue | clear => cases refused
      | setUnit unit | enumeration enumeration exported => cases elementary

/-- As long as levels of indentation can be told apart, the history of a buffer or of a
block tells its lines, its indentation and whether it is closed. Each further operation is
refused exactly if the history says so, and then changes nothing. A closed block stays
closed. -/
theorem follows_history {unit : String} (visible : unit ≠ "") :
    (∀ calls : List BufferCall, (∀ call ∈ calls, call.IsElementary) →
      let reached := History.follow LineBuffer.perform .content ({ unit }, []) calls
      reached.2.Leads (.plain unit) reached.1 false ∧
        ∀ call : BufferCall, call.IsElementary →
          let next := reached.1.perform call
          (next.answer.isOk = false ↔
              BlockCall.IsRefusedAt (reached.2.depth (.plain unit)) false (.content call)) ∧
            (next.answer.isOk = false → next.state = reached.1)) ∧
    ∀ (name : String) (calls : List BlockCall), (∀ call ∈ calls, call.IsElementary) →
      let reached := History.follow NamespaceBlock.perform id (.opened name unit, []) calls
      reached.2.Leads (.block name unit) reached.1.buffer reached.1.closed ∧
        (∀ call : BlockCall, call.IsElementary →
          let next := reached.1.perform call
          (next.answer.isOk = false ↔
              call.IsRefusedAt (reached.2.depth (.block name unit)) reached.1.closed) ∧
            (next.answer.isOk = false → next.state = reached.1)) ∧
        ((reached.1.perform .close).answer.isOk = true →
          (reached.1.perform .close).state.buffer.lines = reached.1.buffer.lines ++ ["\x7d"] ∧
            (reached.1.perform .close).state.closed = true) ∧
        ∀ further : List BlockCall, (∀ call ∈ further, call.IsElementary) →
          reached.1.closed = true →
            (History.follow NamespaceBlock.perform id reached further).1.closed = true := by
  constructor
  · intro calls elementary reached
    have leads : reached.2.Leads (.plain unit) reached.1 false :=
      LineBuffer.leads_follow (History.leads_plain unit) visible elementary
    refine ⟨leads, fun call callElementary => ⟨?_, fun refused => ?_⟩⟩
    · exact (LineBuffer.leads_perform leads visible callElementary).2
    · rcases Attempt.exists_error_of_not_isOk refused with ⟨fault, answer⟩
      exact LineBuffer.state_perform_of_elementary callElementary answer
  · intro name calls elementary reached
    have leads : reached.2.Leads (.block name unit) reached.1.buffer reached.1.closed :=
      NamespaceBlock.leads_follow (History.leads_opened name unit) visible elementary
    refine ⟨leads, fun call callElementary => ⟨?_, fun refused => ?_⟩, fun accepted => ?_,
      fun further furtherElementary isClosed => ?_⟩
    · exact (NamespaceBlock.leads_perform leads visible callElementary).2
    · rcases Attempt.exists_error_of_not_isOk refused with ⟨fault, answer⟩
      exact NamespaceBlock.state_perform_of_elementary callElementary answer
    · have closeElementary : BlockCall.close.IsElementary := trivial
      have next := (NamespaceBlock.leads_perform leads visible closeElementary).1
      rw [Event.of, accepted] at next
      exact ⟨by rw [next.lines, leads.lines]; rfl, next.ended.mpr List.mem_cons_self⟩
    · have later := NamespaceBlock.leads_follow leads visible furtherElementary
      have kept := History.isSuffix_follow NamespaceBlock.perform id reached further
      exact later.ended.mpr (kept.subset (leads.ended.mp isClosed))

/-- A block that is closed too early, closed, and asked for more. -/
theorem follows_history_of_books :
    let calls : List BlockCall := [.content (.edit (.add "a")), .content (.edit .indent), .close,
      .content (.edit (.add "b")), .content (.edit .outdent), .close, .content (.edit .outdent)]
    let reached := History.follow NamespaceBlock.perform id (.opened "Books" "  ", []) calls
    "  " ≠ "" ∧ (∀ call ∈ calls, call.IsElementary) ∧
      reached.1.buffer.lines = ["export namespace Books \x7b", "  a", "    b", "\x7d"] ∧
      reached.1.buffer.indentation = "" ∧ reached.1.closed = true ∧
      (reached.1.perform (.content (.edit (.add "late")))).state = reached.1 := by
  intro calls reached
  have visible : "  " ≠ "" := by decide
  have elementary : ∀ call ∈ calls, call.IsElementary := by
    simp [calls, BlockCall.IsElementary, BufferCall.IsElementary]
  rcases (follows_history visible).2 "Books" calls elementary with ⟨leads, next, -, -⟩
  have isClosed : reached.1.closed = true := leads.ended.mpr (by decide)
  have refusal := next (.content (.edit (.add "late"))) trivial
  refine ⟨visible, elementary, ?_, ?_, isClosed, refusal.2 (refusal.1.mpr isClosed)⟩
  · rw [leads.lines]
    decide
  · rw [leads.indentation, if_pos isClosed]

end TypedModules
