import TypedModules.Namespace
import TypedModules.Proofs.Directory.Resolution

/-! # Where modules are placed

The segments of a namespace that is written with dots are ordinary names, apart
from empty ones, which are passed over. Its directory consists of just these
names, so a module lies below the output directory along its own segments.
-/

namespace TypedModules

/-- A dotted text without slashes and without empty segments. The empty text
stands for the namespace without segments. -/
def IsDottedName (text : String) : Prop :=
  '/' ∉ text.toList ∧ (text ≠ "" → "" ∉ Text.pieces '.' text)

instance (text : String) : Decidable (IsDottedName text) :=
  inferInstanceAs (Decidable (_ ∧ _))

namespace Namespace

/-- The segments are pieces of a dotted text. Some of them may be empty. -/
def IsDotted (module : Namespace) : Prop :=
  ∀ segment ∈ module.segments, '.' ∉ segment.toList

def IsProper (module : Namespace) : Prop :=
  ∀ segment ∈ module.segments, segment ≠ "" ∧ '.' ∉ segment.toList

/-- The segments that lead to a directory of their own, which empty ones do not. -/
def named (module : Namespace) : List String :=
  module.segments.filter (· ≠ "")

instance (module : Namespace) : Decidable module.IsDotted :=
  inferInstanceAs (Decidable (∀ segment ∈ module.segments, _))

instance (module : Namespace) : Decidable module.IsProper :=
  inferInstanceAs (Decidable (∀ segment ∈ module.segments, _))

theorem isDotted_of_ofDotted {text : String} {module : Namespace}
    (read : ofDotted text = .ok module) : module.IsDotted := by
  rw [ofDotted, ofSegments_eq_ok_iff] at read
  intro segment member
  rw [read] at member
  split at member
  · cases member
  · exact Text.notMem_of_mem_pieces member

theorem exists_proper_of_isDottedName {text : String} (dotted : IsDottedName text) :
    ∃ module, ofDotted text = .ok module ∧ module.IsProper := by
  by_cases empty : text = ""
  · subst text
    refine ⟨⟨[], by simp⟩, ?_, ?_⟩
    · rw [ofDotted, if_pos rfl, ofSegments_eq_ok_iff]
    · simp [IsProper]
  · have slashFree : ∀ segment ∈ Text.pieces '.' text, '/' ∉ segment.toList :=
      fun segment isPiece holdsSlash => dotted.1 (Text.mem_of_mem_pieces isPiece holdsSlash)
    refine ⟨⟨Text.pieces '.' text, slashFree⟩, ?_, ?_⟩
    · rw [ofDotted, if_neg empty, ofSegments_eq_ok_iff]
    · intro segment isPiece
      refine ⟨?_, Text.notMem_of_mem_pieces isPiece⟩
      intro isEmpty
      exact dotted.2 empty (isEmpty ▸ isPiece)

end Namespace

namespace Directory

theorem foldl_enter_join (rooted : Bool) (stack : List String) {first : String}
    {others : List String} (slashFree : ∀ segment ∈ others, '/' ∉ segment.toList) :
    (segments (join first others)).foldl (enter rooted) stack =
      others.foldl (enter rooted) ((segments first).foldl (enter rooted) stack) := by
  induction others generalizing first with
  | nil => rfl
  | cons second rest induction =>
      rw [List.forall_mem_cons] at slashFree
      have relative := isAbsolute_eq_false_of_slashFree slashFree.1
      rw [join, List.foldl_cons, ← join, induction slashFree.2,
        foldl_enter_append rooted stack first relative, segments_of_slashFree slashFree.1]
      rfl

theorem isAbsolute_join {first : String} {others : List String}
    (slashFree : ∀ segment ∈ others, '/' ∉ segment.toList) :
    isAbsolute (join first others) = isAbsolute first := by
  induction others generalizing first with
  | nil => rfl
  | cons second rest induction =>
      rw [List.forall_mem_cons] at slashFree
      have relative := isAbsolute_eq_false_of_slashFree slashFree.1
      rw [join, List.foldl_cons, ← join, induction slashFree.2,
        isAbsolute_append_of_relative first relative]

end Directory

namespace Namespace

open Directory

theorem isAbsolute_path (module : Namespace) : isAbsolute module.path = false := by
  have slashFree := module.slashFree
  cases segments : module.segments with
  | nil => simp [path, segments, isAbsolute]
  | cons first rest =>
      rw [segments, List.forall_mem_cons] at slashFree
      simp only [path, segments]
      rw [isAbsolute_join slashFree.2, isAbsolute_eq_false_of_slashFree slashFree.1]

theorem foldl_enter_path (module : Namespace) (rooted : Bool) (stack : List String) :
    (Directory.segments module.path).foldl (enter rooted) stack =
      module.segments.foldl (enter rooted) stack := by
  have slashFree := module.slashFree
  cases segments : module.segments with
  | nil =>
      have here : Directory.segments "." = ["."] := by decide
      simp [path, segments, here]
  | cons first rest =>
      rw [segments, List.forall_mem_cons] at slashFree
      simp only [path, segments]
      rw [foldl_enter_join rooted stack slashFree.2, segments_of_slashFree slashFree.1]
      rfl

theorem directory_eq_of_resolve {module : Namespace} {steps : List String}
    (resolved : resolve false module.segments = steps)
    (kept : ∀ step ∈ steps, step ≠ "" ∧ step ≠ "." ∧ '/' ∉ step.toList) :
    module.directory = "/".intercalate steps := by
  have mark := (rootMark_eq_empty_iff _).2 module.isAbsolute_path
  have followed : resolve false (Directory.segments module.path) = steps := by
    rw [resolve, foldl_enter_path, ← resolve, resolved]
  have slashFree : ∀ step ∈ steps, '/' ∉ step.toList := fun step member => (kept step member).2.2
  by_cases here : steps = []
  · simp [directory, Directory.normalize, mark, followed, here, withoutDot]
  · have notDot : "/".intercalate steps ≠ "." :=
      intercalate_ne_of_notMem slashFree here (by decide) fun member => (kept "." member).2.1 rfl
    have nonempty : "/".intercalate steps ≠ "" :=
      intercalate_ne_of_notMem slashFree here (by decide) fun member => (kept "" member).1 rfl
    simp [directory, Directory.normalize, mark, followed, nonempty, withoutDot, notDot]

namespace IsDotted

variable {module : Namespace}

theorem ordinary (dotted : module.IsDotted) :
    ∀ segment ∈ module.named, Directory.IsOrdinary segment := by
  intro segment member
  rw [named, List.mem_filter, decide_eq_true_eq] at member
  have dotFree := dotted segment member.1
  refine ⟨member.2, ?_, ?_, module.slashFree segment member.1⟩
  · rintro rfl
    exact dotFree (by decide)
  · rintro rfl
    exact dotFree (by decide)

theorem up_notMem (dotted : module.IsDotted) : ".." ∉ module.named :=
  fun member => (dotted.ordinary ".." member).notUp rfl

theorem foldl_enter_segments (dotted : module.IsDotted) (rooted : Bool) (stack : List String) :
    module.segments.foldl (enter rooted) stack = module.named.reverse ++ stack := by
  rw [← foldl_enter_ordinary rooted module.named dotted.ordinary, named,
    foldl_enter_filter_nonempty]

theorem directory_eq (dotted : module.IsDotted) :
    module.directory = "/".intercalate module.named := by
  apply directory_eq_of_resolve
  · rw [resolve, dotted.foldl_enter_segments]
    simp
  · intro name member
    have ordinary := dotted.ordinary name member
    exact ⟨ordinary.nonempty, ordinary.notHere, ordinary.slashFree⟩

theorem isAbsolute_directory (dotted : module.IsDotted) : isAbsolute module.directory = false := by
  rw [dotted.directory_eq]
  exact isAbsolute_intercalate_of_ordinary dotted.ordinary

theorem foldl_enter_directory (dotted : module.IsDotted) (stack : List String) :
    (Directory.segments module.directory).foldl (enter true) stack =
      module.named.reverse ++ stack := by
  rw [← foldl_enter_names, dotted.directory_eq, names_intercalate_of_ordinary dotted.ordinary,
    foldl_enter_ordinary true _ dotted.ordinary]

theorem trail_append_directory (dotted : module.IsDotted) (place : String) :
    trail (append place module.directory) = trail place ++ module.named := by
  rw [trail_append place dotted.isAbsolute_directory, dotted.foldl_enter_directory]
  simp

theorem trail_append_localDirectory (dotted : module.IsDotted) (place : String) :
    trail (append place module.localDirectory) = trail place ++ module.named := by
  have relative : isAbsolute module.localDirectory = false := by
    simp [isAbsolute, localDirectory]
  rw [trail_append place relative, localDirectory, segments_here_append, List.foldl_cons,
    enter_dot, dotted.foldl_enter_directory]
  simp

theorem trail_append_path (dotted : module.IsDotted) (place : String) :
    trail (append place module.path) = trail place ++ module.named := by
  rw [trail_append place module.isAbsolute_path, foldl_enter_path, dotted.foldl_enter_segments]
  simp

end IsDotted

namespace IsProper

variable {module : Namespace}

theorem isDotted (proper : module.IsProper) : module.IsDotted :=
  fun segment member => (proper segment member).2

theorem named_eq (proper : module.IsProper) : module.named = module.segments := by
  rw [named, List.filter_eq_self]
  intro segment member
  simpa using (proper segment member).1

theorem ordinary (proper : module.IsProper) :
    ∀ segment ∈ module.segments, Directory.IsOrdinary segment :=
  proper.named_eq ▸ proper.isDotted.ordinary

theorem up_notMem (proper : module.IsProper) : ".." ∉ module.segments :=
  proper.named_eq ▸ proper.isDotted.up_notMem

theorem path_ne_empty (proper : module.IsProper) : module.path ≠ "" := by
  intro empty
  have followed := proper.isDotted.foldl_enter_segments true []
  have stays : (Directory.segments "").foldl (enter true) [] = [] := by decide
  rw [← foldl_enter_path, empty, stays, proper.named_eq] at followed
  have none : module.segments = [] := by simpa using followed.symm
  simp [path, none] at empty

theorem isAbsolute_directory (proper : module.IsProper) : isAbsolute module.directory = false :=
  proper.isDotted.isAbsolute_directory

theorem trail_append_directory (proper : module.IsProper) (place : String) :
    trail (append place module.directory) = trail place ++ module.segments :=
  proper.named_eq ▸ proper.isDotted.trail_append_directory place

end IsProper

end Namespace

namespace Namespace

open Directory

variable {module other : Namespace} {workingDirectory : String}

theorem isAbsolute_outputDirectory (module : Namespace)
    (rooted : isAbsolute workingDirectory = true) (root : String) :
    isAbsolute (module.outputDirectory workingDirectory root) = true := by
  rw [outputDirectory, Directory.absolute]
  exact isAbsolute_normalize (isAbsolute_append _ rooted)

theorem IsDotted.names_outputDirectory (dotted : module.IsDotted)
    (rooted : isAbsolute workingDirectory = true) (root : String) :
    names (module.outputDirectory workingDirectory root) =
      trail (append workingDirectory root) ++ module.named := by
  rw [outputDirectory, Directory.absolute, names_normalize (isAbsolute_append _ rooted),
    trail_append_append workingDirectory root dotted.isAbsolute_directory,
    dotted.trail_append_directory]

theorem names_outputDirectory (proper : module.IsProper)
    (rooted : isAbsolute workingDirectory = true) (root : String) :
    names (module.outputDirectory workingDirectory root) =
      trail (append workingDirectory root) ++ module.segments :=
  proper.named_eq ▸ proper.isDotted.names_outputDirectory rooted root

theorem trail_outputDirectory (proper : module.IsProper)
    (rooted : isAbsolute workingDirectory = true) (root : String) :
    trail (module.outputDirectory workingDirectory root) =
      trail (append workingDirectory root) ++ module.segments := by
  rw [outputDirectory, Directory.absolute, trail_normalize (isAbsolute_append _ rooted),
    ← names_normalize (isAbsolute_append _ rooted)]
  exact names_outputDirectory proper rooted root

theorem rootMark_outputDirectory (proper : module.IsProper)
    (rooted : isAbsolute workingDirectory = true) (root : String) :
    rootMark (module.outputDirectory workingDirectory root) =
      rootMark (append workingDirectory root) := by
  rw [outputDirectory, Directory.absolute, rootMark_normalize (isAbsolute_append _ rooted),
    rootMark_append_append workingDirectory root proper.isAbsolute_directory]

theorem outputDirectory_eq_iff (dotted : module.IsDotted) (otherDotted : other.IsDotted)
    (rooted : isAbsolute workingDirectory = true) (root : String) :
    module.outputDirectory workingDirectory root =
        other.outputDirectory workingDirectory root ↔
      module.named = other.named := by
  constructor
  · intro same
    have names := congrArg Directory.names same
    rw [dotted.names_outputDirectory rooted, otherDotted.names_outputDirectory rooted] at names
    exact List.append_cancel_left names
  · intro same
    rw [outputDirectory, outputDirectory, dotted.directory_eq, otherDotted.directory_eq, same]

end Namespace

end TypedModules
