import TypedModules.Proofs.Directory.Containment
import TypedModules.Proofs.Namespace.Placement

/-! # Modules outside the output directory

A namespace that is written with dots never leads up, but segments can be given one
by one, and one of them may be a step up. Such a module climbs out of the output
directory, and only comes back by the names of the directories that it has left.
-/

namespace TypedModules.Namespace

open Directory

variable {module : Namespace} {workingDirectory : String}

/-! ## Steps to a directory -/

def steps (module : Namespace) : List String :=
  resolve false module.segments

def climb (module : Namespace) : Nat :=
  (module.steps.takeWhile (· = "..")).length

def descent (module : Namespace) : List String :=
  module.steps.dropWhile (· = "..")

theorem leads (module : Namespace) :
    Leads module.segments module.climb module.descent.reverse := by
  rcases exists_leads module.segments module.slashFree with ⟨climb, down, leads⟩
  have steps : module.steps = List.replicate climb ".." ++ down.reverse := by
    rw [Namespace.steps, resolve, leads.unknown, List.reverse_append, List.reverse_replicate]
  have noUp : down.reverse.takeWhile (· = "..") = [] ∧
      down.reverse.dropWhile (· = "..") = down.reverse := by
    cases names : down.reverse with
    | nil => simp
    | cons first rest =>
        have member : first ∈ down := List.mem_reverse.mp (names ▸ List.mem_cons_self)
        simp [(leads.ordinary first member).notUp]
  have climbs : module.climb = climb := by
    rw [Namespace.climb, steps, List.takeWhile_append_of_pos (by simp), noUp.1]
    simp
  have descends : module.descent = down.reverse := by
    rw [descent, steps, List.dropWhile_append_of_pos (by simp), noUp.2]
  rw [climbs, descends, List.reverse_reverse]
  exact leads

theorem steps_eq (module : Namespace) :
    module.steps = List.replicate module.climb ".." ++ module.descent := by
  rw [steps, resolve, module.leads.unknown, List.reverse_append, List.reverse_reverse,
    List.reverse_replicate]

theorem ordinary_of_mem_descent {name : String} (member : name ∈ module.descent) :
    IsOrdinary name :=
  module.leads.ordinary name (List.mem_reverse.mpr member)

theorem ne_of_mem_steps {step : String} (member : step ∈ module.steps) :
    step ≠ "" ∧ step ≠ "." ∧ '/' ∉ step.toList := by
  rw [steps_eq] at member
  rcases List.mem_append.mp member with up | down
  · rw [List.eq_of_mem_replicate up]
    decide
  · have ordinary := ordinary_of_mem_descent down
    exact ⟨ordinary.nonempty, ordinary.notHere, ordinary.slashFree⟩

theorem directory_eq_intercalate_steps (module : Namespace) :
    module.directory = "/".intercalate module.steps :=
  directory_eq_of_resolve rfl fun _ member => ne_of_mem_steps member

theorem isAbsolute_directory (module : Namespace) : isAbsolute module.directory = false := by
  rw [directory_eq_intercalate_steps]
  exact isAbsolute_intercalate fun step member =>
    ⟨(ne_of_mem_steps member).1, (ne_of_mem_steps member).2.2⟩

theorem foldl_enter_directory (module : Namespace) {stack : List String} (noUp : ".." ∉ stack) :
    (Directory.segments module.directory).foldl (enter true) stack =
      module.descent.reverse ++ stack.drop module.climb := by
  have followed : module.steps.foldl (enter true) stack =
      module.descent.reverse ++ stack.drop module.climb := by
    rw [steps_eq, List.foldl_append, foldl_enter_up _ _ noUp,
      foldl_enter_ordinary true _ fun _ member => ordinary_of_mem_descent member]
  rw [directory_eq_intercalate_steps, ← followed]
  by_cases here : module.steps = []
  · rw [here]
    simp [Directory.segments, Text.pieces]
  · rw [segments_intercalate (fun step member => (ne_of_mem_steps member).2.2) here]

/-! ## Below the output directory -/

theorem trail_append_directory (module : Namespace) (place : String) :
    trail (append place module.directory) =
      (trail place).take ((trail place).length - module.climb) ++ module.descent := by
  have noUp : ".." ∉ (trail place).reverse := by
    simpa using up_notMem_trail place
  rw [trail_append place module.isAbsolute_directory, module.foldl_enter_directory noUp,
    List.reverse_append, List.reverse_reverse, List.drop_reverse, List.reverse_reverse]

section Output

variable (module : Namespace) (rooted : isAbsolute workingDirectory = true) (root : String)

include rooted

theorem names_absolute (path : String) :
    names (Directory.absolute workingDirectory path) = trail (append workingDirectory path) :=
  names_normalize (isAbsolute_append _ rooted)

theorem names_outputDirectory_eq :
    let base := names (Directory.absolute workingDirectory root)
    names (module.outputDirectory workingDirectory root) =
      base.take (base.length - module.climb) ++ module.descent := by
  intro base
  rw [outputDirectory, names_absolute rooted,
    trail_append_append workingDirectory root module.isAbsolute_directory,
    trail_append_directory, ← names_absolute rooted]

/-- A module lies within the output directory exactly if it comes down by the names
that it has climbed. -/
theorem isWithin_outputDirectory_iff :
    IsWithin (Directory.absolute workingDirectory root)
        (module.outputDirectory workingDirectory root) ↔
      (names (Directory.absolute workingDirectory root)).drop
          ((names (Directory.absolute workingDirectory root)).length - module.climb) <+:
        module.descent := by
  let base := names (Directory.absolute workingDirectory root)
  have sameMark : rootMark (append workingDirectory root) =
      rootMark (append workingDirectory (append root module.directory)) :=
    (rootMark_append_append _ _ module.isAbsolute_directory).symm
  calc
    IsWithin (Directory.absolute workingDirectory root)
        (module.outputDirectory workingDirectory root)
    _ ↔ base <+: names (module.outputDirectory workingDirectory root) := by
      rw [outputDirectory, Directory.absolute, Directory.absolute,
        isWithin_normalize_iff (isAbsolute_append _ rooted) (isAbsolute_append _ rooted),
        ← names_absolute rooted, ← names_absolute rooted]
      exact and_iff_right sameMark
    _ ↔ base.take (base.length - module.climb) ++ base.drop (base.length - module.climb) <+:
          base.take (base.length - module.climb) ++ module.descent := by
      rw [names_outputDirectory_eq module rooted, List.take_append_drop]
    _ ↔ base.drop (base.length - module.climb) <+: module.descent :=
      List.prefix_append_right_inj _

end Output

theorem climb_eq_zero_of_isDotted (dotted : module.IsDotted) : module.climb = 0 := by
  have unknown := dotted.foldl_enter_segments false []
  rw [climb, steps, resolve, unknown, List.append_nil, List.reverse_reverse,
    List.length_eq_zero_iff]
  cases names : module.named with
  | nil => rfl
  | cons first rest =>
      have ordinary := dotted.ordinary first (names ▸ List.mem_cons_self)
      simp [ordinary.notUp]

theorem exists_not_isWithin (climbs : module.climb ≠ 0) :
    ∃ root, ¬IsWithin (Directory.absolute "/" root) (module.outputDirectory "/" root) := by
  have leaves : ∀ root, (names (Directory.absolute "/" root)).length = 1 →
      ¬names (Directory.absolute "/" root) <+: module.descent →
        ¬IsWithin (Directory.absolute "/" root) (module.outputDirectory "/" root) := by
    intro root single apart within
    have rooted : isAbsolute "/" = true := by decide
    rw [isWithin_outputDirectory_iff module rooted, single,
      Nat.sub_eq_zero_of_le (Nat.one_le_iff_ne_zero.mpr climbs), List.drop_zero] at within
    exact apart within
  -- The module comes down by one of two names at most.
  by_cases first : ["a"] <+: module.descent
  · refine ⟨"b", leaves "b" (by decide +kernel) fun second => ?_⟩
    have same := List.prefix_of_prefix_length_le first second (by decide +kernel)
    exact absurd same (by decide +kernel)
  · exact ⟨"a", leaves "a" (by decide +kernel) fun second => first second⟩

/-- A module lies within the output directory exactly if it comes down by the names
that it has climbed. It does so below every output directory if it does not climb at
all, and no module that is written with dots climbs. -/
theorem isWithin_iff_descends (module : Namespace) :
    (module.directory = "/".intercalate (List.replicate module.climb ".." ++ module.descent) ∧
        ∀ name ∈ module.descent, IsOrdinary name) ∧
      (∀ workingDirectory root, isAbsolute workingDirectory = true →
        let base := names (Directory.absolute workingDirectory root)
        names (module.outputDirectory workingDirectory root) =
            base.take (base.length - module.climb) ++ module.descent ∧
          (IsWithin (Directory.absolute workingDirectory root)
              (module.outputDirectory workingDirectory root) ↔
            base.drop (base.length - module.climb) <+: module.descent)) ∧
      ((∀ workingDirectory root, isAbsolute workingDirectory = true →
          IsWithin (Directory.absolute workingDirectory root)
            (module.outputDirectory workingDirectory root)) ↔
        module.climb = 0) ∧
      ∀ text, ofDotted text = .ok module → module.climb = 0 := by
  refine ⟨⟨?_, fun _ member => ordinary_of_mem_descent member⟩, ?_, ⟨?_, ?_⟩, ?_⟩
  · rw [directory_eq_intercalate_steps, steps_eq]
  · intro workingDirectory root rooted base
    exact ⟨names_outputDirectory_eq module rooted root,
      isWithin_outputDirectory_iff module rooted root⟩
  · intro everywhere
    by_contra climbs
    rcases exists_not_isWithin climbs with ⟨root, outside⟩
    exact outside (everywhere "/" root (by decide))
  · intro level workingDirectory root rooted
    rw [isWithin_outputDirectory_iff module rooted root, level]
    simp
  · intro text read
    exact climb_eq_zero_of_isDotted (isDotted_of_ofDotted read)

/-- A module that climbs one level and comes back. -/
theorem isWithin_iff_descends_of_return :
    let module : Namespace := ⟨["..", "shop", "books"], by decide⟩
    isAbsolute "/work/shop" = true ∧ module.climb = 1 ∧
      module.outputDirectory "/work/shop" "." = "/work/shop/books" ∧
      IsWithin (Directory.absolute "/work/shop" ".") (module.outputDirectory "/work/shop" ".") := by
  intro module
  have rooted : isAbsolute "/work/shop" = true := by decide
  refine ⟨rooted, by decide +kernel, by decide +kernel, ?_⟩
  rw [((isWithin_iff_descends module).2.1 "/work/shop" "." rooted).2]
  decide +kernel

/-- A segment that is a step up makes a namespace, and its module is written beside the
output directory. -/
theorem not_isWithin_of_step_up :
    let module : Namespace := ⟨["..", "x"], by decide⟩
    ofSegments ["..", "x"] = .ok module ∧
      Directory.absolute "/work/dir" "out" = "/work/dir/out" ∧
      module.outputDirectory "/work/dir" "out" = "/work/dir/x" ∧
      ¬IsWithin "/work/dir/out" "/work/dir/x" := by
  intro module
  refine ⟨by decide +kernel, by decide +kernel, by decide +kernel, ?_⟩
  have outer : normalize "/work/dir/out" = "/work/dir/out" := by decide +kernel
  have inner : normalize "/work/dir/x" = "/work/dir/x" := by decide +kernel
  rw [← outer, ← inner, isWithin_normalize_iff (by decide) (by decide)]
  decide +kernel

end TypedModules.Namespace
