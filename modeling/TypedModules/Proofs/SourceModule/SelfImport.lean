import TypedModules.Proofs.Namespace.Confinement
import TypedModules.Proofs.SourceModule.Importing

/-! # Modules that import themselves

The directory of a module is written down in its shortest form, and the module is
looked up by its segments as they are. Both lead to the same place, so a module finds
itself in the present directory and leaves itself out of its imports. Segments that are
all empty are the exception, as joined they are no path at all.
-/

namespace TypedModules

namespace Namespace

open Directory

variable {module : Namespace} {workingDirectory : String}

def IsPathless (module : Namespace) : Prop :=
  module.segments ≠ [] ∧ ∀ segment ∈ module.segments, segment = ""

instance (module : Namespace) : Decidable module.IsPathless :=
  inferInstanceAs (Decidable (_ ∧ _))

theorem append_eq_empty_iff {directory path : String} :
    append directory path = "" ↔ directory = "" ∧ path = "" := by
  unfold append
  split
  · rename_i rooted
    have nonempty : path ≠ "" := by
      rintro rfl
      exact absurd rooted (by decide)
    simp [nonempty]
  · split
    · exact String.append_eq_empty_iff
    · rename_i closed
      rw [not_or] at closed
      simp [closed.1]

theorem join_eq_empty_iff {first : String} {others : List String} :
    join first others = "" ↔ first = "" ∧ ∀ other ∈ others, other = "" := by
  induction others generalizing first with
  | nil => simp [join]
  | cons second rest induction =>
      rw [join, List.foldl_cons, ← join, induction, append_eq_empty_iff, List.forall_mem_cons,
        and_assoc]

theorem path_eq_empty_iff (module : Namespace) : module.path = "" ↔ module.IsPathless := by
  unfold path IsPathless
  cases module.segments with
  | nil => simp
  | cons first rest => simp [join_eq_empty_iff]

theorem trail_append_localDirectory (module : Namespace) (place : String) :
    trail (append place module.localDirectory) = trail (append place module.path) := by
  have relative : isAbsolute module.localDirectory = false := by
    simp [isAbsolute, localDirectory]
  have noUp : ".." ∉ (trail place).reverse := by
    simpa using up_notMem_trail place
  rw [trail_append place relative, trail_append place module.isAbsolute_path, localDirectory,
    segments_here_append, List.foldl_cons, enter_dot, module.foldl_enter_directory noUp,
    foldl_enter_path, module.leads.known _ noUp]

theorem directoryFrom_self (rooted : isAbsolute workingDirectory = true) :
    module.directoryFrom workingDirectory module.localDirectory =
      if module.IsPathless then .error .empty else .ok "" := by
  rw [directoryFrom, if_neg module.localDirectory_ne_empty, relative, names_absolute rooted,
    names_absolute rooted, trail_append_localDirectory, route_self]
  simp only [path_eq_empty_iff]
  split <;> rfl

theorem specifier_self (rooted : isAbsolute workingDirectory = true) :
    module.specifier workingDirectory module.localDirectory =
      if module.IsPathless then .error .empty else .ok "./" := by
  rw [specifier, directoryFrom_self rooted]
  split <;> rfl

theorem isLocatedAt_self (rooted : isAbsolute workingDirectory = true) :
    module.isLocatedAt workingDirectory module.localDirectory =
      if module.IsPathless then .error .empty else .ok true := by
  rw [isLocatedAt, if_neg module.localDirectory_ne_empty, specifier_self rooted]
  split <;> rfl

end Namespace

namespace SourceModule

variable {workingDirectory : String} {module : SourceModule}

/-- What is imported from the present directory is not shown. -/
theorem importLines_with_here (module : SourceModule) (imported : Namespace) :
    importLines { module with
        imports :=
          if "./" ∈ module.imports.keys then module.imports
          else module.imports.put "./" imported } =
      module.importLines := by
  by_cases known : "./" ∈ module.imports.keys
  · simp only [if_pos known]
  · simp only [if_neg known, importLines, Registry.entries_put_of_new known, List.filter_append]
    simp

theorem contribute_importOf_self (rooted : Directory.isAbsolute workingDirectory = true) :
    module.contribute workingDirectory (.importOf module.home) =
      if module.home.IsPathless then ⟨module, .error (.directory .empty)⟩
      else
        ⟨{ module with
            imports :=
              if "./" ∈ module.imports.keys then module.imports
              else module.imports.put "./" module.home },
          .ok none⟩ := by
  rw [contribute_importOf, Namespace.specifier_self rooted]
  by_cases pathless : module.home.IsPathless
  · rw [if_pos pathless, if_pos pathless]
  · rw [if_neg pathless, if_neg pathless]

/-- A module finds itself in the present directory, in every working directory and
whatever its segments are, so it can import itself at any time and shows no line for
it. Only if all its segments are empty, it has no path and is not found. -/
theorem imports_itself_unless_pathless (workingDirectory : String)
    (rooted : Directory.isAbsolute workingDirectory = true) (home : Namespace) :
    let here := home.localDirectory
    (¬home.IsPathless →
      home.specifier workingDirectory here = .ok "./" ∧
        home.isLocatedAt workingDirectory here = .ok true ∧
        ∀ module : SourceModule, module.home = home →
          let added := module.contribute workingDirectory (.importOf home)
          added.answer = .ok none ∧ added.state.importLines = module.importLines) ∧
      (home.IsPathless →
        home.specifier workingDirectory here = .error .empty ∧
          home.isLocatedAt workingDirectory here = .error .empty ∧
          ∀ module : SourceModule, module.home = home →
            module.contribute workingDirectory (.importOf home) =
              ⟨module, .error (.directory .empty)⟩) := by
  intro here
  have specifier := home.specifier_self rooted
  have located := home.isLocatedAt_self rooted
  constructor
  · intro visible
    rw [if_neg visible] at specifier located
    refine ⟨specifier, located, ?_⟩
    rintro module rfl
    rw [contribute_importOf_self rooted, if_neg visible]
    exact ⟨rfl, module.importLines_with_here module.home⟩
  · intro pathless
    rw [if_pos pathless] at specifier located
    refine ⟨specifier, located, ?_⟩
    rintro module rfl
    rw [contribute_importOf_self rooted, if_pos pathless]

/-- Steps up, empty segments and detours do not matter. -/
theorem imports_itself_of_detour :
    let home : Namespace := ⟨["..", "", ".", "shop", "..", "books"], by decide⟩
    let module : SourceModule := { home }
    Directory.isAbsolute "/work" = true ∧ ¬home.IsPathless ∧ home.localDirectory = "./../books" ∧
      home.specifier "/work" home.localDirectory = .ok "./" ∧
      home.isLocatedAt "/work" home.localDirectory = .ok true ∧
      (module.contribute "/work" (.importOf home)).answer = .ok none ∧
      (module.contribute "/work" (.importOf home)).state.importLines = [] := by
  intro home module
  have rooted : Directory.isAbsolute "/work" = true := by decide
  have visible : ¬home.IsPathless := by decide
  rcases (imports_itself_unless_pathless "/work" rooted home).1 visible with
    ⟨specifier, located, imports⟩
  rcases imports module rfl with ⟨answer, lines⟩
  exact ⟨rooted, visible, by decide, specifier, located, answer, lines⟩

/-- A single empty segment is enough to make a module that can not import itself. -/
theorem not_imported_of_empty_segment :
    let home : Namespace := ⟨[""], by decide⟩
    let module : SourceModule := { home }
    Namespace.ofSegments [""] = .ok home ∧ home.localDirectory = "./" ∧
      home.specifier "/work" home.localDirectory = .error .empty ∧
      home.isLocatedAt "/work" home.localDirectory = .error .empty ∧
      (module.contribute "/work" (.importOf home)).answer = .error (.directory .empty) := by
  decide

end SourceModule

end TypedModules
