import TypedModules.Emission.Run
import TypedModules.Proofs.Emission.Outcome
import TypedModules.Proofs.Library.Finding

/-! # How a run ends

A run loads all libraries that its search has found, before it writes anything. The
first one that can not be loaded ends it. Otherwise it answers with the directories of
all modules, which are told by the paths alone.
-/

namespace TypedModules.Emission

open FileTree Library

-- Comparing directories by computing them does not end in reasonable time.
attribute [local irreducible] Namespace.outputDirectory

variable {tree : FileTree} {options : Options} {root path : String}
  {paths before after directories : List String} {library : Library}
  {libraries : List Library} {fault : LoadFault}

/-! ## Loading in order -/

def Loads (tree : FileTree) (path : String) (library : Library) : Prop :=
  ∃ read, load tree path = .ok read ∧ library = { read with referenced := true }

def loadedFrom (path : String) : LogRecord :=
  loadedRecord { file := path, contents := "" }

theorem file_of_loads (loads : Loads tree path library) : library.file = path := by
  rcases loads with ⟨read, loaded, rfl⟩
  have file : read.file = path := file_of_load loaded
  exact file

theorem map_file_of_loads (loads : List.Forall₂ (Loads tree) paths libraries) :
    libraries.map Library.file = paths := by
  induction loads with
  | nil => rfl
  | cons first _ induction => rw [List.map_cons, file_of_loads first, induction]

theorem map_loadedRecord_of_loads (loads : List.Forall₂ (Loads tree) paths libraries) :
    libraries.map loadedRecord = paths.map loadedFrom := by
  rw [← map_file_of_loads loads, List.map_map]
  rfl

theorem loadAll_of_loads (loads : List.Forall₂ (Loads tree) paths libraries) :
    loadAll tree paths = (libraries, .ok ()) := by
  induction loads with
  | nil => rfl
  | cons first _ induction =>
      rcases first with ⟨read, loaded, rfl⟩
      simp only [loadAll, loaded, induction]

theorem loadAll_of_error (loads : List.Forall₂ (Loads tree) before libraries)
    (failed : load tree path = .error fault) (after : List String) :
    loadAll tree (before ++ path :: after) = (libraries, .error fault) := by
  induction loads with
  | nil => simp only [List.nil_append, loadAll, failed]
  | cons first _ induction =>
      rcases first with ⟨read, loaded, rfl⟩
      simp only [List.cons_append, loadAll, loaded, induction]

theorem exists_loads (loadable : ∀ path ∈ paths, ∀ fault, load tree path ≠ .error fault) :
    ∃ libraries, List.Forall₂ (Loads tree) paths libraries := by
  induction paths with
  | nil => exact ⟨[], .nil⟩
  | cons first rest induction =>
      rw [List.forall_mem_cons] at loadable
      rcases induction loadable.2 with ⟨libraries, loads⟩
      cases read : load tree first with
      | ok library => exact ⟨_, .cons ⟨library, read, rfl⟩ loads⟩
      | error fault => exact absurd read (loadable.1 fault)

theorem loads_or_first_error (tree : FileTree) (paths : List String) :
    (∀ path ∈ paths, ∀ fault, load tree path ≠ .error fault) ∨
      ∃ before path after fault, paths = before ++ path :: after ∧
        (∀ earlier ∈ before, ∀ fault, load tree earlier ≠ .error fault) ∧
        load tree path = .error fault := by
  induction paths with
  | nil => exact .inl (by simp)
  | cons first rest induction =>
      cases read : load tree first with
      | error fault => exact .inr ⟨[], first, rest, fault, rfl, by simp, read⟩
      | ok library =>
          have firstLoads : ∀ fault, load tree first ≠ .error fault := by simp [read]
          rcases induction with loads | ⟨before, path, after, fault, split, earlier, failed⟩
          · exact .inl (List.forall_mem_cons.mpr ⟨firstLoads, loads⟩)
          · exact .inr ⟨first :: before, path, after, fault, by rw [split, List.cons_append],
              List.forall_mem_cons.mpr ⟨firstLoads, earlier⟩, failed⟩

/-! ## The end of a run -/

def homes (options : Options) (paths : List String) : List Namespace :=
  (if options.skipBaseDefinitions then [] else [SourceModule.baseNamespace]) ++
    paths.map homeAt

def placesFor (options : Options) (root : String) (paths : List String) : List String :=
  (homes options paths).map fun home =>
    home.outputDirectory root (Directory.append root options.outputDirectory)

def sourcesFor (options : Options) (libraries : List Library) : List Source :=
  (if options.skipBaseDefinitions then []
    else [Source.assembled SourceModule.baseDefinitions]) ++ libraries.map Source.library

theorem map_home_sourcesFor (libraries : List Library) :
    (sourcesFor options libraries).map Source.home =
      homes options (libraries.map Library.file) := by
  rw [sourcesFor, homes, List.map_append, List.map_map, List.map_map]
  split <;> rfl

theorem exists_artifacts_of_mem_sourcesFor {source : Source}
    (member : source ∈ sourcesFor options libraries) :
    ∃ artifacts, source.artifacts = .ok artifacts := by
  rw [sourcesFor, List.mem_append] at member
  rcases member with base | isLibrary
  · split at base
    · cases base
    · rw [List.mem_singleton.mp base]
      exact ⟨_, rfl⟩
  · rcases List.mem_map.mp isLibrary with ⟨library, -, rfl⟩
    exact ⟨_, rfl⟩

theorem run_of_error (found : (searchFor options root).paths tree = before ++ path :: after)
    (loads : List.Forall₂ (Loads tree) before libraries)
    (failed : load tree path = .error fault) :
    run tree options root = ⟨tree, before.map loadedFrom, .error (.library fault)⟩ := by
  rw [run, found, loadAll_of_error loads failed]
  simp only [map_loadedRecord_of_loads loads]

def jobsFor (options : Options) (root : String) (libraries : List Library) :
    List (String × Artifacts) :=
  (sourcesFor options libraries).map
    (jobFor root (Directory.append root options.outputDirectory))

theorem map_outputDirectory_sourcesFor (loads : List.Forall₂ (Loads tree) paths libraries) :
    ((sourcesFor options libraries).map fun source =>
        source.home.outputDirectory root (Directory.append root options.outputDirectory)) =
      placesFor options root paths := by
  rw [placesFor, ← map_file_of_loads loads, ← map_home_sourcesFor, List.map_map]
  rfl

theorem map_fst_jobsFor (loads : List.Forall₂ (Loads tree) paths libraries) :
    (jobsFor options root libraries).map Prod.fst = placesFor options root paths := by
  rw [← map_outputDirectory_sourcesFor loads, jobsFor, List.map_map]
  exact List.map_congr_left fun source _ => fst_jobFor _ _ source

theorem run_of_loads (found : (searchFor options root).paths tree = paths)
    (loads : List.Forall₂ (Loads tree) paths libraries)
    (something : sourcesFor options libraries ≠ []) :
    let outcome := outcomeOf tree (Directory.append root options.outputDirectory)
      (jobsFor options root libraries)
    run tree options root =
      ⟨outcome.tree, paths.map loadedFrom ++ outcome.log, .ok outcome.directories⟩ := by
  have serialized : ∀ source ∈ sourcesFor options libraries,
      ∃ artifacts, source.artifacts = .ok artifacts := fun _ member =>
    exists_artifacts_of_mem_sourcesFor member
  have written := write_eq_outcomeOf tree root (Directory.append root options.outputDirectory)
    serialized
  simp only [run, found, loadAll_of_loads loads, map_loadedRecord_of_loads loads]
  rw [← sourcesFor, jobsFor]
  cases sources : sourcesFor options libraries with
  | nil => exact absurd sources something
  | cons first rest =>
      rw [sources] at written
      simp only [written]

theorem answer_run_of_loads (found : (searchFor options root).paths tree = paths)
    (loads : List.Forall₂ (Loads tree) paths libraries) :
    (run tree options root).answer = .ok (placesFor options root paths) := by
  rw [← map_fst_jobsFor loads]
  by_cases nothing : sourcesFor options libraries = []
  · simp only [run, found, loadAll_of_loads loads]
    rw [← sourcesFor, jobsFor, nothing]
    rfl
  · rw [run_of_loads found loads nothing]
    rfl

/-- A run either loads everything and answers, or ends at the first path that can not
be loaded. -/
theorem run_cases (tree : FileTree) (options : Options) (root : String) :
    ((∀ path ∈ (searchFor options root).paths tree, ∀ fault, load tree path ≠ .error fault) ∧
      (run tree options root).answer =
        .ok (placesFor options root ((searchFor options root).paths tree))) ∨
      ∃ before : List String, ∃ path ∈ (searchFor options root).paths tree, ∃ fault,
        load tree path = .error fault ∧
          run tree options root = ⟨tree, before.map loadedFrom, .error (.library fault)⟩ := by
  rcases loads_or_first_error tree ((searchFor options root).paths tree) with
    loadable | ⟨before, path, after, fault, split, earlier, failed⟩
  · rcases exists_loads loadable with ⟨libraries, loads⟩
    exact .inl ⟨loadable, answer_run_of_loads rfl loads⟩
  · rcases exists_loads earlier with ⟨libraries, loads⟩
    have member : path ∈ (searchFor options root).paths tree := by
      rw [split]
      simp
    exact .inr ⟨before, path, member, fault, failed, run_of_error split loads failed⟩

theorem eq_placesFor_of_answer (returned : (run tree options root).answer = .ok directories) :
    directories = placesFor options root ((searchFor options root).paths tree) := by
  rcases run_cases tree options root with ⟨-, answered⟩ | ⟨before, path, -, fault, -, ended⟩
  · rw [answered, Except.ok.injEq] at returned
    exact returned.symm
  · rw [ended] at returned
    cases returned

theorem tree_run_of_error {reason : RunFault}
    (failed : (run tree options root).answer = .error reason) :
    (run tree options root).tree = tree := by
  rcases run_cases tree options root with ⟨-, answered⟩ | ⟨before, path, -, fault, -, ended⟩
  · rw [answered] at failed
    cases failed
  · rw [ended]

structure Ending (tree : FileTree) (options : Options) (root : String) (paths : List String)
    (outcome : RunOutcome) : Prop where
  sorted : paths.Pairwise (· < ·)
  fails_iff : (∃ fault, outcome.answer = .error fault) ↔
    ∃ path ∈ paths, ∃ fault, Unloadable tree path fault
  /-- The first path that can not be loaded decides. What comes before it has been
  recorded, and nothing has been written. -/
  failed : ∀ before path after fault, paths = before ++ path :: after →
    (∀ earlier ∈ before, ∀ reason, ¬Unloadable tree earlier reason) →
      Unloadable tree path fault →
        outcome = ⟨tree, before.map loadedFrom, .error (.library fault)⟩
  /-- Otherwise all directories are answered, whatever could be written to them. -/
  returned : (∀ path ∈ paths, ∀ fault, ¬Unloadable tree path fault) →
    outcome.answer = .ok (placesFor options root paths)

theorem ending_run (tree : FileTree) (options : Options) (root : String) :
    Ending tree options root ((searchFor options root).paths tree) (run tree options root) := by
  refine ⟨Text.distinct_rises _, ⟨?_, ?_⟩, ?_, ?_⟩
  · rintro ⟨reason, answered⟩
    rcases run_cases tree options root with
      ⟨-, returned⟩ | ⟨before, path, member, fault, refused, -⟩
    · rw [returned] at answered
      cases answered
    · exact ⟨path, member, fault, (load_eq_error_iff member).mp refused⟩
  · rintro ⟨path, member, fault, unloadable⟩
    rcases run_cases tree options root with ⟨loadable, -⟩ | ⟨before, first, -, reason, -, ended⟩
    · exact absurd ((load_eq_error_iff member).mpr unloadable) (loadable path member fault)
    · exact ⟨.library reason, by rw [ended]⟩
  · intro before path after fault split earlier unloadable
    have found : ∀ other ∈ before ++ path :: after,
        other ∈ (searchFor options root).paths tree := fun _ member => split ▸ member
    have loadable : ∀ other ∈ before, ∀ reason, load tree other ≠ .error reason :=
      fun other member reason refused => earlier other member reason
        ((load_eq_error_iff (found other (List.mem_append_left _ member))).mp refused)
    rcases exists_loads loadable with ⟨libraries, loads⟩
    exact run_of_error split loads ((load_eq_error_iff (found path (by simp))).mpr unloadable)
  · intro loadable
    rcases run_cases tree options root with
      ⟨-, returned⟩ | ⟨before, path, member, fault, refused, -⟩
    · exact returned
    · exact absurd ((load_eq_error_iff member).mp refused) (loadable path member fault)

end TypedModules.Emission
