import TypedModules.CommandLine.Execute
import TypedModules.Proofs.Emission.Running

/-! # How a command line ends

A command line that stops has changed no file: it stops at its arguments, or at a
library that can not be loaded. Whatever can not be written does not stop it. All of
that is so within the limits of the interpreter.
-/

namespace TypedModules.CommandLine

open FileTree Emission Library

variable {interpreter : Interpreter} {tree : FileTree} {root : String} {count : Nat}

/-- The end of a command line, for what its arguments ask for. -/
structure Ending (interpreter : Interpreter) (tree : FileTree) (root : String)
    (arguments : List String) (execution : Execution) : Prop where
  refused : ∀ exit, parse arguments = .error exit →
    execution.tree = tree ∧ execution.answer = .error (.exit exit)
  failed : ∀ options fault, parse arguments = .ok options →
    (interpreter.run tree options root).answer = .error fault →
      execution.tree = tree ∧ execution.answer = .error (.failed fault)
  finished : ∀ options directories, parse arguments = .ok options →
    (interpreter.run tree options root).answer = .ok directories →
      execution.tree = (interpreter.run tree options root).tree ∧ execution.answer = .ok () ∧
        exitCode execution.answer = 0

theorem run_of_permits {options : Options} (permits : interpreter.Permits tree options root) :
    interpreter.run tree options root = run tree options root :=
  if_pos permits

theorem ending_execute {arguments : List String} (permits : ∀ options,
      parse arguments = .ok options → interpreter.Permits tree options root) :
    Ending interpreter tree root arguments (execute interpreter tree root arguments) where
  refused exit refused := by
    simp [execute, refused]
  failed options fault read answered := by
    have unchanged : (interpreter.run tree options root).tree = tree := by
      rw [run_of_permits (permits options read)] at answered ⊢
      exact tree_run_of_error answered
    simp [execute, read, answered, unchanged, Except.mapError, Except.map]
  finished options directories read answered := by
    simp [execute, read, answered, Except.mapError, Except.map, exitCode]

/-- Within the limits of the interpreter, a run fails exactly when one of the paths that it
finds can not be loaded, and then it has written nothing. So a command line writes all of
its modules, or stops before the first of them. -/
theorem ending_run_and_execute (interpreter : Interpreter) (tree : FileTree) (root : String) :
    (∀ options, interpreter.Permits tree options root →
        Emission.Ending tree options root ((searchFor options root).paths tree)
          (interpreter.run tree options root)) ∧
      ∀ arguments, (∀ options, parse arguments = .ok options →
          interpreter.Permits tree options root) →
        Ending interpreter tree root arguments (execute interpreter tree root arguments) := by
  refine ⟨fun options permits => ?_, fun arguments => ending_execute⟩
  rw [run_of_permits permits]
  exact ending_run tree options root

def singleLibrary : FileTree where
  entries := [(["d"], .directory), (["d", "a.ts"], .file .empty)]
  distinct := by decide
  inDirectory := by
    simp only [List.forall_mem_cons]
    exact ⟨⟨[], "d", by decide⟩, ⟨["d"], "a.ts", by decide⟩, by simp⟩

theorem answer_run_singleLibrary :
    (run singleLibrary { libraries := ["d"], skipBaseDefinitions := true } "/").answer =
      .ok ["/@cds-models/a"] := by
  have found : (searchFor { libraries := ["d"], skipBaseDefinitions := true } "/").paths
      singleLibrary = ["/d/a.ts"] := Search.paths_of_rises (by decide) rfl (by decide)
  have loads : Loads singleLibrary "/d/a.ts" ⟨"/d/a.ts", "", true⟩ :=
    ⟨⟨"/d/a.ts", "", false⟩, by decide, rfl⟩
  rw [answer_run_of_loads found (.cons loads .nil)]
  decide

theorem parse_library : parse ["-l", "d", "--no-base-definitions"] =
    .ok { libraries := ["d"], skipBaseDefinitions := true } := by
  decide

/-- A run that is carried out and ends well. -/
theorem ending_run_and_execute_of_library :
    let interpreter : Interpreter := ⟨900, fun tree _ _ => ⟨tree, [], .ok []⟩⟩
    let options : Options := { libraries := ["d"], skipBaseDefinitions := true }
    let arguments := ["-l", "d", "--no-base-definitions"]
    (interpreter.Permits singleLibrary options "/" ∧ parse arguments = .ok options) ∧
      (interpreter.run singleLibrary options "/").answer = .ok ["/@cds-models/a"] ∧
      exitCode (execute interpreter singleLibrary "/" arguments).answer = 0 := by
  intro interpreter options arguments
  have read : parse arguments = .ok options := parse_library
  have permits : interpreter.Permits singleLibrary options "/" := by
    refine ⟨by decide, ?_⟩
    rw [show (run singleLibrary options "/").answer = _ from answer_run_singleLibrary]
    decide
  rcases ending_run_and_execute interpreter singleLibrary "/" with ⟨-, executes⟩
  have ran : (interpreter.run singleLibrary options "/").answer = .ok ["/@cds-models/a"] := by
    rw [run_of_permits permits]
    exact answer_run_singleLibrary
  have onlyOptions : ∀ other, parse arguments = .ok other →
      interpreter.Permits singleLibrary other "/" := by
    intro other same
    rw [read] at same
    cases same
    exact permits
  exact ⟨⟨permits, read⟩, ran, ((executes arguments onlyOptions).finished options _ read ran).2.2⟩

/-! ## Paths that are too long -/

def withSlashes (path : String) : Nat → String
  | 0 => path
  | count + 1 => withSlashes path count ++ "/"

theorem utf8ByteSize_withSlashes (path : String) (count : Nat) :
    (withSlashes path count).utf8ByteSize = path.utf8ByteSize + count := by
  induction count with
  | zero => rfl
  | succ count induction =>
      have slash : "/".utf8ByteSize = 1 := by decide
      rw [withSlashes, String.utf8ByteSize_append, induction, slash, Nat.add_assoc]

theorem segments_withSlashes (path : String) (count : Nat) :
    Directory.segments (withSlashes path count) =
      Directory.segments path ++ List.replicate count "" := by
  induction count with
  | zero => simp [withSlashes]
  | succ count induction =>
      rw [withSlashes, Directory.segments_slash_end, induction, List.append_assoc,
        List.replicate_succ']

theorem locate_withSlashes {path : String} {location : Location}
    (located : tree.locate path = .ok location) (isDirectory : tree.IsDirectory location)
    (followed : IsFollowed (withSlashes path count)) :
    tree.locate (withSlashes path count) = .ok location := by
  rcases locate_eq_ok_iff.mp located with ⟨nonempty, -, leads⟩
  refine locate_eq_ok_iff.mpr ⟨?_, followed, ?_⟩
  · cases count <;> simp [withSlashes, nonempty]
  · rw [segments_withSlashes, follow_append, leads]
    exact follow_of_forall_empty isDirectory fun _ member => List.eq_of_mem_replicate member

theorem append_withSlashes (first path : String) (count : Nat) :
    first ++ withSlashes path count = withSlashes (first ++ path) count := by
  induction count with
  | zero => rfl
  | succ count induction => rw [withSlashes, withSlashes, ← induction, String.append_assoc]

theorem append_root_withSlashes (count : Nat) :
    Directory.append "/" (withSlashes "d" count) = withSlashes "/d" count := by
  have relative : Directory.isAbsolute (withSlashes "d" count) = false := by
    rw [← String.append_empty (s := "d"), ← append_withSlashes,
      Directory.isAbsolute_append_of_ne _ _ (by decide)]
    decide
  rw [Directory.append, if_neg (by simp [relative]), if_pos (.inr (by decide)),
    append_withSlashes]
  rfl

theorem found_singleLibrary {search : Search} (atRoot : search.root = "/")
    (deep : search.recursive = true) (followed : IsFollowed (withSlashes "/d" count)) :
    search.found singleLibrary (withSlashes "d" count) =
      [Directory.append (withSlashes "/d" count) "a.ts"] := by
  have located : singleLibrary.locate (withSlashes "/d" count) = .ok ["d"] :=
    locate_withSlashes (by decide) (by decide) followed
  have isDirectory : singleLibrary.leadsToDirectory (withSlashes "/d" count) := by
    rw [leadsToDirectory_iff]
    exact find?_eq_some_iff.mpr ⟨_, located, by decide⟩
  have below : singleLibrary.below ["d"] = [(["a.ts"], .file .empty)] := by decide
  have named : hasLibraryName "a.ts" = true := by decide
  rw [Search.found, atRoot, append_root_withSlashes, if_pos isDirectory, if_pos deep]
  simp [Search.filesBelow, listAll, located, below, pathBelow, followed, named]

/-- A recursive search finds paths that are too long to be loaded, even of texts. -/
theorem fails_of_long_path :
    let options : Options :=
      { libraries := [withSlashes "d" 4090], recursive := true, skipBaseDefinitions := true }
    (∃ fault, (run singleLibrary options "/").answer = .error fault) ∧
      ∀ path ∈ (searchFor options "/").paths singleLibrary,
        singleLibrary.find? path ≠ some .directory ∧
          ∀ content, singleLibrary.find? path = some (.file content) → content.IsValidUTF8 := by
  intro options
  have size : (withSlashes "/d" 4090).utf8ByteSize = 4092 :=
    utf8ByteSize_withSlashes "/d" 4090
  have followed : IsFollowed (withSlashes "/d" 4090) := by
    rw [IsFollowed, size]
    decide
  have found : (searchFor options "/").paths singleLibrary =
      [Directory.append (withSlashes "/d" 4090) "a.ts"] :=
    Search.paths_of_rises
      (List.flatMap_singleton _ _ |>.trans (found_singleLibrary rfl rfl followed)) rfl
      (List.pairwise_singleton _ _)
  have long : ¬IsFollowed (Directory.append (withSlashes "/d" 4090) "a.ts") := by
    have name : "a.ts".utf8ByteSize = 4 := by decide
    rw [IsFollowed, Directory.append, if_neg (by decide), longestPath]
    split <;> simp only [String.utf8ByteSize_append, size, name] <;> omega
  have lost : ∀ path ∈ (searchFor options "/").paths singleLibrary,
      ∀ entry, singleLibrary.find? path ≠ some entry := by
    rw [found, List.forall_mem_singleton]
    intro entry leads
    rcases find?_eq_some_iff.mp leads with ⟨location, located, -⟩
    exact long (locate_eq_ok_iff.mp located).2.1
  constructor
  · rw [(ending_run singleLibrary options "/").fails_iff, found]
    exact ⟨_, List.mem_singleton_self _, _, .tooLong long⟩
  · exact fun path member =>
      ⟨lost path member _, fun content leads => absurd leads (lost path member _)⟩

end TypedModules.CommandLine
