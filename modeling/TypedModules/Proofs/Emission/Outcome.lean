import Mathlib.Tactic.Choose
import TypedModules.Proofs.Emission.Isolation

/-! # Writing modules together and alone

The outcome for several modules is put together from the outcomes that each of
them has when it is written alone.
-/

namespace TypedModules.Emission

open FileTree

-- Comparing directories by computing them does not end in reasonable time.
attribute [local irreducible] Namespace.outputDirectory

def Outcome.errors (outcome : Outcome) : List LogRecord :=
  outcome.log.filter (·.severity = .error)

def summary (complete total : Nat) (root : String) : LogRecord :=
  ⟨.info, "Wrote " ++ toString complete ++ " of " ++ toString total ++ " module(s) to '" ++
    root ++ "'."⟩

def place (workingDirectory root : String) (source : Source) : Location :=
  Directory.names (source.home.outputDirectory workingDirectory root)

/-! ## Outcomes -/

def outcomeOf (tree : FileTree) (root : String) (jobs : List (String × Artifacts)) : Outcome :=
  let run := writeModules tree jobs
  { tree := run.1
    directories := jobs.map Prod.fst
    log := run.2.flatten.map (LogRecord.mk .error) ++
      [summary (run.2.countP List.isEmpty) jobs.length root] }

def contents (source : Source) : Artifacts :=
  source.artifacts.toOption.getD {}

def jobFor (workingDirectory root : String) (source : Source) : String × Artifacts :=
  (source.home.outputDirectory workingDirectory root, contents source)

@[simp]
theorem fst_jobFor (workingDirectory root : String) (source : Source) :
    (jobFor workingDirectory root source).1 =
      source.home.outputDirectory workingDirectory root := by
  rw [jobFor]

@[simp]
theorem snd_jobFor (workingDirectory root : String) (source : Source) :
    (jobFor workingDirectory root source).2 = contents source := by
  rw [jobFor]

@[simp]
theorem fst_placed_jobFor (workingDirectory root : String) (source : Source)
    (file : String × String) :
    (placed (jobFor workingDirectory root source).1 file).1 =
      place workingDirectory root source ++ [file.1] := by
  rw [placed, fst_jobFor, place]

theorem contents_of_artifacts {source : Source} {artifacts : Artifacts}
    (found : source.artifacts = .ok artifacts) : contents source = artifacts := by
  rw [contents, found]
  rfl

theorem artifacts_eq_contents {source : Source}
    (serialized : ∃ artifacts, source.artifacts = .ok artifacts) :
    source.artifacts = .ok (contents source) := by
  rcases serialized with ⟨artifacts, found⟩
  rw [contents_of_artifacts found, found]

theorem mapM_artifacts {sources : List Source}
    (serialized : ∀ source ∈ sources, ∃ artifacts, source.artifacts = .ok artifacts) :
    sources.mapM Source.artifacts = .ok (sources.map contents) := by
  induction sources with
  | nil => rfl
  | cons source rest induction =>
      rw [List.mapM_cons, artifacts_eq_contents (serialized source List.mem_cons_self),
        induction fun other member => serialized other (List.mem_cons_of_mem source member)]
      rfl

theorem write_eq_outcomeOf (tree : FileTree) (workingDirectory root : String)
    {sources : List Source}
    (serialized : ∀ source ∈ sources, ∃ artifacts, source.artifacts = .ok artifacts) :
    write tree workingDirectory root sources =
      .ok (outcomeOf tree root (sources.map (jobFor workingDirectory root))) := by
  have jobs : (sources.map fun source => source.home.outputDirectory workingDirectory root).zip
      (sources.map contents) = sources.map (jobFor workingDirectory root) :=
    List.zip_map'
  have directories : (sources.map (jobFor workingDirectory root)).map Prod.fst =
      sources.map fun source => source.home.outputDirectory workingDirectory root := by
    simp [jobFor]
  rw [write, mapM_artifacts serialized, outcomeOf, directories, List.length_map]
  simp only [bind, Except.bind, jobs]
  rfl

section Sources

variable {tree : FileTree} {workingDirectory root : String} {sources : List Source}
  {source : Source}

theorem separate_of_named_ne (rooted : Directory.isAbsolute workingDirectory = true)
    (root : String) {other : Source} (dotted : source.home.IsDotted)
    (otherDotted : other.home.IsDotted) (different : source.home.named ≠ other.home.named) :
    Separate (jobFor workingDirectory root source) (jobFor workingDirectory root other) := by
  rw [Separate, fst_jobFor, fst_jobFor, dotted.names_outputDirectory rooted,
    otherDotted.names_outputDirectory rooted]
  exact apart_of_isDotted _ dotted otherDotted different

end Sources

end TypedModules.Emission
