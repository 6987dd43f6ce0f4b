import TypedModules.Proofs.Emission.Beside
import TypedModules.Proofs.Emission.Sharing
import TypedModules.Proofs.Library.Reading

/-! # What becomes of a library

A library is copied to the directory of its namespace, next to an empty runtime stub. The
copy has the line breaks that the library had been read with, so it differs from a file
that holds carriage returns, and is the same as any other.
-/

namespace TypedModules.Emission

open FileTree Library

def directoryAt (options : Options) (root path : String) : String :=
  (homeAt path).outputDirectory root (Directory.append root options.outputDirectory)

def soleOptions : Options :=
  { outputDirectory := "out", libraries := ["x.ts"] }

-- Two closed directories, which can be computed as long as the definition may be opened.
theorem directories_of_soleOptions :
    SourceModule.baseDefinitions.home.outputDirectory "/" "/out" = "/out/_" ∧
      directoryAt soleOptions "/" "/x.ts" = "/out/x" := by
  decide

-- Comparing directories by computing them does not end in reasonable time.
attribute [local irreducible] Namespace.outputDirectory

variable {tree : FileTree} {options : Options} {root path : String}
  {paths directories : List String} {library : Library} {libraries : List Library}
  {source : Source} {sources : List Source}

/-- A file of a module at the end of a run: it holds what the module has for it, or is
left as it was and reported. -/
def Delivers (tree : FileTree) (outcome : RunOutcome) (directory name : String)
    (content : ByteArray) : Prop :=
  let location := Directory.names directory ++ [name]
  outcome.tree.lookup location = some (.file content) ∨
    outcome.tree.lookup location = tree.lookup location ∧
      ∃ record ∈ outcome.log, record.severity = .error ∧ Reports directory name record.text

/-! ## The library among the modules of a run -/

theorem exists_loads_of_answer (returned : (run tree options root).answer = .ok directories) :
    ∃ libraries, List.Forall₂ (Loads tree) ((searchFor options root).paths tree) libraries := by
  rcases run_cases tree options root with ⟨loadable, -⟩ | ⟨before, path, -, fault, -, ended⟩
  · exact exists_loads loadable
  · rw [ended] at returned
    cases returned

theorem exists_library_of_mem (loads : List.Forall₂ (Loads tree) paths libraries)
    (member : path ∈ paths) : ∃ library ∈ libraries, Loads tree path library := by
  induction loads with
  | nil => cases member
  | cons first _ induction =>
      rcases List.mem_cons.mp member with rfl | later
      · exact ⟨_, List.mem_cons_self, first⟩
      · rcases induction later with ⟨library, inRest, loads⟩
        exact ⟨library, List.mem_cons_of_mem _ inRest, loads⟩

theorem isDotted_of_mem_sourcesFor (member : source ∈ sourcesFor options libraries) :
    source.home.IsDotted := by
  have isHome : source.home ∈ homes options (libraries.map Library.file) := by
    rw [← map_home_sourcesFor]
    exact List.mem_map_of_mem member
  exact isDotted_of_mem_homes isHome

theorem exists_split_of_count (place : Source → String) (member : source ∈ sources)
    (once : (sources.map place).count (place source) = 1) :
    ∃ before after, sources = before ++ source :: after ∧
      ∀ other ∈ before ++ after, place other ≠ place source := by
  rcases List.append_of_mem member with ⟨before, after, rfl⟩
  rw [List.map_append, List.map_cons, List.count_append, List.count_cons_self] at once
  have none : ((before ++ after).map place).count (place source) = 0 := by
    rw [List.map_append, List.count_append]
    omega
  rw [List.count_eq_zero] at none
  refine ⟨before, after, rfl, fun other isOther same => none ?_⟩
  exact List.mem_map.mpr ⟨other, isOther, same⟩

theorem separate_of_outputDirectory_ne (rooted : Directory.isAbsolute root = true)
    {output : String} {other : Source} (member : source ∈ sourcesFor options libraries)
    (otherMember : other ∈ sourcesFor options libraries)
    (differ : other.home.outputDirectory root output ≠ source.home.outputDirectory root output) :
    Separate (jobFor root output other) (jobFor root output source) := by
  have dotted := isDotted_of_mem_sourcesFor member
  have otherDotted := isDotted_of_mem_sourcesFor otherMember
  apply separate_of_named_ne rooted _ otherDotted dotted
  exact fun same => differ
    ((Namespace.outputDirectory_eq_iff otherDotted dotted rooted _).mpr same)

theorem delivers_of_count (rooted : Directory.isAbsolute root = true)
    (found : (searchFor options root).paths tree = paths)
    (loads : List.Forall₂ (Loads tree) paths libraries)
    (member : source ∈ sourcesFor options libraries) {artifacts : Artifacts}
    (serialized : source.artifacts = .ok artifacts)
    (once : (placesFor options root paths).count
      (source.home.outputDirectory root (Directory.append root options.outputDirectory)) = 1) :
    ∀ file ∈ artifactFiles artifacts, Delivers tree (run tree options root)
      (source.home.outputDirectory root (Directory.append root options.outputDirectory))
      file.1 file.2.toUTF8 := by
  intro file inFiles
  let output := Directory.append root options.outputDirectory
  let job := jobFor root output
  rw [← map_outputDirectory_sourcesFor loads] at once
  rcases exists_split_of_count (fun source => source.home.outputDirectory root output) member
    once with ⟨before, after, split, differ⟩
  have separate : ∀ other ∈ before.map job ++ after.map job, Separate other (job source) := by
    rw [← List.map_append, List.forall_mem_map]
    intro other isOther
    have otherMember : other ∈ sourcesFor options libraries := by
      rw [split, List.mem_append, List.mem_cons]
      exact (List.mem_append.mp isOther).imp id .inr
    exact separate_of_outputDirectory_ne rooted member otherMember (differ other isOther)
  have jobs : jobsFor options root libraries = before.map job ++ job source :: after.map job := by
    rw [jobsFor, split, List.map_append, List.map_cons]
  have inJob : file ∈ artifactFiles (job source).2 := by
    rw [snd_jobFor, contents_of_artifacts serialized]
    exact inFiles
  have fate := lookup_file_beside tree separate inJob
  rw [← jobs, fst_placed_jobFor, fst_jobFor] at fate
  rw [run_of_loads found loads (List.ne_nil_of_mem member), Delivers]
  rcases fate with held | ⟨unchanged, failure, failed, reason⟩
  · exact .inl held
  · refine .inr ⟨unchanged, ⟨.error, failure⟩, ?_, rfl, reason⟩
    exact List.mem_append_right _ (List.mem_append_left _ (List.mem_map_of_mem failed))

/-- The bytes that are written for a library are those of its file, exactly when that
holds no carriage return. -/
theorem library_copied_up_to_line_breaks (rooted : Directory.isAbsolute root = true)
    (returned : (run tree options root).answer = .ok directories)
    (member : path ∈ (searchFor options root).paths tree)
    (unshared : directories.count (directoryAt options root path) = 1) :
    ∃ original : String, tree.find? path = some (.file original.toUTF8) ∧
      Delivers tree (run tree options root) (directoryAt options root path) definitionsName
        (Text.unified original).toUTF8 ∧
      Delivers tree (run tree options root) (directoryAt options root path) stubName .empty ∧
      ((Text.unified original).toUTF8 = original.toUTF8 ↔ '\r' ∉ original.toList) := by
  rcases exists_loads_of_answer returned with ⟨libraries, loads⟩
  rcases exists_library_of_mem loads member with ⟨library, isLoaded, read, loaded, rfl⟩
  rcases exists_original_of_load loaded with ⟨original, found, contents⟩
  have inSources : Source.library { read with referenced := true } ∈
      sourcesFor options libraries :=
    List.mem_append_right _ (List.mem_map_of_mem isLoaded)
  have home : (Source.library { read with referenced := true }).home = homeAt path := by
    rw [← file_of_load loaded]
    rfl
  rw [eq_placesFor_of_answer returned, directoryAt, ← home] at unshared
  have delivered := delivers_of_count rooted rfl loads inSources rfl unshared
  rw [home, ← directoryAt] at delivered
  refine ⟨original, found, ?_, ?_, ?_⟩
  · rw [← contents]
    exact delivered (definitionsName, read.contents) List.mem_cons_self
  · exact delivered (stubName, "") (List.mem_cons_of_mem _ List.mem_cons_self)
  · rw [Text.toUTF8_inj, Text.unified_eq_self_iff]

def soleLibrary (text : String) : FileTree where
  entries := [(["x.ts"], .file text.toUTF8)]
  distinct := by simp
  inDirectory := by
    rw [List.forall_mem_singleton]
    exact ⟨[], "x.ts", rfl, by decide, .inl rfl⟩

section SoleLibrary

variable (text : String)

theorem find?_soleLibrary :
    (soleLibrary text).find? "/x.ts" = some (.file text.toUTF8) := by
  rfl

theorem paths_soleLibrary :
    (searchFor soleOptions "/").paths (soleLibrary text) = ["/x.ts"] := by
  apply Search.paths_of_rises
  · rfl
  · rfl
  · simp

theorem loads_soleLibrary :
    List.Forall₂ (Loads (soleLibrary text)) ["/x.ts"]
      [⟨"/x.ts", Text.unified text, true⟩] :=
  .cons ⟨_, load_of_text (find?_soleLibrary text), rfl⟩ .nil

def soleJobs : List (String × Artifacts) :=
  [("/out/_", contents (.assembled SourceModule.baseDefinitions)),
    ("/out/x", { typeDefinitions := Text.unified text })]

theorem jobsFor_soleLibrary :
    jobsFor soleOptions "/" [⟨"/x.ts", Text.unified text, true⟩] = soleJobs text := by
  have root : Directory.append "/" soleOptions.outputDirectory = "/out" := by decide
  rw [jobsFor, root, soleJobs, ← directories_of_soleOptions.1, ← directories_of_soleOptions.2,
    directoryAt, root]
  rfl

theorem run_soleLibrary :
    run (soleLibrary text) soleOptions "/" =
      let outcome := outcomeOf (soleLibrary text) "/out" (soleJobs text)
      ⟨outcome.tree, loadedFrom "/x.ts" :: outcome.log, .ok ["/out/_", "/out/x"]⟩ := by
  have ran := run_of_loads (paths_soleLibrary text) (loads_soleLibrary text)
    (by simp [sourcesFor])
  rw [jobsFor_soleLibrary] at ran
  exact ran

end SoleLibrary

/-- A byte order mark, a control character and a character beyond the first plane are
copied. -/
theorem library_copied_up_to_line_breaks_of_marked :
    let text := "\ufeff// \x0c𝔸\nexport type A = string;\n"
    let tree := soleLibrary text
    let outcome := run tree soleOptions "/"
    Directory.isAbsolute "/" = true ∧ outcome.answer = .ok ["/out/_", "/out/x"] ∧
      "/x.ts" ∈ (searchFor soleOptions "/").paths tree ∧
      ["/out/_", "/out/x"].count (directoryAt soleOptions "/" "/x.ts") = 1 ∧
      (∀ record ∈ outcome.log, record.severity ≠ .error) ∧
      outcome.tree.lookup ["out", "x", "index.ts"] = some (.file text.toUTF8) ∧
      outcome.tree.lookup ["out", "x", "index.js"] = some (.file .empty) := by
  intro text tree outcome
  have rooted : Directory.isAbsolute "/" = true := by decide
  have answered : outcome.answer = .ok ["/out/_", "/out/x"] :=
    congrArg RunOutcome.answer (run_soleLibrary text)
  have member : "/x.ts" ∈ (searchFor soleOptions "/").paths tree := by
    rw [paths_soleLibrary]
    exact List.mem_singleton_self _
  have own := directories_of_soleOptions.2
  have once : ["/out/_", "/out/x"].count (directoryAt soleOptions "/" "/x.ts") = 1 := by
    rw [own]
    decide
  have unreported : ∀ record ∈ outcome.log, record.severity ≠ .error := by
    rw [show outcome.log = _ from congrArg RunOutcome.log (run_soleLibrary text)]
    decide
  have delivered : ∀ {name content}, Delivers tree outcome "/out/x" name content →
      outcome.tree.lookup (Directory.names "/out/x" ++ [name]) = some (.file content) := by
    rintro name content (held | ⟨-, record, listed, isError, -⟩)
    · exact held
    · exact absurd isError (unreported record listed)
  rcases library_copied_up_to_line_breaks rooted answered member once with
    ⟨original, found, definitions, stub, verbatim⟩
  rw [own] at definitions stub
  have same : original = text := by
    rw [find?_soleLibrary, Option.some.injEq, FileEntry.file.injEq, Text.toUTF8_inj] at found
    exact found.symm
  rw [same] at definitions verbatim
  rw [verbatim.mpr (by decide)] at definitions
  exact ⟨rooted, answered, member, once, unreported, delivered definitions, delivered stub⟩

/-- A carriage return is lost. -/
theorem not_copied_of_carriageReturn :
    let text := "export type A = string;\r\n"
    let tree := soleLibrary text
    let outcome := run tree soleOptions "/"
    outcome.answer = .ok ["/out/_", "/out/x"] ∧
      tree.find? "/x.ts" = some (.file text.toUTF8) ∧
      (∀ record ∈ outcome.log, record.severity ≠ .error) ∧
      outcome.tree.lookup ["out", "x", "index.ts"] =
        some (.file "export type A = string;\n".toUTF8) ∧
      text.toUTF8 ≠ "export type A = string;\n".toUTF8 := by
  intro text tree outcome
  have ran : outcome = _ := run_soleLibrary text
  rw [ran]
  refine ⟨rfl, find?_soleLibrary text, by decide, by decide, ?_⟩
  rw [Ne, Text.toUTF8_inj]
  decide

end TypedModules.Emission
