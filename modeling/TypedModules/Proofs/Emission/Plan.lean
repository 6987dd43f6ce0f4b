import TypedModules.Emission.Write
import TypedModules.Proofs.FileTree.Effect

/-! # The effect of writing a module

Writing a module makes directories on the way to its own one, and puts its two
files there. What it does to a tree, and what it reports, depends on nothing
else than what stands on the way and in the place of the files.
-/

namespace TypedModules.Emission

open FileTree

def artifactFiles (artifacts : Artifacts) : List (String × String) :=
  [(definitionsName, artifacts.typeDefinitions), (stubName, artifacts.runtimeStub)]

def unmade (directory : String) (fault : FileFault) (path : String) : String :=
  "Could not create parent directory " ++ directory ++ ": " ++ fault.message path ++ "."

def unwritten (directory name : String) (fault : FileFault) : String :=
  "Could not write " ++ name ++ " to " ++ directory ++ ": " ++
    fault.message (Directory.append directory name) ++ "."

def Reports (directory name failure : String) : Prop :=
  (∃ fault path, failure = unmade directory fault path) ∨
    ∃ fault, failure = unwritten directory name fault

def placed (directory : String) (file : String × String) : Location × FileEntry :=
  (Directory.names directory ++ [file.1], .file file.2.toUTF8)

theorem placed_fst_inj {directory : String} {first second : String × String}
    (same : (placed directory first).1 = (placed directory second).1) : first.1 = second.1 :=
  List.singleton_inj.mp (List.append_cancel_left same)

/-- What is put into a directory when files are written to it: each of them is
put there or reported, and nothing else happens. -/
structure FilePlan (directory : String) (listed : List (String × String))
    (writes : List (Location × FileEntry)) (failures : List String) : Prop where
  kinds : ∀ write ∈ writes, ∃ file ∈ listed, write = placed directory file
  settled : ∀ file ∈ listed, placed directory file ∈ writes ∨
    (∀ write ∈ writes, write.1 ≠ (placed directory file).1) ∧
      ∃ failure ∈ failures, Reports directory file.1 failure
  complete : (∀ file ∈ listed, placed directory file ∈ writes) → failures = []

namespace FilePlan

variable {directory : String} {file : String × String} {first second : List (String × String)}
  {firstWrites secondWrites : List (Location × FileEntry)}
  {firstFailures secondFailures : List String}

theorem of_placed (directory : String) (file : String × String) :
    FilePlan directory [file] [placed directory file] [] where
  kinds := by simp
  settled := by simp
  complete _ := rfl

theorem written_of_ne {listed : List (String × String)} {writes : List (Location × FileEntry)}
    {failures : List String} (plan : FilePlan directory listed writes failures)
    (before : Location → Option FileEntry) {location : Location}
    (elsewhere : ∀ file ∈ listed, location ≠ (placed directory file).1) :
    written before writes location = before location := by
  apply written_of_notMem
  intro write member onLocation
  rcases plan.kinds write member with ⟨file, listedFile, rfl⟩
  exact elsewhere file listedFile onLocation.symm

theorem of_failure {listed : List (String × String)} {failure : String} (nonempty : listed ≠ [])
    (reports : ∀ file ∈ listed, Reports directory file.1 failure) :
    FilePlan directory listed [] [failure] where
  kinds := by simp
  settled file member := .inr ⟨by simp, failure, List.mem_cons_self, reports file member⟩
  complete allPlaced := by
    rcases List.exists_mem_of_ne_nil listed nonempty with ⟨file, member⟩
    cases allPlaced file member

theorem append (firstPlan : FilePlan directory first firstWrites firstFailures)
    (secondPlan : FilePlan directory second secondWrites secondFailures)
    (different : ∀ one ∈ first, ∀ other ∈ second, one.1 ≠ other.1) :
    FilePlan directory (first ++ second) (firstWrites ++ secondWrites)
      (firstFailures ++ secondFailures) := by
  have notFirst : ∀ other ∈ second, ∀ write ∈ firstWrites,
      write.1 ≠ (placed directory other).1 := by
    intro other otherMember write member same
    rcases firstPlan.kinds write member with ⟨one, oneMember, rfl⟩
    exact different one oneMember other otherMember (placed_fst_inj same)
  have notSecond : ∀ one ∈ first, ∀ write ∈ secondWrites,
      write.1 ≠ (placed directory one).1 := by
    intro one oneMember write member same
    rcases secondPlan.kinds write member with ⟨other, otherMember, rfl⟩
    exact different one oneMember other otherMember (placed_fst_inj same).symm
  refine ⟨?_, ?_, ?_⟩
  · intro write member
    rcases List.mem_append.mp member with inFirst | inSecond
    · rcases firstPlan.kinds write inFirst with ⟨file, fileMember, same⟩
      exact ⟨file, List.mem_append_left second fileMember, same⟩
    · rcases secondPlan.kinds write inSecond with ⟨file, fileMember, same⟩
      exact ⟨file, List.mem_append_right first fileMember, same⟩
  · intro file member
    rcases List.mem_append.mp member with inFirst | inSecond
    · rcases firstPlan.settled file inFirst with there | ⟨missing, failure, reported, reason⟩
      · exact .inl (List.mem_append_left _ there)
      · refine .inr ⟨?_, failure, List.mem_append_left _ reported, reason⟩
        intro write written
        exact (List.mem_append.mp written).elim (missing write) (notSecond file inFirst write)
    · rcases secondPlan.settled file inSecond with there | ⟨missing, failure, reported, reason⟩
      · exact .inl (List.mem_append_right _ there)
      · refine .inr ⟨?_, failure, List.mem_append_right _ reported, reason⟩
        intro write written
        exact (List.mem_append.mp written).elim (notFirst file inSecond write) (missing write)
  · intro allPlaced
    have firstComplete : firstFailures = [] := by
      apply firstPlan.complete
      intro file member
      rcases List.mem_append.mp (allPlaced file (List.mem_append_left _ member)) with there | there
      · exact there
      · exact absurd rfl (notSecond file member _ there)
    have secondComplete : secondFailures = [] := by
      apply secondPlan.complete
      intro file member
      rcases List.mem_append.mp (allPlaced file (List.mem_append_right _ member)) with there | there
      · exact absurd rfl (notFirst file member _ there)
      · exact there
    rw [firstComplete, secondComplete, List.append_nil]

end FilePlan

variable {tree : FileTree} {directory : String}

theorem writeArtifact_alike (directory : String) (file : String × String)
    (existing : Option FileEntry) :
    ∃ writes failures, FilePlan directory [file] writes failures ∧
      ∀ tree : FileTree, tree.IsDirectory (Directory.names directory) →
        tree.lookup (placed directory file).1 = existing →
          (writeArtifact tree directory file.1 file.2).failures = failures ∧
            (writeArtifact tree directory file.1 file.2).tree.lookup =
              written tree.lookup writes := by
  have refusedPlan : ∀ fault,
      FilePlan directory [file] [] [unwritten directory file.1 fault] := by
    intro fault
    apply FilePlan.of_failure (List.cons_ne_nil _ _)
    intro other member
    rw [List.mem_singleton.mp member]
    exact .inr ⟨fault, rfl⟩
  by_cases followed : IsFollowed (Directory.append directory file.1)
  · rcases putFile_alike (Directory.names directory) file.1 file.2.toUTF8 existing with
      ⟨fault, refused⟩ | put
    · refine ⟨[], _, refusedPlan fault, fun tree isDirectory same => ?_⟩
      rw [writeArtifact, writeFile, if_pos followed, refused tree isDirectory same]
      exact ⟨rfl, (written_nil _).symm⟩
    · refine ⟨_, _, .of_placed directory file, fun tree isDirectory same => ?_⟩
      rcases put tree isDirectory same with ⟨after, accepted, lookups⟩
      rw [writeArtifact, writeFile, if_pos followed, accepted]
      exact ⟨rfl, lookups⟩
  · refine ⟨[], _, refusedPlan .nameTooLong, fun tree _ _ => ?_⟩
    rw [writeArtifact, writeFile, if_neg followed]
    exact ⟨rfl, (written_nil _).symm⟩

theorem writeArtifacts_alike (directory : String) (artifacts : Artifacts)
    (existing : String → Option FileEntry) :
    ∃ stored failures, FilePlan directory (artifactFiles artifacts) stored failures ∧
      ∀ tree : FileTree, tree.IsDirectory (Directory.names directory) →
        (∀ name ∈ [definitionsName, stubName],
          tree.lookup (Directory.names directory ++ [name]) = existing name) →
        let definitions := writeArtifact tree directory definitionsName artifacts.typeDefinitions
        let stub := writeArtifact definitions.tree directory stubName artifacts.runtimeStub
        definitions.failures ++ stub.failures = failures ∧
          stub.tree.lookup = written tree.lookup stored := by
  let definitionsFile := (definitionsName, artifacts.typeDefinitions)
  let stubFile := (stubName, artifacts.runtimeStub)
  have namesDiffer : stubName ≠ definitionsName := by decide
  rcases writeArtifact_alike directory definitionsFile (existing definitionsName) with
    ⟨definitionsWrites, definitionsFailures, definitionsPlan, definitionsAlike⟩
  rcases writeArtifact_alike directory stubFile (existing stubName) with
    ⟨stubWrites, stubFailures, stubPlan, stubAlike⟩
  have different : ∀ one ∈ [definitionsFile], ∀ other ∈ [stubFile], one.1 ≠ other.1 := by
    intro one oneMember other otherMember
    rw [List.mem_singleton.mp oneMember, List.mem_singleton.mp otherMember]
    exact namesDiffer.symm
  refine ⟨_, _, definitionsPlan.append stubPlan different, ?_⟩
  intro tree isDirectory same definitions stub
  rcases definitionsAlike tree isDirectory (same _ List.mem_cons_self) with
    ⟨sameDefinitions, afterDefinitions⟩
  have elsewhere : ∀ location, location ≠ (placed directory definitionsFile).1 →
      definitions.tree.lookup location = tree.lookup location := by
    intro location apart
    calc
      definitions.tree.lookup location
      _ = written tree.lookup definitionsWrites location := congrFun afterDefinitions location
      _ = tree.lookup location := by
        apply definitionsPlan.written_of_ne
        intro file listed
        rw [List.mem_singleton.mp listed]
        exact apart
  have stillDirectory : definitions.tree.IsDirectory (Directory.names directory) := by
    rw [IsDirectory, elsewhere]
    · exact isDirectory
    · simp [placed]
  have sameStub : definitions.tree.lookup (placed directory stubFile).1 = existing stubName := by
    rw [elsewhere]
    · exact same stubName (by simp)
    · exact fun atFile => namesDiffer (placed_fst_inj atFile)
  rcases stubAlike definitions.tree stillDirectory sameStub with ⟨sameReports, afterStub⟩
  constructor
  · rw [← sameDefinitions, ← sameReports]
  · rw [written_append, ← afterDefinitions]
    exact afterStub

/-! ## One module -/

/-- Another tree that differs at most by directories on the way to a place. -/
structure Undisturbed (tree other : FileTree) (place : Location) : Prop where
  way : ∀ location, location <+: place → tree.GainsDirectory other location
  artifacts : ∀ name ∈ [definitionsName, stubName],
    other.lookup (place ++ [name]) = tree.lookup (place ++ [name])

theorem Undisturbed.refl (tree : FileTree) (place : Location) : Undisturbed tree tree place where
  way _ _ := .inl rfl
  artifacts _ _ := rfl

theorem Undisturbed.trans {tree middle after : FileTree} {place : Location}
    (first : Undisturbed tree middle place) (second : Undisturbed middle after place) :
    Undisturbed tree after place where
  way location onTheWay := (first.way location onTheWay).trans (second.way location onTheWay)
  artifacts name artifactName :=
    (second.artifacts name artifactName).trans (first.artifacts name artifactName)

/-- What writing a module puts into a tree, and into every undisturbed one: first
directories, and then files. -/
structure Plan (tree : FileTree) (directory : String) (artifacts : Artifacts)
    (made stored : List (Location × FileEntry)) : Prop where
  directories : ∀ write ∈ made, write.2 = .directory ∧ tree.lookup write.1 = none ∧
    write.1 <+: Directory.names directory
  storage : FilePlan directory (artifactFiles artifacts) stored
    (writeModule tree directory artifacts).failures
  performed : ∀ other, Undisturbed tree other (Directory.names directory) →
    (writeModule other directory artifacts).failures =
        (writeModule tree directory artifacts).failures ∧
      (writeModule other directory artifacts).tree.lookup = written other.lookup (made ++ stored)

theorem file_not_onTheWay (place : Location) (name : String) : ¬place ++ [name] <+: place := by
  intro before
  have lengths := before.length_le
  rw [List.length_append, List.length_singleton] at lengths
  omega

theorem writeModule_of_error {failure : FileFault × String}
    (failed : (tree.makeDirectories (Directory.rootMark directory) []
      (Directory.names directory)).answer = .error failure) (artifacts : Artifacts) :
    writeModule tree directory artifacts =
      ⟨(tree.makeDirectories (Directory.rootMark directory) [] (Directory.names directory)).state,
        [unmade directory failure.1 failure.2]⟩ := by
  simp only [writeModule, failed]
  rfl

theorem writeModule_of_ok
    (made : (tree.makeDirectories (Directory.rootMark directory) []
      (Directory.names directory)).answer = .ok ()) (artifacts : Artifacts) :
    let middle :=
      (tree.makeDirectories (Directory.rootMark directory) [] (Directory.names directory)).state
    let definitions := writeArtifact middle directory definitionsName artifacts.typeDefinitions
    let stub := writeArtifact definitions.tree directory stubName artifacts.runtimeStub
    writeModule tree directory artifacts =
      ⟨stub.tree, definitions.failures ++ stub.failures⟩ := by
  simp only [writeModule, made]

theorem exists_plan (tree : FileTree) (directory : String) (artifacts : Artifacts) :
    ∃ made stored, Plan tree directory artifacts made stored := by
  let place := Directory.names directory
  let mark := Directory.rootMark directory
  rcases exists_directoryPlan mark place tree.isDirectory_nil with ⟨made, onTheWay, alike⟩
  rw [List.nil_append] at onTheWay alike
  cases answer : (tree.makeDirectories mark [] place).answer with
  | error failure =>
      have failures := congrArg Written.failures (writeModule_of_error answer artifacts)
      refine ⟨made, [], onTheWay, ?_, ?_⟩
      · rw [failures]
        apply FilePlan.of_failure (List.cons_ne_nil _ _)
        exact fun _ _ => .inl ⟨failure.1, failure.2, rfl⟩
      · intro other undisturbed
        rcases alike other other.isDirectory_nil undisturbed.way with ⟨sameAnswer, lookups⟩
        rw [answer] at sameAnswer
        rw [writeModule_of_error sameAnswer, failures, List.append_nil]
        exact ⟨rfl, lookups⟩
  | ok _ =>
      rcases writeArtifacts_alike directory artifacts fun name => tree.lookup (place ++ [name]) with
        ⟨stored, failures, plan, artifactsAlike⟩
      have performed : ∀ other, Undisturbed tree other place →
          (writeModule other directory artifacts).failures = failures ∧
            (writeModule other directory artifacts).tree.lookup =
              written other.lookup (made ++ stored) := by
        intro other undisturbed
        rcases alike other other.isDirectory_nil undisturbed.way with ⟨sameAnswer, lookups⟩
        rw [answer] at sameAnswer
        -- The directories that are made leave the places of the files alone.
        have same : ∀ name ∈ [definitionsName, stubName],
            (other.makeDirectories mark [] place).state.lookup (place ++ [name]) =
              tree.lookup (place ++ [name]) := by
          intro name member
          rw [← undisturbed.artifacts name member, lookups]
          apply written_of_notMem
          intro write inMade onFile
          exact file_not_onTheWay place name (onFile ▸ (onTheWay write inMade).2.2)
        have isDirectory := isDirectory_of_makeDirectories place other.isDirectory_nil sameAnswer
        rw [writeModule_of_ok sameAnswer artifacts, written_append, ← lookups]
        exact artifactsAlike _ isDirectory same
      have alone := performed tree (.refl tree place)
      refine ⟨made, stored, onTheWay, ?_, ?_⟩
      · rw [alone.1]
        exact plan
      · rw [alone.1]
        exact performed

end TypedModules.Emission
