import Mathlib.Data.List.Pairwise
import TypedModules.Proofs.Emission.Plan
import TypedModules.Proofs.Namespace.Placement

/-! # Modules do not get in each other's way

Modules of different namespaces share directories at most. Writing them together
does to each of them what writing it alone does.
-/

namespace TypedModules.Emission

open FileTree

/-! ## Places -/

/-- Neither module has a file in the place of the other or on the way there. -/
structure Apart (place other : Location) : Prop where
  ne : place ≠ other
  notWithin : ∀ name ∈ [definitionsName, stubName], ¬place ++ [name] <+: other
  notAround : ∀ name ∈ [definitionsName, stubName], ¬other ++ [name] <+: place

theorem Apart.symm {place other : Location} (apart : Apart place other) : Apart other place :=
  ⟨apart.ne.symm, apart.notAround, apart.notWithin⟩

theorem dot_mem_of_mem_artifactNames {name : String}
    (artifactName : name ∈ [definitionsName, stubName]) : '.' ∈ name.toList := by
  rcases List.mem_cons.mp artifactName with rfl | later
  · decide
  · rw [List.mem_singleton.mp later]
    decide

theorem apart_of_isDotted {module other : Namespace} (base : Location)
    (dotted : module.IsDotted) (otherDotted : other.IsDotted)
    (different : module.named ≠ other.named) :
    Apart (base ++ module.named) (base ++ other.named) := by
  have notPrefix : ∀ {first second : Namespace}, second.IsDotted →
      ∀ name ∈ [definitionsName, stubName],
        ¬base ++ first.named ++ [name] <+: base ++ second.named := by
    intro first second secondDotted name artifactName before
    rw [List.append_assoc, List.prefix_append_right_inj] at before
    have member : name ∈ second.named := before.subset (by simp)
    exact secondDotted name (List.mem_filter.mp member).1
      (dot_mem_of_mem_artifactNames artifactName)
  exact ⟨fun same => different (List.append_cancel_left same), notPrefix otherDotted,
    notPrefix dotted⟩

def Separate (first second : String × Artifacts) : Prop :=
  Apart (Directory.names first.1) (Directory.names second.1)

instance : Std.Symm Separate where
  symm _ _ := Apart.symm

/-! ## Plans of several modules -/

theorem mem_artifactNames_of_mem_artifactFiles {artifacts : Artifacts} {file : String × String}
    (member : file ∈ artifactFiles artifacts) : file.1 ∈ [definitionsName, stubName] := by
  rcases List.mem_cons.mp member with rfl | later
  · exact List.mem_cons_self
  · rw [List.mem_singleton.mp later]
    simp

theorem eq_of_mem_artifactFiles {artifacts : Artifacts} {first second : String × String}
    (firstMember : first ∈ artifactFiles artifacts)
    (secondMember : second ∈ artifactFiles artifacts)
    (same : first.1 = second.1) : first = second := by
  have namesDiffer : definitionsName ≠ stubName := by decide
  simp only [artifactFiles, List.mem_cons, List.not_mem_nil, or_false] at firstMember secondMember
  rcases firstMember with rfl | rfl <;> rcases secondMember with rfl | rfl
  · rfl
  · exact absurd same namesDiffer
  · exact absurd same.symm namesDiffer
  · rfl

variable {tree : FileTree} {first second : String × Artifacts}
  {made stored : String × Artifacts → List (Location × FileEntry)}

/-- What a module may put into a tree: a missing directory on the way to its place, or
one of its files. -/
def Puts (tree : FileTree) (job : String × Artifacts) (write : Location × FileEntry) : Prop :=
  (write.2 = .directory ∧ tree.lookup write.1 = none ∧ write.1 <+: Directory.names job.1) ∨
    ∃ file ∈ artifactFiles job.2, write = placed job.1 file

theorem Plan.puts {job : String × Artifacts} {made stored : List (Location × FileEntry)}
    (plan : Plan tree job.1 job.2 made stored) {write : Location × FileEntry}
    (member : write ∈ made ++ stored) : Puts tree job write :=
  (List.mem_append.mp member).imp (plan.directories write) (plan.storage.kinds write)

theorem entry_eq_of_plans (plan : ∀ job, Plan tree job.1 job.2 (made job) (stored job))
    (apart : first = second ∨ Separate first second)
    {write other : Location × FileEntry} (member : write ∈ made first ++ stored first)
    (otherMember : other ∈ made second ++ stored second) (same : write.1 = other.1) :
    write.2 = other.2 := by
  rcases (plan first).puts member with ⟨isDirectory, _, onTheWay⟩ | ⟨file, inFiles, rfl⟩ <;>
    rcases (plan second).puts otherMember with
      ⟨otherIsDirectory, _, otherOnTheWay⟩ | ⟨otherFile, otherInFiles, rfl⟩
  · rw [isDirectory, otherIsDirectory]
  · rw [same] at onTheWay
    rcases apart with rfl | apart
    · exact absurd onTheWay (file_not_onTheWay _ _)
    · exact absurd onTheWay
        (apart.notAround _ (mem_artifactNames_of_mem_artifactFiles otherInFiles))
  · rw [← same] at otherOnTheWay
    rcases apart with rfl | apart
    · exact absurd otherOnTheWay (file_not_onTheWay _ _)
    · exact absurd otherOnTheWay
        (apart.notWithin _ (mem_artifactNames_of_mem_artifactFiles inFiles))
  · rcases apart with rfl | apart
    · rw [eq_of_mem_artifactFiles inFiles otherInFiles (placed_fst_inj same)]
    · exact absurd (List.append_inj_left' same rfl) apart.ne

def allWrites (made stored : String × Artifacts → List (Location × FileEntry))
    (jobs : List (String × Artifacts)) : List (Location × FileEntry) :=
  jobs.flatMap fun job => made job ++ stored job

theorem mem_allWrites {jobs : List (String × Artifacts)} {write : Location × FileEntry} :
    write ∈ allWrites made stored jobs ↔ ∃ job ∈ jobs, write ∈ made job ++ stored job :=
  List.mem_flatMap

theorem consistent_allWrites (plan : ∀ job, Plan tree job.1 job.2 (made job) (stored job))
    {jobs : List (String × Artifacts)}
    (apart : ∀ first ∈ jobs, ∀ second ∈ jobs, first = second ∨ Separate first second) :
    Consistent (allWrites made stored jobs) := by
  intro write member other otherMember same
  rcases mem_allWrites.mp member with ⟨first, firstJob, inFirst⟩
  rcases mem_allWrites.mp otherMember with ⟨second, secondJob, inSecond⟩
  exact entry_eq_of_plans plan (apart first firstJob second secondJob) inFirst inSecond same

theorem undisturbed_of_written {place : Location} {writes : List (Location × FileEntry)}
    {after : FileTree} (lookups : after.lookup = written tree.lookup writes)
    (apart : ∀ write ∈ writes, ∃ other, Apart (Directory.names other.1) place ∧
      Puts tree other write) :
    Undisturbed tree after place := by
  constructor
  · intro location onTheWay
    rw [GainsDirectory, lookups]
    rcases written_cases tree.lookup writes location with
      ⟨_, unchanged⟩ | ⟨entry, member, found⟩
    · exact .inl unchanged
    · rcases apart _ member with
        ⟨other, apartFromOther, ⟨isDirectory, free, _⟩ | ⟨file, inFiles, same⟩⟩
      · have entryIsDirectory : entry = .directory := isDirectory
        exact .inr ⟨free, by rw [found, entryIsDirectory]⟩
      · have located : location = Directory.names other.1 ++ [file.1] := congrArg Prod.fst same
        rw [located] at onTheWay
        exact absurd onTheWay
          (apartFromOther.notWithin _ (mem_artifactNames_of_mem_artifactFiles inFiles))
  · intro name artifactName
    rw [lookups]
    apply written_of_notMem
    intro write member inPlace
    rcases apart write member with ⟨other, apartFromOther, ⟨_, _, onTheWay⟩ | ⟨file, _, same⟩⟩
    · rw [inPlace] at onTheWay
      exact apartFromOther.notAround name artifactName onTheWay
    · rw [same] at inPlace
      exact apartFromOther.ne (List.append_inj_left' inPlace rfl)

theorem undisturbed_of_apart (plan : ∀ job, Plan tree job.1 job.2 (made job) (stored job))
    {past : List (String × Artifacts)} {job : String × Artifacts} {current : FileTree}
    (apart : ∀ other ∈ past, Separate other job)
    (lookups : current.lookup = written tree.lookup (allWrites made stored past)) :
    Undisturbed tree current (Directory.names job.1) := by
  apply undisturbed_of_written lookups
  intro write member
  rcases mem_allWrites.mp member with ⟨other, inPast, ofOther⟩
  exact ⟨_, apart other inPast, (plan other).puts ofOther⟩

/-! ## Runs -/

/-- Each module does to the tree, and reports, what it does alone. -/
theorem writeModules_eq (plan : ∀ job, Plan tree job.1 job.2 (made job) (stored job))
    (jobs : List (String × Artifacts)) :
    ∀ (past : List (String × Artifacts)) (current : FileTree),
      (past ++ jobs).Pairwise Separate →
        current.lookup = written tree.lookup (allWrites made stored past) →
        (writeModules current jobs).1.lookup =
            written tree.lookup (allWrites made stored (past ++ jobs)) ∧
          (writeModules current jobs).2 =
            jobs.map fun job => (writeModule tree job.1 job.2).failures := by
  -- The plans are made for the initial tree. They are carried out in a tree that
  -- holds what the modules before have put there.
  induction jobs with
  | nil =>
      intro past current _ lookups
      rw [List.append_nil]
      exact ⟨lookups, rfl⟩
  | cons job rest induction =>
      intro past current apart lookups
      have apartFromPast : ∀ other ∈ past, Separate other job := fun other inPast =>
        (List.pairwise_append.mp apart).2.2 other inPast job List.mem_cons_self
      rcases (plan job).performed current (undisturbed_of_apart plan apartFromPast lookups) with
        ⟨sameFailures, after⟩
      have afterLookups : (writeModule current job.1 job.2).tree.lookup =
          written tree.lookup (allWrites made stored (past ++ [job])) := by
        rw [after, lookups, ← written_append]
        simp [allWrites]
      rw [List.append_cons] at apart ⊢
      rcases induction (past ++ [job]) (writeModule current job.1 job.2).tree apart
        afterLookups with ⟨finalLookups, restFailures⟩
      refine ⟨finalLookups, ?_⟩
      rw [List.map_cons, ← restFailures, ← sameFailures]
      rfl

section Apart

variable {jobs : List (String × Artifacts)} {job : String × Artifacts}
  (plan : ∀ job, Plan tree job.1 job.2 (made job) (stored job))
  (apart : jobs.Pairwise Separate)

include apart in
theorem eq_or_separate {first second : String × Artifacts} (firstMember : first ∈ jobs)
    (secondMember : second ∈ jobs) : first = second ∨ Separate first second := by
  by_cases same : first = second
  · exact .inl same
  · exact .inr (apart.forall firstMember secondMember same)

include plan

theorem lookup_writeModules_alone (job : String × Artifacts) :
    (writeModules tree [job]).1.lookup = written tree.lookup (made job ++ stored job) := by
  have run := (writeModules_eq plan [job] [] tree (List.pairwise_singleton _ _) rfl).1
  simpa [allWrites] using run

include apart

theorem lookup_writeModules :
    (writeModules tree jobs).1.lookup = written tree.lookup (allWrites made stored jobs) :=
  (writeModules_eq plan jobs [] tree apart rfl).1

theorem lookup_of_mem_writes (member : job ∈ jobs) {write : Location × FileEntry}
    (ofJob : write ∈ made job ++ stored job) :
    (writeModules tree jobs).1.lookup write.1 = some write.2 ∧
      (writeModules tree [job]).1.lookup write.1 = some write.2 := by
  have consistent : Consistent (allWrites made stored jobs) :=
    consistent_allWrites plan fun first firstMember second secondMember =>
      eq_or_separate apart firstMember secondMember
  have aloneConsistent : Consistent (made job ++ stored job) :=
    fun one oneMember other otherMember =>
      entry_eq_of_plans plan (.inl rfl) oneMember otherMember
  rw [lookup_writeModules plan apart, lookup_writeModules_alone plan]
  exact ⟨written_of_mem consistent (mem_allWrites.mpr ⟨job, member, ofJob⟩),
    written_of_mem aloneConsistent ofJob⟩

theorem lookup_of_not_stored (member : job ∈ jobs) {file : String × String}
    (inFiles : file ∈ artifactFiles job.2)
    (missing : ∀ write ∈ stored job, write.1 ≠ (placed job.1 file).1) :
    (writeModules tree jobs).1.lookup (placed job.1 file).1 =
        tree.lookup (placed job.1 file).1 ∧
      (writeModules tree [job]).1.lookup (placed job.1 file).1 =
        tree.lookup (placed job.1 file).1 := by
  have notByJob : ∀ write ∈ made job ++ stored job, write.1 ≠ (placed job.1 file).1 := by
    intro write ofJob inPlace
    rcases List.mem_append.mp ofJob with inMade | inStored
    · have onTheWay := ((plan job).directories write inMade).2.2
      rw [inPlace] at onTheWay
      exact file_not_onTheWay _ _ onTheWay
    · exact missing write inStored inPlace
  have notByAny : ∀ write ∈ allWrites made stored jobs, write.1 ≠ (placed job.1 file).1 := by
    intro write ofAny inPlace
    rcases mem_allWrites.mp ofAny with ⟨other, otherMember, ofOther⟩
    rcases eq_or_separate apart member otherMember with rfl | apartFromOther
    · exact notByJob write ofOther inPlace
    · rcases (plan other).puts ofOther with ⟨_, _, onTheWay⟩ | ⟨otherFile, _, rfl⟩
      · rw [inPlace] at onTheWay
        exact apartFromOther.notWithin _ (mem_artifactNames_of_mem_artifactFiles inFiles) onTheWay
      · exact apartFromOther.ne (List.append_inj_left' inPlace rfl).symm
  rw [lookup_writeModules plan apart, lookup_writeModules_alone plan]
  exact ⟨written_of_notMem notByAny, written_of_notMem notByJob⟩

theorem lookup_file (member : job ∈ jobs) {file : String × String}
    (inFiles : file ∈ artifactFiles job.2) :
    let location := (placed job.1 file).1
    (writeModules tree jobs).1.lookup location = (writeModules tree [job]).1.lookup location ∧
      ((writeModules tree jobs).1.lookup location = some (.file file.2.toUTF8) ∨
        (writeModules tree jobs).1.lookup location = tree.lookup location ∧
          ∃ failure ∈ (writeModule tree job.1 job.2).failures, Reports job.1 file.1 failure) := by
  intro location
  rcases (plan job).storage.settled file inFiles with inStored | ⟨missing, reported⟩
  · rcases lookup_of_mem_writes plan apart member (List.mem_append_right _ inStored) with
      ⟨together, alone⟩
    exact ⟨together.trans alone.symm, .inl together⟩
  · rcases lookup_of_not_stored plan apart member inFiles missing with ⟨together, alone⟩
    exact ⟨together.trans alone.symm, .inr ⟨together, reported⟩⟩

end Apart

end TypedModules.Emission
