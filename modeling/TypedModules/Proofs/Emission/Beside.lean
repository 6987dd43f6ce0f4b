import TypedModules.Proofs.Emission.Outcome

/-! # A module beside others

Others may share their directories among each other. A module that shares its own with
none of them is still written as it is alone.
-/

namespace TypedModules.Emission

open FileTree

variable {tree current : FileTree} {place : Location} {directory name : String}
  {before after jobs : List (String × Artifacts)} {job : String × Artifacts}

/-! ## What others do to a place -/

theorem Undisturbed.writeModule (undisturbed : Undisturbed tree current place)
    (apart : Apart (Directory.names directory) place) (artifacts : Artifacts) :
    Undisturbed tree (Emission.writeModule current directory artifacts).tree place := by
  rcases exists_plan current directory artifacts with ⟨made, stored, plan⟩
  have lookups := (plan.performed current (.refl current _)).2
  refine undisturbed.trans (undisturbed_of_written lookups fun write member => ?_)
  exact ⟨(directory, artifacts), apart, plan.puts member⟩

theorem Undisturbed.writeModules (undisturbed : Undisturbed tree current place)
    (apart : ∀ other ∈ jobs, Apart (Directory.names other.1) place) :
    Undisturbed tree (Emission.writeModules current jobs).1 place := by
  induction jobs generalizing current with
  | nil => exact undisturbed
  | cons first rest induction =>
      rw [List.forall_mem_cons] at apart
      exact induction (undisturbed.writeModule apart.1 first.2) apart.2

/-! ## One module among others -/

theorem writeModules_append (tree : FileTree) (first second : List (String × Artifacts)) :
    let middle := writeModules tree first
    let final := writeModules middle.1 second
    writeModules tree (first ++ second) = (final.1, middle.2 ++ final.2) := by
  induction first generalizing tree with
  | nil => rfl
  | cons job rest induction =>
      simp only [List.cons_append, writeModules, induction]

theorem writeModules_beside (tree : FileTree)
    (separate : ∀ other ∈ before ++ after, Separate other job) :
    let final := writeModules tree (before ++ job :: after)
    let alone := writeModule tree job.1 job.2
    (∀ name ∈ [definitionsName, stubName],
        final.1.lookup (Directory.names job.1 ++ [name]) =
          alone.tree.lookup (Directory.names job.1 ++ [name])) ∧
      alone.failures ∈ final.2 := by
  intro final alone
  rw [List.forall_mem_append] at separate
  let middle := (writeModules tree before).1
  let own := writeModule middle job.1 job.2
  have undisturbed : Undisturbed tree middle (Directory.names job.1) :=
    (Undisturbed.refl tree _).writeModules separate.1
  have undisturbedAfter : Undisturbed own.tree (writeModules own.tree after).1
      (Directory.names job.1) :=
    (Undisturbed.refl own.tree _).writeModules separate.2
  have parts : final = ((writeModules own.tree after).1,
      (writeModules tree before).2 ++ own.failures :: (writeModules own.tree after).2) :=
    writeModules_append tree before (job :: after)
  rcases exists_plan tree job.1 job.2 with ⟨made, stored, plan⟩
  rcases plan.performed middle undisturbed with ⟨sameFailures, lookups⟩
  have lookupsAlone := (plan.performed tree (.refl tree _)).2
  rw [parts]
  constructor
  · intro name artifactName
    calc
      (writeModules own.tree after).1.lookup (Directory.names job.1 ++ [name])
      _ = own.tree.lookup (Directory.names job.1 ++ [name]) :=
        undisturbedAfter.artifacts name artifactName
      _ = written middle.lookup (made ++ stored) (Directory.names job.1 ++ [name]) :=
        congrFun lookups _
      _ = written tree.lookup (made ++ stored) (Directory.names job.1 ++ [name]) :=
        written_apply_congr (undisturbed.artifacts name artifactName)
      _ = alone.tree.lookup (Directory.names job.1 ++ [name]) :=
        (congrFun lookupsAlone _).symm
  · rw [← sameFailures]
    exact List.mem_append_right _ List.mem_cons_self

theorem lookup_file_beside (tree : FileTree)
    (separate : ∀ other ∈ before ++ after, Separate other job) {file : String × String}
    (inFiles : file ∈ artifactFiles job.2) :
    let final := writeModules tree (before ++ job :: after)
    let location := (placed job.1 file).1
    final.1.lookup location = some (.file file.2.toUTF8) ∨
      final.1.lookup location = tree.lookup location ∧
        ∃ failure ∈ final.2.flatten, Reports job.1 file.1 failure := by
  intro final location
  choose made stored plan using fun job : String × Artifacts => exists_plan tree job.1 job.2
  rcases writeModules_beside tree separate with ⟨sameLookup, listed⟩
  have same : final.1.lookup location = (writeModules tree [job]).1.lookup location :=
    sameLookup file.1 (mem_artifactNames_of_mem_artifactFiles inFiles)
  rcases (lookup_file plan (List.pairwise_singleton _ _) (List.mem_singleton_self job)
    inFiles).2 with held | ⟨unchanged, failure, reported, reason⟩
  · exact .inl (same.trans held)
  · exact .inr ⟨same.trans unchanged, failure, List.mem_flatten_of_mem listed reported, reason⟩

end TypedModules.Emission
