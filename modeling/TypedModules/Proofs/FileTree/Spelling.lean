import TypedModules.FileTree.Write
import TypedModules.Proofs.Directory.Containment
import TypedModules.Proofs.FileTree.Following

/-! # Paths in normal form

A path in normal form is spelled by its steps: behind the mark of the root come names,
and a path without a mark may lead up first. What is appended to such a path by names
is in normal form as well, and so two texts of one path are the same.
-/

namespace TypedModules.FileTree

open Directory

/-! ## Steps -/

structure IsRoute (mark : String) (steps : List String) : Prop where
  marked : mark = "" ∨ mark = "/" ∨ mark = "//"
  /-- Only a path without a mark leads up, and only at its start. -/
  shape : ∃ climb names, steps = List.replicate climb ".." ++ names ∧
    (∀ name ∈ names, IsOrdinary name) ∧ (mark ≠ "" → climb = 0)

variable {mark path : String} {steps names : List String}

namespace IsRoute

theorem filled (route : IsRoute mark steps) : ∀ step ∈ steps, step ≠ "" ∧ '/' ∉ step.toList := by
  rcases route.shape with ⟨climb, names, rfl, ordinary, -⟩
  intro step member
  rcases List.mem_append.mp member with up | named
  · rw [List.eq_of_mem_replicate up]
    decide
  · exact ⟨(ordinary step named).nonempty, (ordinary step named).slashFree⟩

theorem append (route : IsRoute mark steps) (ordinary : ∀ name ∈ names, IsOrdinary name) :
    IsRoute mark (steps ++ names) := by
  rcases route.shape with ⟨climb, outer, rfl, outerOrdinary, level⟩
  exact ⟨route.marked, climb, outer ++ names, by rw [List.append_assoc],
    List.forall_mem_append.mpr ⟨outerOrdinary, ordinary⟩, level⟩

theorem cut {first : String} {rest : List String} (route : IsRoute mark (steps ++ first :: rest))
    (notUp : first ≠ "..") :
    IsRoute mark steps ∧ ∀ name ∈ first :: rest, IsOrdinary name := by
  rcases route.shape with ⟨climb, names, split, ordinary, level⟩
  rcases List.append_eq_append_iff.mp split with ⟨up, climbs, behind⟩ | ⟨down, rfl, rfl⟩
  · cases up with
    | nil =>
        rw [List.append_nil] at climbs
        rw [List.nil_append] at behind
        exact ⟨⟨route.marked, climb, [], by rw [climbs, List.append_nil], by simp, level⟩,
          behind ▸ ordinary⟩
    | cons step others =>
        have member : step ∈ List.replicate climb ".." := by simp [climbs]
        have isUp := List.eq_of_mem_replicate member
        exact absurd ((List.cons.inj behind).1.trans isUp) notUp
  · rw [List.forall_mem_append] at ordinary
    exact ⟨⟨route.marked, climb, down, rfl, ordinary.1, level⟩, ordinary.2⟩

end IsRoute

/-! ## Normal forms -/

theorem leads_of_climb {names : List String} (climb : Nat)
    (ordinary : ∀ name ∈ names, IsOrdinary name) :
    Leads (List.replicate climb ".." ++ names) climb names.reverse := by
  induction names using List.reverseRecOn with
  | nil =>
      rw [List.append_nil]
      induction climb with
      | zero => exact .nil
      | succ climb induction =>
          rw [List.replicate_succ']
          exact induction.concat_of_up_of_nil
  | append_singleton outer last induction =>
      rw [List.forall_mem_append] at ordinary
      rw [← List.append_assoc, List.reverse_append]
      exact (induction ordinary.1).concat_of_ordinary (ordinary.2 last (by simp))

theorem resolve_route (route : IsRoute mark steps) : resolve (mark ≠ "") steps = steps := by
  rcases route.shape with ⟨climb, names, rfl, ordinary, level⟩
  by_cases unmarked : mark = ""
  · have leads := (leads_of_climb climb ordinary).unknown
    rw [resolve, decide_eq_false (not_not.mpr unmarked), leads]
    simp
  · rw [level unmarked, decide_eq_true unmarked]
    exact resolve_ordinary true ordinary

theorem rootMark_spelled (route : IsRoute mark steps) : rootMark (spelled mark steps) = mark := by
  have relative := isAbsolute_intercalate route.filled
  by_cases unmarked : mark = ""
  · rw [spelled, unmarked, String.empty_append, rootMark_eq_empty_iff]
    exact relative
  · rw [spelled, rootMark_append_of_separate unmarked fun _ => relative]
    rcases route.marked with rfl | rfl | rfl <;> decide

theorem names_spelled (route : IsRoute mark steps) :
    Directory.names (spelled mark steps) = steps := by
  have marked : rootMark mark = mark := by
    rcases route.marked with rfl | rfl | rfl <;> decide
  rw [spelled, ← marked, names_rootMark_append]
  exact names_intercalate route.filled

theorem resolve_names (rooted : Bool) (path : String) :
    resolve rooted (Directory.names path) = resolve rooted (segments path) := by
  rw [Directory.names, resolve, foldl_enter_filter_nonempty, resolve]

theorem normalize_spelled (route : IsRoute mark steps) (spells : spelled mark steps ≠ "") :
    Directory.normalize (spelled mark steps) = spelled mark steps := by
  have resolved : resolve (mark ≠ "") (segments (spelled mark steps)) = steps := by
    rw [← resolve_names, names_spelled route, resolve_route route]
  rw [Directory.normalize, rootMark_spelled route, resolved]
  exact if_neg spells

/-- Every normal form is spelled by steps, apart from the one of the present
directory. -/
theorem exists_route (elsewhere : Directory.normalize path ≠ ".") :
    ∃ mark steps, IsRoute mark steps ∧ spelled mark steps ≠ "" ∧
      Directory.normalize path = spelled mark steps := by
  have slashFree : ∀ segment ∈ segments path, '/' ∉ segment.toList :=
    fun _ member => slash_notMem_of_mem_segments member
  have route : IsRoute (rootMark path) (resolve (rootMark path ≠ "") (segments path)) := by
    refine ⟨rootMark_cases path, ?_⟩
    by_cases unmarked : rootMark path = ""
    · rcases exists_leads (segments path) slashFree with ⟨climb, down, leads⟩
      refine ⟨climb, down.reverse, ?_, ?_, fun marked => absurd unmarked marked⟩
      · rw [resolve, decide_eq_false (not_not.mpr unmarked), leads.unknown]
        simp
      · simpa using leads.ordinary
    · refine ⟨0, trail path, ?_, fun _ => ordinary_of_mem_trail, fun _ => rfl⟩
      rw [decide_eq_true unmarked]
      rfl
  by_cases spells : spelled (rootMark path) (resolve (rootMark path ≠ "") (segments path)) = ""
  · exact absurd (by rw [Directory.normalize]; exact if_pos spells) elsewhere
  · exact ⟨_, _, route, spells, by rw [Directory.normalize]; exact if_neg spells⟩

/-! ## Names behind a path -/

theorem spelled_nil (mark : String) : spelled mark [] = mark := by
  rw [spelled, String.intercalate_nil, String.append_empty]

theorem isOpen_spelled_iff (route : IsRoute mark steps) :
    (spelled mark steps = "" ∨ endsWithSlash (spelled mark steps) = true) ↔ steps = [] := by
  constructor
  · intro isOpen
    by_contra named
    have closed := endsWithSlash_append_intercalate mark route.filled named
    rcases isOpen with empty | ends
    · have cut := names_spelled route
      rw [empty] at cut
      exact named cut.symm
    · rw [spelled, closed] at ends
      cases ends
  · rintro rfl
    rw [spelled_nil]
    rcases route.marked with rfl | rfl | rfl <;> decide

theorem append_spelled (route : IsRoute mark steps) (named : names ≠ [])
    (ordinary : ∀ name ∈ names, IsOrdinary name) :
    Directory.append (spelled mark steps) ("/".intercalate names) =
      spelled mark (steps ++ names) := by
  rw [Directory.append, isAbsolute_intercalate_of_ordinary ordinary, if_neg Bool.false_ne_true]
  split
  · rename_i isOpen
    rw [(isOpen_spelled_iff route).mp isOpen, spelled_nil, List.nil_append, spelled]
  · rename_i closed
    have behindSteps : steps ≠ [] := fun none => closed ((isOpen_spelled_iff route).mpr none)
    rw [spelled, spelled, String.intercalate_append_of_ne_nil behindSteps named]
    simp only [String.append_assoc]

theorem append_append_empty (path : String) {further : String}
    (relative : isAbsolute further = false) :
    Directory.append (Directory.append path "") further = Directory.append path further := by
  by_cases isOpen : path = "" ∨ endsWithSlash path = true
  · rw [append_empty_of_isOpen isOpen]
  · have slashed : endsWithSlash (path ++ "/") = true := by simp [endsWithSlash]
    rw [append_empty_of_not_isOpen isOpen]
    simp [Directory.append, relative, isOpen, slashed]

theorem normalize_append_empty (path : String) :
    Directory.normalize (Directory.append path "") = Directory.normalize path := by
  have relative : isAbsolute "" = false := rfl
  have same : resolve (rootMark path ≠ "") (segments (Directory.append path "")) =
      resolve (rootMark path ≠ "") (segments path) := by
    rw [resolve, foldl_enter_append _ _ _ relative, resolve]
    rfl
  rw [Directory.normalize, Directory.normalize, rootMark_append path relative, same]

/-! ## Plain paths -/

/-- A path in normal form, perhaps with a slash at its end. The present directory is
left out, as it is not spelled in front of what lies there. -/
def IsPlain (path : String) : Prop :=
  Directory.normalize path ≠ "." ∧
    (path = Directory.normalize path ∨ path = Directory.append (Directory.normalize path) "")

instance (path : String) : Decidable (IsPlain path) :=
  inferInstanceAs (Decidable (_ ∧ _))

theorem IsPlain.exists_route (plain : IsPlain path) :
    ∃ mark steps, IsRoute mark steps ∧
      (path = spelled mark steps ∨ path = Directory.append (spelled mark steps) "") := by
  rcases FileTree.exists_route plain.1 with ⟨mark, steps, route, -, normal⟩
  exact ⟨mark, steps, route, normal ▸ plain.2⟩

def IsNeat (tree : FileTree) (path : String) : Prop :=
  ∃ mark steps, IsRoute mark steps ∧
    (path = spelled mark steps ∨
      path = Directory.append (spelled mark steps) "" ∧ tree.leadsToDirectory (spelled mark steps))

variable {tree : FileTree}

theorem isNeat_append_names (route : IsRoute mark steps)
    (spells : path = spelled mark steps ∨ path = Directory.append (spelled mark steps) "")
    (named : names ≠ []) (ordinary : ∀ name ∈ names, IsOrdinary name) :
    tree.IsNeat (Directory.append path ("/".intercalate names)) := by
  refine ⟨mark, steps ++ names, route.append ordinary, .inl ?_⟩
  rw [← append_spelled route named ordinary]
  rcases spells with rfl | rfl
  · rfl
  · exact append_append_empty _ (isAbsolute_intercalate_of_ordinary ordinary)

namespace IsNeat

theorem append_names (neat : tree.IsNeat path) (named : names ≠ [])
    (ordinary : ∀ name ∈ names, IsOrdinary name) :
    tree.IsNeat (Directory.append path ("/".intercalate names)) := by
  rcases neat with ⟨mark, steps, route, spells⟩
  exact isNeat_append_names route (spells.imp id And.left) named ordinary

theorem append_name {name : String} (neat : tree.IsNeat path) (ordinary : IsOrdinary name) :
    tree.IsNeat (Directory.append path name) := by
  have named := neat.append_names (List.cons_ne_nil name []) (by simpa using ordinary)
  rwa [String.intercalate_singleton] at named

theorem append_empty (neat : tree.IsNeat path)
    (isDirectory : path = "" ∨ tree.leadsToDirectory path) :
    tree.IsNeat (Directory.append path "") := by
  rcases isDirectory with rfl | isDirectory
  · exact neat
  · rcases neat with ⟨mark, steps, route, rfl | ⟨rfl, leads⟩⟩
    · exact ⟨mark, steps, route, .inr ⟨rfl, isDirectory⟩⟩
    · exact ⟨mark, steps, route, .inr ⟨append_append_empty _ rfl, leads⟩⟩

/-- Either the path is in normal form, or its normal form leads to a directory. -/
theorem eq_normalize (neat : tree.IsNeat path) (spells : path ≠ "") :
    path = Directory.normalize path ∨ tree.leadsToDirectory (Directory.normalize path) := by
  rcases neat with ⟨mark, steps, route, rfl | ⟨rfl, leads⟩⟩
  · exact .inl (normalize_spelled route spells).symm
  · rw [normalize_append_empty]
    have spells : spelled mark steps ≠ "" := by
      intro empty
      rw [empty, leadsToDirectory_iff] at leads
      exact tree.not_leadsToEntry_empty (leadsToEntry_iff.mpr ⟨_, leads⟩)
    rw [normalize_spelled route spells]
    exact .inr leads

end IsNeat

end TypedModules.FileTree
