import TypedModules.Proofs.FileTree.Spelling
import TypedModules.Proofs.Pattern.Finding

/-! # How found paths are spelled

A pattern that is spelled plainly only stands for paths in normal form, apart from
slashes behind directories. Its literal start is kept as it is spelled, and all that is
looked up from there is named.
-/

namespace TypedModules.Pattern

open FileTree Directory

variable {mark path : String} {steps : List String}

/-! ## The parts of a plain pattern -/

theorem segments_spelled (route : IsRoute mark steps) (named : steps ≠ []) :
    segments (spelled mark steps) = (segments mark).dropLast ++ steps := by
  have cut := segments_intercalate (fun step member => (route.filled step member).2) named
  rw [spelled]
  rcases route.marked with rfl | rfl | rfl
  · rw [String.empty_append, cut]
    rfl
  · have split := segments_append_slash "" ("/".intercalate steps)
    rw [cut] at split
    exact split
  · have split := segments_append_slash "/" ("/".intercalate steps)
    rw [cut] at split
    exact split

theorem literalStart_spelled (route : IsRoute mark steps) :
    PathPattern.literalStart ((segments mark).dropLast ++ steps) = spelled mark steps := by
  by_cases named : steps = []
  · rw [named, spelled_nil, List.append_nil]
    rcases route.marked with rfl | rfl | rfl <;> decide
  · have last := (route.filled _ (List.getLast_mem named)).1
    rw [Lookup.literalStart_of_getLast (List.append_ne_nil_of_right_ne_nil _ named)
      (by rwa [List.getLast_append_of_ne_nil _ named]), ← segments_spelled route named]
    exact Text.intercalate_pieces '/' _

structure IsNamed (pattern : PathPattern) : Prop where
  start : ∃ mark steps, IsRoute mark steps ∧ pattern.start = spelled mark steps
  names : ∀ name ∈ pattern.names, name = "" ∨ IsOrdinary name

theorem isPattern_of_ne_empty {name : String} (isPattern : Wildcard.isPattern name) :
    name ≠ "" ∧ name ≠ ".." := by
  constructor <;> rintro rfl <;> cases isPattern

theorem ofPath?_of_forall_not_isPattern
    (literal : ∀ segment ∈ segments path, Wildcard.isPattern segment = false) :
    PathPattern.ofPath? path = none := by
  have none : (segments path).dropWhile (fun segment => !Wildcard.isPattern segment) = [] := by
    rw [List.dropWhile_eq_nil_iff]
    simpa using literal
  rw [PathPattern.ofPath?, none]

theorem ofPath?_of_segments {before behind : List String} {first : String}
    (split : segments path = before ++ first :: behind)
    (literal : ∀ segment ∈ before, Wildcard.isPattern segment = false)
    (isPattern : Wildcard.isPattern first = true) :
    PathPattern.ofPath? path = some
      { start := PathPattern.literalStart before
        names := first :: behind.dropLast.filter (· ≠ "") ++ behind.getLast?.toList } := by
  have literal : ∀ segment ∈ before, (!Wildcard.isPattern segment) = true := by simpa using literal
  simp only [PathPattern.ofPath?, split, List.dropWhile_append_of_pos literal,
    List.takeWhile_append_of_pos literal, List.dropWhile_cons, List.takeWhile_cons, isPattern,
    Bool.not_true, Bool.false_eq_true, if_false, List.append_nil]

theorem mem_of_mem_names {first name : String} {behind : List String}
    (member : name ∈ first :: behind.dropLast.filter (· ≠ "") ++ behind.getLast?.toList) :
    name ∈ first :: behind := by
  rcases List.mem_append.mp member with early | last
  · rcases List.mem_cons.mp early with rfl | between
    · exact List.mem_cons_self
    · exact List.mem_cons_of_mem _ (List.dropLast_subset _ (List.mem_of_mem_filter between))
  · exact List.mem_cons_of_mem _ (List.mem_of_getLast? (Option.mem_toList.mp last))

theorem segments_of_isPlain (plain : IsPlain path) :
    ∃ mark steps ending, IsRoute mark steps ∧ (∀ segment ∈ ending, segment = "") ∧
      segments path = (segments mark).dropLast ++ steps ++ ending := by
  rcases plain.exists_route with ⟨mark, steps, route, spells⟩
  by_cases named : steps = []
  · have isMark : path = mark := by
      rw [named, spelled_nil] at spells
      rcases spells with rfl | rfl
      · rfl
      · exact append_empty_of_isOpen (by rcases route.marked with rfl | rfl | rfl <;> decide)
    refine ⟨mark, steps, [""], route, by simp, ?_⟩
    rw [isMark, named]
    rcases route.marked with rfl | rfl | rfl <;> decide
  · rcases spells with rfl | rfl
    · refine ⟨mark, steps, [], route, by simp, ?_⟩
      rw [segments_spelled route named, List.append_nil]
    · refine ⟨mark, steps, [""], route, by simp, ?_⟩
      rw [append_empty_of_not_isOpen (mt (isOpen_spelled_iff route).mp named),
        segments_slash_end, segments_spelled route named]

theorem isNamed_of_ofPath? {pattern : PathPattern} (plain : IsPlain path)
    (cut : PathPattern.ofPath? path = some pattern) : IsNamed pattern := by
  rcases segments_of_isPlain plain with ⟨mark, steps, ending, route, empty, split⟩
  have literalMark : ∀ segment ∈ (segments mark).dropLast, Wildcard.isPattern segment = false := by
    rcases route.marked with rfl | rfl | rfl <;> decide
  have literalEnding : ∀ segment ∈ ending, Wildcard.isPattern segment = false := fun _ member => by
    rw [empty _ member]
    decide
  let literal := steps.takeWhile fun step => !Wildcard.isPattern step
  have literalSteps : ∀ step ∈ literal, Wildcard.isPattern step = false := fun step member => by
    simpa using List.mem_takeWhile_imp member
  have kept : literal ++ steps.dropWhile (fun step => !Wildcard.isPattern step) = steps :=
    List.takeWhile_append_dropWhile
  cases behind : steps.dropWhile fun step => !Wildcard.isPattern step with
  | nil =>
      rw [behind, List.append_nil] at kept
      rw [ofPath?_of_forall_not_isPattern] at cut
      · cases cut
      · rw [split, ← kept]
        simp only [List.forall_mem_append]
        exact ⟨⟨literalMark, literalSteps⟩, literalEnding⟩
  | cons first rest =>
      rw [behind] at kept
      have isPattern : Wildcard.isPattern first = true := by
        have found := List.head?_dropWhile_not (fun step => !Wildcard.isPattern step) steps
        simpa [behind] using found
      rw [← kept] at route
      rcases route.cut (isPattern_of_ne_empty isPattern).2 with ⟨outer, ordinary⟩
      have splitAt : segments path =
          ((segments mark).dropLast ++ literal) ++ first :: (rest ++ ending) := by
        rw [split, ← kept]
        simp
      rw [ofPath?_of_segments splitAt (List.forall_mem_append.mpr ⟨literalMark, literalSteps⟩)
        isPattern, Option.some.injEq] at cut
      subst cut
      refine ⟨⟨mark, literal, outer, literalStart_spelled outer⟩, fun name member => ?_⟩
      have inBehind : name ∈ first :: rest ++ ending := mem_of_mem_names member
      rcases List.mem_append.mp inBehind with named | isEmpty
      · exact .inr (ordinary name named)
      · exact .inl (empty name isEmpty)

/-! ## Found paths -/

namespace Lookup

variable {lookup : Lookup} {directory name pattern : String} {directoriesOnly : Bool}

theorem isNeat_of_mem_names (neat : lookup.tree.IsNeat directory)
    (named : pattern = "" ∨ IsOrdinary pattern)
    (found : name ∈ lookup.names directoriesOnly directory pattern) :
    lookup.tree.IsNeat (Directory.append directory name) := by
  rw [names] at found
  split_ifs at found with isPattern deep isEmpty isDirectory isThere
  · rw [namesBelow, List.mem_append, List.mem_map] at found
    rcases found with itself | ⟨⟨names, entry⟩, listed, rfl⟩
    · rw [List.mem_ite_nil_right, List.mem_singleton, Bool.or_eq_true, decide_eq_true_iff] at itself
      rw [itself.2]
      exact neat.append_empty itself.1
    · rcases mem_listAll_iff.mp (List.mem_of_mem_filter listed) with ⟨-, below, location, -, stands⟩
      exact neat.append_names below (isOrdinary_of_mem stands)
  · rcases List.mem_map.mp found with ⟨⟨name, entry⟩, listed, rfl⟩
    rcases mem_list_iff.mp (List.mem_of_mem_filter listed) with ⟨location, -, stands⟩
    exact neat.append_name (isOrdinary_of_mem stands name (List.mem_singleton_self name))
  · rw [List.mem_singleton.mp found]
    exact neat.append_empty (.inr isDirectory)
  · cases found
  · rw [List.mem_singleton.mp found]
    exact neat.append_name (named.resolve_left isEmpty)
  · cases found

theorem isNeat_of_mem_paths {names : List String}
    (named : ∀ name ∈ names, name = "" ∨ IsOrdinary name) :
    ∀ directories, (∀ directory ∈ directories, lookup.tree.IsNeat directory) →
      ∀ path ∈ lookup.paths directories names, lookup.tree.IsNeat path := by
  induction names with
  | nil => exact fun directories neat => neat
  | cons first rest induction =>
      intro directories neat
      rw [List.forall_mem_cons] at named
      apply induction named.2
      intro path member
      rw [Text.mem_distinct, List.mem_flatMap] at member
      rcases member with ⟨directory, given, found⟩
      rcases List.mem_map.mp found with ⟨name, isName, rfl⟩
      exact isNeat_of_mem_names (neat directory given) named.1 isName

theorem isNeat_of_leadsSomewhere (plain : IsPlain path) (found : lookup.leadsSomewhere path) :
    lookup.tree.IsNeat path := by
  rcases plain.exists_route with ⟨mark, steps, route, rfl | rfl⟩
  · exact ⟨mark, steps, route, .inl rfl⟩
  · by_cases named : steps = []
    · have isOpen := (isOpen_spelled_iff route).mpr named
      exact ⟨mark, steps, route, .inl (append_empty_of_isOpen isOpen)⟩
    · refine ⟨mark, steps, route, .inr ⟨rfl, ?_⟩⟩
      rw [append_empty_of_not_isOpen (mt (isOpen_spelled_iff route).mp named), leadsSomewhere,
        if_pos (by simp [endsWithSlash]), segments_slash_end, List.dropLast_concat,
        segments_spelled route named, literalStart_spelled route] at found
      exact found

theorem isNeat_of_mem_expand (plain : IsPlain pattern) (found : path ∈ lookup.expand pattern) :
    lookup.tree.IsNeat path := by
  rw [expand] at found
  split at found
  · rw [List.mem_ite_nil_right, List.mem_singleton] at found
    rw [found.2]
    exact isNeat_of_leadsSomewhere plain found.1
  · rename_i shape cut
    have parts := isNamed_of_ofPath? plain cut
    rcases parts.start with ⟨mark, steps, route, start⟩
    refine isNeat_of_mem_paths parts.names [shape.start] ?_ path (List.mem_of_mem_filter found)
    intro directory member
    exact ⟨mark, steps, route, .inl ((List.mem_singleton.mp member).trans start)⟩

end Lookup

end TypedModules.Pattern
