import TypedModules.Proofs.FileTree.Retracing
import TypedModules.Proofs.Pattern.Finding

/-! # What a pattern asks for

The names of a pattern ask for the names of paths, each for one of them, and two stars for
any number under recursion. A lookup finds just the paths that lead to entries by names that
are asked for.
-/

namespace TypedModules.Pattern

open FileTree Directory

/-- The names that the names of a pattern ask for. Wildcards only ask for names of entries,
and for hidden ones only behind a dot. Two stars at the end ask for at least one name. -/
inductive Asks (recursive : Bool) : List String → List String → Prop
  | nil : Asks recursive [] []
  | literal {name : String} {rest steps : List String}
      (isLiteral : Wildcard.isPattern name = false) (others : Asks recursive rest steps) :
      Asks recursive (name :: rest) (name :: steps)
  | wildcard {name step : String} {rest steps : List String}
      (isPattern : Wildcard.isPattern name = true) (single : (recursive && name = "**") = false)
      (ordinary : IsOrdinary step) (shown : isHidden name = true ∨ isHidden step = false)
      (accepted : Wildcard.accepts name step = true) (others : Asks recursive rest steps) :
      Asks recursive (name :: rest) (step :: steps)
  | stars {skipped rest steps : List String} (deep : recursive = true)
      (ordinary : ∀ step ∈ skipped, IsOrdinary step)
      (shown : ∀ step ∈ skipped, isHidden step = false)
      (further : rest = [] → skipped ≠ []) (others : Asks recursive rest steps) :
      Asks recursive ("**" :: rest) (skipped ++ steps)

namespace Asks

variable {recursive : Bool} {names steps : List String}

theorem eq_nil (asks : Asks recursive [] steps) : steps = [] := by
  cases asks
  rfl

theorem eq_nil_of_eq_nil (asks : Asks recursive names steps) (ended : steps = []) : names = [] := by
  induction asks with
  | nil => rfl
  | literal => cases ended
  | wildcard => cases ended
  | stars deep ordinary shown further others induction =>
      rcases List.append_eq_nil_iff.mp ended with ⟨unskipped, behind⟩
      exact absurd unskipped (further (induction behind))

theorem filled (asks : Asks recursive names steps)
    (namesFilled : ∀ name ∈ names, name ≠ "" ∧ '/' ∉ name.toList) :
    ∀ step ∈ steps, step ≠ "" ∧ '/' ∉ step.toList := by
  induction asks with
  | nil => simp
  | literal isLiteral others induction =>
      rw [List.forall_mem_cons] at namesFilled ⊢
      exact ⟨namesFilled.1, induction namesFilled.2⟩
  | wildcard isPattern single ordinary shown accepted others induction =>
      rw [List.forall_mem_cons] at namesFilled ⊢
      exact ⟨⟨ordinary.nonempty, ordinary.slashFree⟩, induction namesFilled.2⟩
  | stars deep ordinary shown further others induction =>
      rw [List.forall_mem_cons] at namesFilled
      rw [List.forall_mem_append]
      exact ⟨fun step member => ⟨(ordinary step member).nonempty, (ordinary step member).slashFree⟩,
        induction namesFilled.2⟩

end Asks

namespace Lookup

variable {lookup : Lookup} {directory name path first : String} {directoriesOnly : Bool}
  {names rest steps : List String}

/-! ## What is found is asked for -/

theorem exists_skipped_of_mem_names (named : first ≠ "" ∧ '/' ∉ first.toList)
    (found : name ∈ lookup.names directoriesOnly directory first) :
    ∃ skipped, name = "/".intercalate skipped ∧
      (∀ step ∈ skipped, step ≠ "" ∧ '/' ∉ step.toList) ∧
      ∀ rest steps, (rest = [] → skipped ≠ []) → Asks lookup.recursive rest steps →
        Asks lookup.recursive (first :: rest) (skipped ++ steps) := by
  rw [names] at found
  split_ifs at found with isPattern deep isEmpty isDirectory isThere
  · rw [Bool.and_eq_true, decide_eq_true_iff] at deep
    rw [namesBelow, List.mem_append, List.mem_map] at found
    rcases found with itself | ⟨⟨skipped, entry⟩, listed, rfl⟩
    · rw [List.mem_ite_nil_right, List.mem_singleton] at itself
      refine ⟨[], itself.2, by simp, fun rest steps further others => ?_⟩
      rw [deep.2]
      exact .stars deep.1 (by simp) (by simp) further others
    · rw [List.mem_filter, Bool.and_eq_true] at listed
      rcases mem_listAll_iff.mp listed.1 with ⟨-, -, location, -, stands⟩
      have ordinary := isOrdinary_of_mem stands
      have shown : ∀ step ∈ skipped, isHidden step = false := by simpa using listed.2.1
      refine ⟨skipped, rfl, fun step member =>
        ⟨(ordinary step member).nonempty, (ordinary step member).slashFree⟩,
        fun rest steps further others => ?_⟩
      rw [deep.2]
      exact .stars deep.1 ordinary shown further others
  · rcases List.mem_map.mp found with ⟨⟨step, entry⟩, listed, rfl⟩
    simp only [List.mem_filter, Bool.and_eq_true] at listed
    rcases mem_list_iff.mp listed.1 with ⟨location, -, stands⟩
    have ordinary := isOrdinary_of_mem stands step (List.mem_singleton_self step)
    refine ⟨[step], by rw [String.intercalate_singleton], ?_, fun rest steps _ others => ?_⟩
    · rw [List.forall_mem_singleton]
      exact ⟨ordinary.nonempty, ordinary.slashFree⟩
    · exact .wildcard isPattern (by simpa using deep) ordinary (by simpa using listed.2.1.1)
        listed.2.2 others
  · exact absurd isEmpty named.1
  · cases found
  · rw [List.mem_singleton.mp found]
    refine ⟨[first], by rw [String.intercalate_singleton], ?_, fun rest steps _ others => ?_⟩
    · rwa [List.forall_mem_singleton]
    · exact .literal (by simpa using isPattern) others
  · cases found

theorem exists_asked_of_mem_paths (closed : ¬(path = "" ∨ endsWithSlash path = true))
    (filled : ∀ name ∈ names, name ≠ "" ∧ '/' ∉ name.toList) :
    ∀ directories, path ∈ lookup.paths directories names →
      ∃ directory ∈ directories, ∃ steps, Asks lookup.recursive names steps ∧
        path = pathBelow directory steps := by
  induction names with
  | nil => exact fun directories found => ⟨path, found, [], .nil, by simp [pathBelow]⟩
  | cons first rest induction =>
      intro directories found
      rw [List.forall_mem_cons] at filled
      rcases induction filled.2 _ found with ⟨middle, isNext, steps, asks, rfl⟩
      rw [Text.mem_distinct, List.mem_flatMap] at isNext
      rcases isNext with ⟨directory, given, isNext⟩
      rcases List.mem_map.mp isNext with ⟨name, isName, rfl⟩
      rcases exists_skipped_of_mem_names filled.1 isName with ⟨skipped, rfl, skippedFilled, asksOn⟩
      have further : rest = [] → skipped ≠ [] := by
        rintro rfl rfl
        -- An empty name at the end would leave a slash there.
        rw [asks.eq_nil, pathBelow, if_pos rfl, String.intercalate_nil] at closed
        by_cases isOpen : directory = "" ∨ endsWithSlash directory = true
        · rw [append_empty_of_isOpen isOpen] at closed
          exact closed isOpen
        · rw [append_empty_of_not_isOpen isOpen] at closed
          exact closed (.inr (by simp [endsWithSlash]))
      refine ⟨directory, given, skipped ++ steps, asksOn rest steps further asks, ?_⟩
      have allFilled := List.forall_mem_append.mpr ⟨skippedFilled, asks.filled filled.2⟩
      have named := fun ended => further (asks.eq_nil_of_eq_nil ended)
      exact pathBelow_append allFilled named directory

/-! ## What is asked for is found -/

theorem exists_entry_of_pathBelow {tree : FileTree} {final : FileEntry}
    (filled : ∀ step ∈ steps, step ≠ "" ∧ '/' ∉ step.toList) (nonempty : directory ≠ "")
    (found : tree.find? (pathBelow directory steps) = some final) :
    ∃ entry, tree.find? directory = some entry ∧ (steps ≠ [] → entry = .directory) := by
  rw [pathBelow] at found
  split at found
  · rename_i last
    exact ⟨final, found, fun behind => absurd last behind⟩
  · rcases exists_location_of_find?_append (isAbsolute_intercalate filled) nonempty found with
      ⟨location, located, isDirectory, -⟩
    exact ⟨.directory, find?_eq_some_iff.mpr ⟨location, located, isDirectory⟩, fun _ => rfl⟩

theorem exists_location_of_listed {tree : FileTree} {entry : FileEntry} (below : names ≠ [])
    (ordinary : ∀ name ∈ names, IsOrdinary name)
    (found : tree.find? (append directory ("/".intercalate names)) = some entry) :
    ∃ location, tree.locate (listed directory) = .ok location ∧
      tree.lookup (location ++ names) = some entry := by
  have cut := segments_intercalate (fun name member => (ordinary name member).slashFree) below
  by_cases present : directory = ""
  · rw [present, append_empty_left] at found
    rcases find?_eq_some_iff.mp found with ⟨place, located, stands⟩
    have leads := (locate_eq_ok_iff.mp located).2.2
    rw [cut] at leads
    refine ⟨[], ?_, ?_⟩
    · rw [listed, if_pos present]
      exact locate_here tree
    · rw [← eq_append_of_follow ordinary leads]
      exact stands
  · rcases exists_location_of_find?_append (isAbsolute_intercalate_of_ordinary ordinary) present
      found with ⟨location, located, -, place, leads, stands⟩
    rw [cut] at leads
    refine ⟨location, ?_, ?_⟩
    · rw [listed, if_neg present]
      exact located
    · rw [← eq_append_of_follow ordinary leads]
      exact stands

theorem mem_list_of_find? {tree : FileTree} {entry : FileEntry} (ordinary : IsOrdinary name)
    (found : tree.find? (append directory name) = some entry) :
    (name, entry) ∈ tree.list (listed directory) := by
  rw [← String.intercalate_singleton (s := "/") (t := name)] at found
  rcases exists_location_of_listed (List.cons_ne_nil name []) (by simpa using ordinary) found with
    ⟨location, located, stands⟩
  exact mem_list_iff.mpr ⟨location, located, stands⟩

theorem isFollowed_of_listed {last : String} (filled : ∀ name ∈ names ++ [last], IsOrdinary name)
    (below : names ≠ [])
    (followed : IsFollowed (append directory ("/".intercalate (names ++ [last])))) :
    IsFollowed (pathBelow (listed directory) names) := by
  have relative := isAbsolute_intercalate_of_ordinary filled
  rw [List.forall_mem_append] at filled
  have named : 1 ≤ last.utf8ByteSize := by
    have nonempty := (filled.2 last (List.mem_singleton_self last)).nonempty
    exact Nat.one_le_iff_ne_zero.mpr (mt String.utf8ByteSize_eq_zero_iff.mp nonempty)
  have start : (append (listed directory) "").utf8ByteSize ≤
      (append directory "").utf8ByteSize + 2 := by
    rw [listed]
    split
    · have here : (append "." "").utf8ByteSize = 2 := by decide
      omega
    · omega
  have slash : "/".utf8ByteSize = 1 := by decide
  rw [IsFollowed, append_of_relative relative,
    String.intercalate_append_of_ne_nil below (List.cons_ne_nil last []),
    String.intercalate_singleton] at followed
  rw [IsFollowed, pathBelow, if_neg below,
    append_of_relative (isAbsolute_intercalate_of_ordinary filled.1)]
  simp only [String.utf8ByteSize_append] at followed ⊢
  omega

theorem mem_listAll_of_find? {tree : FileTree} {entry : FileEntry} (below : names ≠ [])
    (ordinary : ∀ name ∈ names, IsOrdinary name)
    (found : tree.find? (append directory ("/".intercalate names)) = some entry) :
    (names, entry) ∈ tree.listAll (listed directory) := by
  rcases exists_location_of_listed below ordinary found with ⟨location, located, stands⟩
  refine mem_listAll_iff.mpr ⟨?_, below, location, located, stands⟩
  rcases find?_eq_some_iff.mp found with ⟨place, placed, -⟩
  have followed := (locate_eq_ok_iff.mp placed).2.1
  by_cases single : names.dropLast = []
  · rw [single, pathBelow, if_pos rfl]
    exact (locate_eq_ok_iff.mp located).2.1
  · rw [← List.dropLast_concat_getLast below] at ordinary followed
    exact isFollowed_of_listed ordinary single followed

theorem exists_entry_of_asked {recursive : Bool} {tree : FileTree} {asked : List String}
    (others : Asks recursive rest steps) (named : asked ≠ [])
    (filled : ∀ step ∈ asked ++ steps, step ≠ "" ∧ '/' ∉ step.toList)
    (leads : tree.leadsToEntry (pathBelow directory (asked ++ steps))) :
    ∃ entry, tree.find? (append directory ("/".intercalate asked)) = some entry ∧
      (rest ≠ [] → entry = .directory) := by
  rw [← pathBelow_append filled (fun _ => named)] at leads
  rw [List.forall_mem_append] at filled
  rcases leadsToEntry_iff.mp leads with ⟨final, found⟩
  have nonempty := (not_or.mp (append_intercalate_closed named filled.1 directory)).1
  rcases exists_entry_of_pathBelow filled.2 nonempty found with ⟨entry, stands, between⟩
  exact ⟨entry, stands, fun behind => between (mt others.eq_nil_of_eq_nil behind)⟩

theorem mem_names_of_literal (isLiteral : Wildcard.isPattern first = false) (named : first ≠ "")
    (leads : lookup.tree.leadsToEntry (append directory first)) :
    first ∈ lookup.names directoriesOnly directory first := by
  rw [names, if_neg (by simp [isLiteral]), if_neg named, if_pos leads]
  exact List.mem_singleton_self first

theorem mem_names_of_wildcard {entry : FileEntry} (isPattern : Wildcard.isPattern first = true)
    (single : (lookup.recursive && first = "**") = false) (ordinary : IsOrdinary name)
    (shown : isHidden first = true ∨ isHidden name = false)
    (accepted : Wildcard.accepts first name = true)
    (found : lookup.tree.find? (append directory name) = some entry)
    (kind : directoriesOnly = true → entry = .directory) :
    name ∈ lookup.names directoriesOnly directory first := by
  rw [names, if_pos isPattern, if_neg (by simp [single]), namesMatching, List.mem_map]
  refine ⟨(name, entry), ?_, rfl⟩
  rw [List.mem_filter]
  refine ⟨mem_list_of_find? ordinary found, ?_⟩
  cases directoriesOnly with
  | false => simpa [accepted] using shown
  | true => simpa [accepted, kind rfl] using shown

theorem mem_names_of_stars (deep : lookup.recursive = true) {asked : List String}
    (ordinary : ∀ step ∈ asked, IsOrdinary step) (shown : ∀ step ∈ asked, isHidden step = false)
    (itself : asked = [] → directory = "" ∨ lookup.tree.leadsToDirectory directory = true)
    (found : asked ≠ [] → ∃ entry,
      lookup.tree.find? (append directory ("/".intercalate asked)) = some entry ∧
        (directoriesOnly = true → entry = .directory)) :
    "/".intercalate asked ∈ lookup.names directoriesOnly directory "**" := by
  have isPattern : Wildcard.isPattern "**" = true := by decide
  rw [names, if_pos isPattern, if_pos (by simp [deep]), namesBelow, List.mem_append]
  by_cases none : asked = []
  · refine .inl ?_
    rw [none, String.intercalate_nil, if_pos (by simpa using itself none)]
    exact List.mem_singleton_self ""
  · rcases found none with ⟨entry, stands, kind⟩
    refine .inr (List.mem_map.mpr ⟨(asked, entry), ?_, rfl⟩)
    have visible : asked.any isHidden = false := by simpa using shown
    rw [List.mem_filter]
    refine ⟨mem_listAll_of_find? none ordinary stands, ?_⟩
    cases directoriesOnly with
    | false => simp [visible]
    | true => simp [visible, kind rfl]

theorem mem_paths_cons (asked : List String) {directories : List String}
    (behind : ∀ {directory : String} {directories : List String}, directory ∈ directories →
      lookup.tree.leadsToEntry (pathBelow directory steps) →
        pathBelow directory steps ∈ lookup.paths directories rest)
    (filled : ∀ step ∈ asked ++ steps, step ≠ "" ∧ '/' ∉ step.toList)
    (further : steps = [] → asked ≠ []) (given : directory ∈ directories)
    (leads : lookup.tree.leadsToEntry (pathBelow directory (asked ++ steps)))
    (isName : "/".intercalate asked ∈ lookup.names (!rest.isEmpty) directory first) :
    pathBelow directory (asked ++ steps) ∈ lookup.paths directories (first :: rest) := by
  rw [← pathBelow_append filled further] at leads ⊢
  refine behind ?_ leads
  rw [Text.mem_distinct, List.mem_flatMap]
  exact ⟨directory, given, List.mem_map_of_mem isName⟩

theorem mem_paths_of_asks (asks : Asks lookup.recursive names steps)
    (filled : ∀ name ∈ names, name ≠ "" ∧ '/' ∉ name.toList) :
    ∀ {directory : String} {directories : List String}, directory ∈ directories →
      lookup.tree.leadsToEntry (pathBelow directory steps) →
        pathBelow directory steps ∈ lookup.paths directories names := by
  induction asks with
  | nil =>
      intro directory directories given _
      rw [pathBelow, if_pos rfl]
      exact given
  | @literal name rest steps isLiteral others induction =>
      intro directory directories given leads
      have stepsFilled := (Asks.literal isLiteral others).filled filled
      rw [List.forall_mem_cons] at filled
      rcases exists_entry_of_asked others (List.cons_ne_nil name []) stepsFilled leads with
        ⟨entry, stands, -⟩
      rw [String.intercalate_singleton] at stands
      refine mem_paths_cons [name] (induction filled.2) stepsFilled (by simp) given leads ?_
      rw [String.intercalate_singleton]
      exact mem_names_of_literal isLiteral filled.1.1 (leadsToEntry_iff.mpr ⟨entry, stands⟩)
  | @wildcard name step rest steps isPattern single ordinary shown accepted others induction =>
      intro directory directories given leads
      have asks := Asks.wildcard isPattern single ordinary shown accepted others
      have stepsFilled := asks.filled filled
      rw [List.forall_mem_cons] at filled
      rcases exists_entry_of_asked others (List.cons_ne_nil step []) stepsFilled leads with
        ⟨entry, stands, between⟩
      rw [String.intercalate_singleton] at stands
      refine mem_paths_cons [step] (induction filled.2) stepsFilled (by simp) given leads ?_
      rw [String.intercalate_singleton]
      exact mem_names_of_wildcard isPattern single ordinary shown accepted stands
        (by simpa using between)
  | @stars skipped rest steps deep ordinary shown further others induction =>
      intro directory directories given leads
      have stepsFilled := (Asks.stars deep ordinary shown further others).filled filled
      rw [List.forall_mem_cons] at filled
      refine mem_paths_cons skipped (induction filled.2) stepsFilled
        (fun ended => further (others.eq_nil_of_eq_nil ended)) given leads ?_
      refine mem_names_of_stars deep ordinary shown (fun none => ?_) (fun named => ?_)
      · -- Two stars that ask for nothing have names behind them, which lead on from a directory.
        by_cases present : directory = ""
        · exact .inl present
        · have behind : steps ≠ [] := mt others.eq_nil_of_eq_nil (mt further (by simp [none]))
          rw [none, List.nil_append] at leads
          rcases leadsToEntry_iff.mp leads with ⟨final, found⟩
          rcases exists_entry_of_pathBelow (others.filled filled.2) present found with
            ⟨entry, stands, between⟩
          rw [between behind] at stands
          exact .inr (leadsToDirectory_iff.mpr stands)
      · rcases exists_entry_of_asked others named stepsFilled leads with ⟨entry, stands, between⟩
        exact ⟨entry, stands, by simpa using between⟩

/-- A lookup finds just the paths that lead to entries by names that are asked for, apart from
paths that are too long to be followed and from those that end with a slash. -/
theorem mem_paths_iff_asks (closed : ¬(path = "" ∨ endsWithSlash path = true))
    (followed : IsFollowed path) (named : names ≠ [])
    (filled : ∀ name ∈ names, name ≠ "" ∧ '/' ∉ name.toList) :
    path ∈ lookup.paths [directory] names ↔
      lookup.tree.leadsToEntry path ∧
        ∃ steps, Asks lookup.recursive names steps ∧
          path = append directory ("/".intercalate steps) := by
  constructor
  · intro found
    have leads := (leads_of_mem_paths named _ found).resolve_left (not_or.mp closed).1
    rcases exists_asked_of_mem_paths closed filled _ found with ⟨start, given, steps, asks, spelled⟩
    rw [List.mem_singleton.mp given, pathBelow, if_neg (mt asks.eq_nil_of_eq_nil named)] at spelled
    exact ⟨leadsToEntry_iff.mpr (leads followed), steps, asks, spelled⟩
  · rintro ⟨leads, steps, asks, rfl⟩
    have found := mem_paths_of_asks asks filled (List.mem_singleton_self directory)
    rw [pathBelow, if_neg (mt asks.eq_nil_of_eq_nil named)] at found
    exact found leads

end Lookup

end TypedModules.Pattern
