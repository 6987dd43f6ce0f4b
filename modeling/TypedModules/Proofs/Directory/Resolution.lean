import TypedModules.Directory

/-! # Where absolute paths lead

An absolute path leads along its trail, the names that are left once its steps
have been followed. Normalizing writes the trail down again, and a relative path
that is appended goes on from the end of the trail.
-/

namespace TypedModules.Directory

/-! ## Ordinary segments -/

structure IsOrdinary (segment : String) : Prop where
  nonempty : segment ≠ ""
  notHere : segment ≠ "."
  notUp : segment ≠ ".."
  slashFree : '/' ∉ segment.toList

theorem enter_ordinary (rooted : Bool) (stack : List String) {segment : String}
    (ordinary : IsOrdinary segment) : enter rooted stack segment = segment :: stack :=
  enter_of_ordinary rooted stack ordinary.nonempty ordinary.notHere ordinary.notUp

theorem foldl_enter_ordinary (rooted : Bool) (names : List String)
    (ordinary : ∀ name ∈ names, IsOrdinary name) :
    ∀ stack, names.foldl (enter rooted) stack = names.reverse ++ stack := by
  induction names with
  | nil => intro stack; rfl
  | cons first rest induction =>
      intro stack
      have restOrdinary : ∀ name ∈ rest, IsOrdinary name := fun name member =>
        ordinary name (List.mem_cons_of_mem first member)
      rw [List.foldl_cons, enter_ordinary rooted stack (ordinary first List.mem_cons_self)]
      rw [induction restOrdinary]
      simp

theorem resolve_ordinary (rooted : Bool) {names : List String}
    (ordinary : ∀ name ∈ names, IsOrdinary name) : resolve rooted names = names := by
  rw [resolve, foldl_enter_ordinary rooted names ordinary]
  simp

theorem enter_up_of_cons {first : String} (rest : List String) (notUp : first ≠ "..") :
    enter true (first :: rest) ".." = rest := by
  simp [enter, notUp]

theorem foldl_enter_up (count : Nat) :
    ∀ stack : List String, ".." ∉ stack →
      (List.replicate count "..").foldl (enter true) stack = stack.drop count := by
  induction count with
  | zero => intro stack _; rfl
  | succ count induction =>
      intro stack noUp
      rw [List.replicate_succ, List.foldl_cons]
      cases stack with
      | nil => simpa [enter] using induction [] noUp
      | cons first rest =>
          rw [List.mem_cons, not_or] at noUp
          rw [enter_up_of_cons rest (Ne.symm noUp.1), induction rest noUp.2]
          rfl

theorem ordinary_of_mem_enter {stack : List String} {segment : String}
    (stackOrdinary : ∀ name ∈ stack, IsOrdinary name) (slashFree : '/' ∉ segment.toList) :
    ∀ name ∈ enter true stack segment, IsOrdinary name := by
  intro name member
  unfold enter at member
  split at member
  · exact stackOrdinary name member
  · rename_i named
    rw [not_or] at named
    split at member
    · rename_i notUp
      rcases List.mem_cons.1 member with rfl | inStack
      · exact ⟨named.1, named.2, notUp, slashFree⟩
      · exact stackOrdinary name inStack
    · cases stack with
      | nil => simp at member
      | cons last outer =>
          have lastNotUp := (stackOrdinary last List.mem_cons_self).notUp
          simp only [lastNotUp, if_false] at member
          exact stackOrdinary name (List.mem_cons_of_mem last member)

theorem ordinary_of_mem_foldl_enter (path : List String)
    (slashFree : ∀ segment ∈ path, '/' ∉ segment.toList) :
    ∀ stack : List String, (∀ name ∈ stack, IsOrdinary name) →
      ∀ name ∈ path.foldl (enter true) stack, IsOrdinary name := by
  induction path with
  | nil => intro stack stackOrdinary; exact stackOrdinary
  | cons first rest induction =>
      intro stack stackOrdinary
      apply induction fun segment member => slashFree segment (List.mem_cons_of_mem first member)
      exact ordinary_of_mem_enter stackOrdinary (slashFree first List.mem_cons_self)

/-! ## Segments of composed texts -/

theorem slash_notMem_of_mem_segments {path segment : String} (member : segment ∈ segments path) :
    '/' ∉ segment.toList :=
  Text.notMem_of_mem_pieces member

theorem segments_append_slash (left right : String) :
    segments (left ++ "/" ++ right) = segments left ++ segments right :=
  Text.pieces_append '/' left right

theorem segments_slash_end (path : String) : segments (path ++ "/") = segments path ++ [""] := by
  simpa [segments, Text.pieces] using segments_append_slash path ""

theorem segments_of_slashFree {segment : String} (slashFree : '/' ∉ segment.toList) :
    segments segment = [segment] := by
  have free : ∀ text ∈ [segment], '/' ∉ text.toList := by simpa using slashFree
  have single := Text.pieces_intercalate free (List.cons_ne_nil segment [])
  rwa [String.intercalate_singleton] at single

theorem segments_here_append (path : String) : segments ("./" ++ path) = "." :: segments path := by
  have split := segments_append_slash "." path
  have joined : "." ++ "/" = "./" := by decide
  have here : segments "." = ["."] := by decide
  rwa [joined, here, List.singleton_append] at split

theorem segments_intercalate {names : List String}
    (slashFree : ∀ name ∈ names, '/' ∉ name.toList) (nonempty : names ≠ []) :
    segments ("/".intercalate names) = names :=
  Text.pieces_intercalate slashFree nonempty

theorem intercalate_ne_of_notMem {names : List String}
    (slashFree : ∀ name ∈ names, '/' ∉ name.toList) (nonempty : names ≠ []) {name : String}
    (single : segments name = [name]) (absent : name ∉ names) : "/".intercalate names ≠ name := by
  intro same
  have cut := segments_intercalate slashFree nonempty
  rw [same, single] at cut
  exact absent (cut ▸ List.mem_singleton_self name)

theorem isAbsolute_append_of_ne (left right : String) (nonempty : left ≠ "") :
    isAbsolute (left ++ right) = isAbsolute left := by
  have characters : left.toList ≠ [] := by simpa using nonempty
  cases text : left.toList with
  | nil => exact absurd text characters
  | cons first rest => simp [isAbsolute, text]

theorem isAbsolute_eq_false_of_slashFree {segment : String} (slashFree : '/' ∉ segment.toList) :
    isAbsolute segment = false := by
  cases text : segment.toList with
  | nil => simp [isAbsolute, text]
  | cons first rest =>
      rw [text] at slashFree
      simp only [List.mem_cons, not_or] at slashFree
      simp [isAbsolute, text, Ne.symm slashFree.1]

theorem eq_append_slash_of_endsWithSlash {path : String} (ends : endsWithSlash path = true) :
    ∃ start, path = start ++ "/" := by
  have last : path.toList.getLast? = some '/' := by simpa [endsWithSlash] using ends
  rcases List.getLast?_eq_some_iff.1 last with ⟨start, split⟩
  refine ⟨String.ofList start, ?_⟩
  apply String.toList_injective
  simpa using split

theorem append_empty_left (path : String) : append "" path = path := by
  rw [append]
  split
  · rfl
  · rw [if_pos (.inl rfl), String.empty_append]

theorem append_empty_of_isOpen {path : String} (isOpen : path = "" ∨ endsWithSlash path = true) :
    append path "" = path := by
  simp [append, isAbsolute, isOpen]

theorem append_empty_of_not_isOpen {path : String}
    (closed : ¬(path = "" ∨ endsWithSlash path = true)) : append path "" = path ++ "/" := by
  simp [append, isAbsolute, closed]

theorem append_of_relative {further : String} (relative : isAbsolute further = false)
    (path : String) : append path further = append path "" ++ further := by
  by_cases isOpen : path = "" ∨ endsWithSlash path = true
  · rw [append_empty_of_isOpen isOpen, append, if_neg (by simp [relative]), if_pos isOpen]
  · rw [append_empty_of_not_isOpen isOpen, append, if_neg (by simp [relative]), if_neg isOpen]

theorem append_cases {further : String} (relative : isAbsolute further = false) (path : String) :
    path = "" ∧ append path further = further ∨
      ∃ start, (path = start ++ "/" ∨ path = start) ∧
        append path further = start ++ "/" ++ further := by
  by_cases empty : path = ""
  · rw [empty]
    exact .inl ⟨rfl, append_empty_left further⟩
  · rw [append_of_relative relative]
    by_cases slashed : endsWithSlash path = true
    · rcases eq_append_slash_of_endsWithSlash slashed with ⟨start, rfl⟩
      rw [append_empty_of_isOpen (.inr slashed)]
      exact .inr ⟨start, .inl rfl, rfl⟩
    · rw [append_empty_of_not_isOpen (by simp [empty, slashed])]
      exact .inr ⟨path, .inr rfl, rfl⟩

theorem foldl_enter_append (rooted : Bool) (stack : List String) (directory : String)
    {path : String} (relative : isAbsolute path = false) :
    (segments (append directory path)).foldl (enter rooted) stack =
      (segments path).foldl (enter rooted)
        ((segments directory).foldl (enter rooted) stack) := by
  rcases append_cases relative directory with ⟨rfl, appended⟩ | ⟨start, rfl | rfl, appended⟩
  · rw [appended]
    rfl
  · rw [appended, segments_append_slash, segments_slash_end]
    simp
  · rw [appended, segments_append_slash, List.foldl_append]

/-! ## The mark of the root -/

theorem rootMark_eq_empty_iff (path : String) : rootMark path = "" ↔ isAbsolute path = false := by
  unfold rootMark isAbsolute
  cases path.toList with
  | nil => simp
  | cons first rest =>
      by_cases slash : first = '/'
      · subst first
        split <;> simp_all
      · simp [slash]

theorem rootMark_cases (path : String) :
    rootMark path = "" ∨ rootMark path = "/" ∨ rootMark path = "//" := by
  unfold rootMark
  split <;> simp

theorem rootMark_append_of_separate {left right : String} (nonempty : left ≠ "")
    (separate : endsWithSlash left = true → isAbsolute right = false) :
    rootMark (left ++ right) = rootMark left := by
  have characters : left.toList ≠ [] := by simpa using nonempty
  unfold endsWithSlash isAbsolute at separate
  unfold rootMark
  rw [String.toList_append]
  match text : left.toList, characters with
  | [first], _ =>
      rw [text] at separate
      by_cases slash : first = '/'
      · subst first
        cases next : right.toList <;> simp_all
      · simp [slash]
  | [first, second], _ =>
      rw [text] at separate
      by_cases slash : first = '/'
      · subst first
        by_cases slash : second = '/'
        · subst second
          cases next : right.toList <;> simp_all
        · simp [slash]
      · simp [slash]
  | first :: second :: third :: rest, _ =>
      by_cases slash : first = '/'
      · subst first
        by_cases slash : second = '/'
        · subst second
          by_cases slash : third = '/' <;> simp [slash]
        · simp [slash]
      · simp [slash]

theorem rootMark_append (directory : String) {path : String}
    (relative : isAbsolute path = false) :
    rootMark (append directory path) = rootMark directory := by
  unfold append
  rw [relative, if_neg Bool.false_ne_true]
  by_cases empty : directory = ""
  · subst directory
    rw [if_pos (.inl rfl), String.empty_append, (rootMark_eq_empty_iff path).2 relative]
    rfl
  · split
    · exact rootMark_append_of_separate empty fun _ => relative
    · rename_i closed
      rw [not_or] at closed
      rw [String.append_assoc]
      exact rootMark_append_of_separate empty fun ends => absurd ends closed.2

theorem isAbsolute_eq_of_rootMark_eq {left right : String}
    (same : rootMark left = rootMark right) : isAbsolute left = isAbsolute right := by
  have relative := rootMark_eq_empty_iff left
  rw [same, rootMark_eq_empty_iff] at relative
  cases leftCase : isAbsolute left with
  | false => exact (relative.2 leftCase).symm
  | true =>
      cases rightCase : isAbsolute right with
      | false => exact absurd (relative.1 rightCase) (by simp [leftCase])
      | true => rfl

theorem isAbsolute_append_of_relative (directory : String) {path : String}
    (relative : isAbsolute path = false) :
    isAbsolute (append directory path) = isAbsolute directory :=
  isAbsolute_eq_of_rootMark_eq (rootMark_append directory relative)

theorem append_of_isAbsolute (directory : String) {path : String}
    (rooted : isAbsolute path = true) : append directory path = path :=
  if_pos rooted

theorem isAbsolute_append {directory : String} (path : String)
    (rooted : isAbsolute directory = true) : isAbsolute (append directory path) = true := by
  by_cases pathRooted : isAbsolute path = true
  · rw [append_of_isAbsolute directory pathRooted]
    exact pathRooted
  · rw [isAbsolute_append_of_relative directory (by simpa using pathRooted)]
    exact rooted

/-! ## Trails -/

def trail (path : String) : List String :=
  resolve true (segments path)

theorem ordinary_of_mem_trail {path name : String} (member : name ∈ trail path) :
    IsOrdinary name := by
  rw [trail, resolve, List.mem_reverse] at member
  exact ordinary_of_mem_foldl_enter (segments path)
    (fun _ isSegment => slash_notMem_of_mem_segments isSegment) [] (by simp) name member

theorem up_notMem_trail (path : String) : ".." ∉ trail path :=
  fun member => (ordinary_of_mem_trail member).notUp rfl

theorem trail_append (directory : String) {path : String} (relative : isAbsolute path = false) :
    trail (append directory path) =
      ((segments path).foldl (enter true) (trail directory).reverse).reverse := by
  rw [trail, resolve, foldl_enter_append true [] directory relative, trail, resolve,
    List.reverse_reverse]

theorem normalize_of_absolute {path : String} (rooted : isAbsolute path = true) :
    normalize path = rootMark path ++ "/".intercalate (trail path) := by
  have marked : rootMark path ≠ "" := by
    simp [rootMark_eq_empty_iff, rooted]
  simp [normalize, marked, trail]

theorem isAbsolute_intercalate {names : List String}
    (filled : ∀ name ∈ names, name ≠ "" ∧ '/' ∉ name.toList) :
    isAbsolute ("/".intercalate names) = false := by
  cases names with
  | nil => rfl
  | cons first rest =>
      have firstFilled := filled first List.mem_cons_self
      cases rest with
      | nil => simpa using isAbsolute_eq_false_of_slashFree firstFilled.2
      | cons second others =>
          rw [String.intercalate_cons_cons, String.append_assoc,
            isAbsolute_append_of_ne _ _ firstFilled.1]
          exact isAbsolute_eq_false_of_slashFree firstFilled.2

theorem isAbsolute_intercalate_of_ordinary {names : List String}
    (ordinary : ∀ name ∈ names, IsOrdinary name) :
    isAbsolute ("/".intercalate names) = false :=
  isAbsolute_intercalate fun name member =>
    ⟨(ordinary name member).nonempty, (ordinary name member).slashFree⟩

theorem rootMark_normalize {path : String} (rooted : isAbsolute path = true) :
    rootMark (normalize path) = rootMark path := by
  have marked : rootMark path ≠ "" := by
    simp [rootMark_eq_empty_iff, rooted]
  have relative := isAbsolute_intercalate_of_ordinary
    (fun name (member : name ∈ trail path) => ordinary_of_mem_trail member)
  rw [normalize_of_absolute rooted, rootMark_append_of_separate marked fun _ => relative]
  rcases rootMark_cases path with mark | mark | mark <;> rw [mark] <;> rfl

theorem isAbsolute_normalize {path : String} (rooted : isAbsolute path = true) :
    isAbsolute (normalize path) = true := by
  rw [isAbsolute_eq_of_rootMark_eq (rootMark_normalize rooted)]
  exact rooted

/-! ## Names and trails -/

theorem foldl_enter_filter_nonempty (rooted : Bool) (path stack : List String) :
    (path.filter (· ≠ "")).foldl (enter rooted) stack = path.foldl (enter rooted) stack := by
  induction path generalizing stack with
  | nil => rfl
  | cons first rest induction =>
      by_cases empty : first = ""
      · subst first
        simpa using induction stack
      · rw [List.filter_cons_of_pos (by simpa using empty), List.foldl_cons, List.foldl_cons]
        exact induction _

theorem foldl_enter_names (path : String) (stack : List String) :
    (names path).foldl (enter true) stack = (segments path).foldl (enter true) stack :=
  foldl_enter_filter_nonempty true (segments path) stack

theorem trail_eq_resolve_names (path : String) : trail path = resolve true (names path) := by
  rw [trail, resolve, resolve, foldl_enter_names]

theorem names_append_slash (left right : String) :
    names (left ++ "/" ++ right) = names left ++ names right := by
  rw [names, segments_append_slash, List.filter_append]
  rfl

theorem names_slash_append (text : String) : names ("/" ++ text) = names text := by
  have split := names_append_slash "" text
  rw [String.empty_append] at split
  exact split

theorem names_slashes (count : Nat) :
    names (String.ofList (List.replicate count '/')) = [] := by
  induction count with
  | zero => rfl
  | succ count induction =>
      have slash : String.ofList (List.replicate (count + 1) '/') =
          "/" ++ String.ofList (List.replicate count '/') := by
        apply String.toList_injective
        simp [List.replicate_succ]
      rw [slash, names_slash_append, induction]

theorem names_slash_end (path : String) : names (path ++ "/") = names path := by
  have split := names_append_slash path ""
  rw [String.append_empty] at split
  exact split.trans (List.append_nil _)

theorem names_append {further : String} (relative : isAbsolute further = false) (path : String) :
    names (append path further) = names path ++ names further := by
  rcases append_cases relative path with ⟨rfl, appended⟩ | ⟨start, rfl | rfl, appended⟩
  · rw [appended]
    rfl
  · rw [appended, names_append_slash, names_slash_end]
  · rw [appended, names_append_slash]

theorem names_rootMark_append (path text : String) :
    names (rootMark path ++ text) = names text := by
  rcases rootMark_cases path with mark | mark | mark
  · rw [mark, String.empty_append]
  · rw [mark, names_slash_append]
  · have double : "//" ++ text = "/" ++ ("/" ++ text) := by
      rw [← String.append_assoc]
      rfl
    rw [mark, double, names_slash_append, names_slash_append]

theorem names_intercalate {names : List String}
    (filled : ∀ name ∈ names, name ≠ "" ∧ '/' ∉ name.toList) :
    Directory.names ("/".intercalate names) = names := by
  cases names with
  | nil => rfl
  | cons first rest =>
      rw [Directory.names, segments_intercalate (fun name member => (filled name member).2)
        (List.cons_ne_nil first rest), List.filter_eq_self]
      intro name member
      simpa using (filled name member).1

theorem names_intercalate_of_ordinary {names : List String}
    (ordinary : ∀ name ∈ names, IsOrdinary name) :
    Directory.names ("/".intercalate names) = names :=
  names_intercalate fun name member =>
    ⟨(ordinary name member).nonempty, (ordinary name member).slashFree⟩

theorem names_normalize {path : String} (rooted : isAbsolute path = true) :
    names (normalize path) = trail path := by
  rw [normalize_of_absolute rooted, names_rootMark_append]
  exact names_intercalate_of_ordinary fun _ member => ordinary_of_mem_trail member

theorem trail_normalize {path : String} (rooted : isAbsolute path = true) :
    trail (normalize path) = trail path := by
  rw [trail_eq_resolve_names, names_normalize rooted]
  exact resolve_ordinary true fun _ member => ordinary_of_mem_trail member

theorem trail_append_append (first second : String) {third : String}
    (relative : isAbsolute third = false) :
    trail (append first (append second third)) = trail (append (append first second) third) := by
  by_cases rooted : isAbsolute second = true
  · rw [append_of_isAbsolute first (isAbsolute_append third rooted),
      append_of_isAbsolute first rooted]
  · have secondRelative : isAbsolute second = false := by simpa using rooted
    have whole := isAbsolute_append_of_relative second relative
    rw [trail_append first (whole.trans secondRelative), trail_append _ relative,
      trail_append first secondRelative, foldl_enter_append true _ second relative,
      List.reverse_reverse]

theorem rootMark_append_append (first second : String) {third : String}
    (relative : isAbsolute third = false) :
    rootMark (append first (append second third)) = rootMark (append first second) := by
  by_cases rooted : isAbsolute second = true
  · rw [append_of_isAbsolute first (isAbsolute_append third rooted),
      append_of_isAbsolute first rooted, rootMark_append second relative]
  · have secondRelative : isAbsolute second = false := by simpa using rooted
    have whole := isAbsolute_append_of_relative second relative
    rw [rootMark_append first (whole.trans secondRelative), rootMark_append first secondRelative]

/-- Normalized texts of absolute paths agree when the paths start alike and lead
to the same place. -/
theorem normalize_eq_normalize {left right : String} (leftRooted : isAbsolute left = true)
    (rightRooted : isAbsolute right = true) (sameMark : rootMark left = rootMark right)
    (sameTrail : trail left = trail right) : normalize left = normalize right := by
  rw [normalize_of_absolute leftRooted, normalize_of_absolute rightRooted, sameMark, sameTrail]

end TypedModules.Directory
