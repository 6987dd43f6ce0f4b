import TypedModules.Proofs.Pattern.Asking
import TypedModules.Proofs.Pattern.Spelling
import TypedModules.Proofs.Text.Joining

/-! # Paths that stand for themselves

A path may hold the characters of patterns, and is then looked up as one. It is found
exactly if it is spelled by its parts, and these ask for its own names.
-/

namespace TypedModules.Pattern

open FileTree Directory

variable {path : String} {shape : PathPattern} {recursive : Bool}

/-- Whether a path, as a pattern, stands for itself: it is spelled by its parts, without
needless slashes, and its names ask for themselves. A path without wildcards has no parts to
look up. -/
def StandsForItself (recursive : Bool) (path : String) : Prop :=
  ∀ shape ∈ PathPattern.ofPath? path,
    path = append shape.start ("/".intercalate shape.names) ∧
      Asks recursive shape.names shape.names

def AcceptsItself (path : String) : Prop :=
  ∀ shape ∈ PathPattern.ofPath? path,
    path = append shape.start ("/".intercalate shape.names) ∧
      ∀ name ∈ shape.names, Wildcard.isPattern name = true → Wildcard.accepts name name = true

instance (path : String) : Decidable (AcceptsItself path) :=
  match cut : PathPattern.ofPath? path with
  | none => isTrue fun shape found => by simp [cut] at found
  | some shape =>
      decidable_of_iff
        (path = append shape.start ("/".intercalate shape.names) ∧
          ∀ name ∈ shape.names, Wildcard.isPattern name = true → Wildcard.accepts name name = true)
        (by simp [AcceptsItself, cut])

/-! ## The parts of a path -/

theorem names_eq_filter {first : String} {rest : List String} (named : first ≠ "")
    (closed : (first :: rest).getLast? ≠ some "") :
    first :: rest.dropLast.filter (· ≠ "") ++ rest.getLast?.toList =
      (first :: rest).filter (· ≠ "") := by
  rcases List.eq_nil_or_concat rest with rfl | ⟨front, last, rfl⟩
  · simp [named]
  · have lastNamed : last ≠ "" := by
      intro empty
      exact closed (by simp [List.concat_eq_append, List.getLast?_cons, empty])
    simp [named, lastNamed]

theorem names_literalStart {literal : List String}
    (slashFree : ∀ segment ∈ literal, '/' ∉ segment.toList) :
    Directory.names (PathPattern.literalStart literal) = literal.filter (· ≠ "") := by
  cases empty : literal.all (· = "") with
  | true =>
      rw [PathPattern.literalStart, if_pos empty, names_slashes, eq_comm, List.filter_eq_nil_iff]
      simpa using empty
  | false =>
      have cut : literal.rdropWhile (· = "") ++ literal.rtakeWhile (· = "") = literal :=
        List.rdropWhile_append_rtakeWhile ..
      have dropped : (literal.rtakeWhile (· = "")).filter (· ≠ "") = [] := by
        rw [List.filter_eq_nil_iff]
        intro segment member
        simpa using List.mem_rtakeWhile_imp member
      rw [Directory.names, Lookup.segments_literalStart slashFree empty]
      conv_rhs => rw [← cut, List.filter_append, dropped, List.append_nil]

theorem getLast?_segments_ne_empty {front : List String} (named : front ≠ [])
    (closed : endsWithSlash path = false) : segments path ≠ front ++ [""] := by
  intro split
  have joined : "/".intercalate (segments path) = path := Text.intercalate_pieces '/' path
  rw [split, Text.intercalate_concat_empty "/" named] at joined
  rw [← joined] at closed
  simp [endsWithSlash] at closed

theorem names_of_ofPath? (cut : PathPattern.ofPath? path = some shape)
    (closed : endsWithSlash path = false) :
    Directory.names path = Directory.names shape.start ++ shape.names ∧
      ∀ name ∈ shape.names, name ≠ "" ∧ '/' ∉ name.toList := by
  rcases Lookup.exists_segments_of_ofPath? cut with
    ⟨literal, first, rest, split, isPattern, start, names⟩
  have slashFree : ∀ segment ∈ literal ++ first :: rest, '/' ∉ segment.toList :=
    fun segment member => slash_notMem_of_mem_segments (split ▸ member)
  have named : first ≠ "" := (isPattern_of_ne_empty isPattern).1
  have last : (first :: rest).getLast? ≠ some "" := by
    intro isLast
    rcases List.getLast?_eq_some_iff.mp isLast with ⟨front, behind⟩
    have filled : literal ++ front ≠ [] := by
      intro none
      rw [(List.append_eq_nil_iff.mp none).2] at behind
      exact named (List.cons.inj behind).1
    refine getLast?_segments_ne_empty filled closed ?_
    rw [split, behind, List.append_assoc]
  rw [names_eq_filter named last] at names
  rw [List.forall_mem_append] at slashFree
  rw [names, start, names_literalStart slashFree.1, Directory.names, split, List.filter_append]
  refine ⟨rfl, fun name member => ?_⟩
  rw [List.mem_filter, decide_eq_true_iff] at member
  exact ⟨member.2, slashFree.2 name member.1⟩

/-! ## Paths without needless slashes -/

theorem eq_nil_of_empty_segment {before behind : List String}
    (closed : endsWithSlash path = false) (single : ¬['/', '/'] <:+: path.toList)
    (split : segments path = before ++ "" :: behind) : before = [] := by
  by_contra named
  cases behind with
  | nil => exact getLast?_segments_ne_empty named closed split
  | cons next others =>
      have joined : "/".intercalate (segments path) = path := Text.intercalate_pieces '/' path
      rw [split, String.intercalate_append_of_ne_nil named (List.cons_ne_nil "" _),
        String.intercalate_cons_cons] at joined
      apply single
      rw [← joined]
      exact ⟨("/".intercalate before).toList, ("/".intercalate (next :: others)).toList, by simp⟩

theorem not_isOpen_of_segments {front : List String} {last : String} (named : last ≠ "")
    (split : segments path = front ++ [last]) : ¬(path = "" ∨ endsWithSlash path = true) := by
  rintro (rfl | slashed)
  · have single : [""] = front ++ [last] := split
    cases front with
    | nil => exact named (List.singleton_inj.mp single).symm
    | cons first others => simp at single
  · rcases eq_append_slash_of_endsWithSlash slashed with ⟨start, rfl⟩
    rw [segments_slash_end] at split
    exact named (List.singleton_inj.mp (List.append_inj_right' split rfl)).symm

theorem exists_literal_of_ofPath? (cut : PathPattern.ofPath? path = some shape)
    (closed : endsWithSlash path = false) (single : ¬['/', '/'] <:+: path.toList) :
    ∃ literal, segments path = literal ++ shape.names ∧
      shape.start = PathPattern.literalStart literal := by
  rcases Lookup.exists_segments_of_ofPath? cut with
    ⟨literal, first, rest, split, isPattern, start, names⟩
  have firstNamed : first ≠ "" := (isPattern_of_ne_empty isPattern).1
  have named : ∀ segment ∈ first :: rest, segment ≠ "" := by
    rintro segment member rfl
    rcases List.append_of_mem member with ⟨between, behind, cutBehind⟩
    rw [cutBehind, ← List.append_assoc] at split
    rw [(List.append_eq_nil_iff.mp (eq_nil_of_empty_segment closed single split)).2] at cutBehind
    exact firstNamed (List.cons.inj cutBehind).1
  have last : (first :: rest).getLast? ≠ some "" :=
    fun isLast => named "" (List.mem_of_getLast? isLast) rfl
  rw [names_eq_filter firstNamed last, List.filter_eq_self.mpr (by simpa using named)] at names
  exact ⟨literal, names ▸ split, start⟩

theorem spelled_of_ofPath? (cut : PathPattern.ofPath? path = some shape)
    (closed : endsWithSlash path = false) (single : ¬['/', '/'] <:+: path.toList) :
    path = append shape.start ("/".intercalate shape.names) := by
  rcases exists_literal_of_ofPath? cut closed single with ⟨literal, split, start⟩
  have named := Lookup.names_ne_nil_of_ofPath? cut
  have relative := isAbsolute_intercalate (names_of_ofPath? cut closed).2
  have joined : "/".intercalate (literal ++ shape.names) = path :=
    split ▸ Text.intercalate_pieces '/' path
  rw [start]
  rcases List.eq_nil_or_concat' literal with rfl | ⟨front, last, rfl⟩
  · exact joined.symm.trans (append_empty_left _).symm
  · have leading : "/".intercalate (front ++ [last] ++ shape.names) =
        "/".intercalate (front ++ [last]) ++ "/" ++ "/".intercalate shape.names :=
      String.intercalate_append_of_ne_nil (by simp) named
    rw [append_of_relative relative, ← joined, leading]
    by_cases empty : last = ""
    · -- Only the slash at the start has nothing in front of it.
      rw [empty, List.append_assoc] at split
      rw [empty, eq_nil_of_empty_segment closed single split]
      have root : append (PathPattern.literalStart [""]) "" = "/" := by decide
      rw [List.nil_append, root, String.intercalate_singleton, String.empty_append]
    · have slashFree : ∀ segment ∈ front ++ [last], '/' ∉ segment.toList := fun segment member =>
        slash_notMem_of_mem_segments (split ▸ List.mem_append_left _ member)
      have cutStart := segments_intercalate slashFree (by simp)
      rw [Lookup.literalStart_of_getLast (by simp) (by simpa using empty),
        append_empty_of_not_isOpen (not_isOpen_of_segments empty cutStart)]

/-! ## Files -/

theorem closed_of_file {tree : FileTree} {content : ByteArray}
    (isFile : tree.find? path = some (.file content)) :
    ¬(path = "" ∨ endsWithSlash path = true) := by
  rcases find?_eq_some_iff.mp isFile with ⟨place, located, stands⟩
  rcases locate_eq_ok_iff.mp located with ⟨nonempty, -, leads⟩
  rw [not_or]
  refine ⟨nonempty, fun slashed => ?_⟩
  rcases eq_append_slash_of_endsWithSlash slashed with ⟨start, rfl⟩
  rw [segments_slash_end, follow_append] at leads
  cases reached : tree.follow [] (segments start) with
  | error fault =>
      rw [reached] at leads
      cases leads
  | ok location =>
      rw [reached] at leads
      have isDirectory := isDirectory_of_follow (List.cons_ne_nil "" []) leads
      have stays := leads.symm.trans (follow_of_forall_empty isDirectory (by decide))
      rw [Except.ok.inj stays, isDirectory] at stands
      cases stands

/-- A path of a file is found by itself exactly if it stands for itself. -/
theorem mem_expand_self_iff (lookup : Lookup) {content : ByteArray}
    (isFile : lookup.tree.find? path = some (.file content)) :
    path ∈ lookup.expand path ↔ StandsForItself lookup.recursive path := by
  have closed := closed_of_file isFile
  have leads : lookup.tree.leadsToEntry path := leadsToEntry_iff.mpr ⟨_, isFile⟩
  have unslashed : endsWithSlash path = false := by simpa using (not_or.mp closed).2
  rcases find?_eq_some_iff.mp isFile with ⟨location, located, -⟩
  have followed := (locate_eq_ok_iff.mp located).2.1
  rw [Lookup.expand]
  split
  · rename_i literal
    have somewhere : lookup.leadsSomewhere path = true := by
      rw [Lookup.leadsSomewhere, unslashed, if_neg Bool.false_ne_true]
      exact leads
    rw [if_pos somewhere]
    refine iff_of_true (List.mem_singleton_self path) fun shape cut => ?_
    rw [literal] at cut
    cases cut
  · rename_i shape cut
    rcases names_of_ofPath? cut unslashed with ⟨split, filled⟩
    have named := Lookup.names_ne_nil_of_ofPath? cut
    have stands : StandsForItself lookup.recursive path ↔
        path = append shape.start ("/".intercalate shape.names) ∧
          Asks lookup.recursive shape.names shape.names := by
      rw [StandsForItself, cut]
      simp
    rw [stands, List.mem_filter, Lookup.mem_paths_iff_asks closed followed named filled]
    constructor
    · rintro ⟨⟨-, steps, asks, spelled⟩, -⟩
      -- The path has just the names that it is found by.
      have stepsFilled := asks.filled filled
      have found := names_append (isAbsolute_intercalate stepsFilled) shape.start
      rw [← spelled, split, names_intercalate stepsFilled, List.append_cancel_left_eq] at found
      rw [found]
      exact ⟨spelled, found ▸ asks⟩
    · rintro ⟨spelled, asks⟩
      exact ⟨⟨leads, shape.names, asks, spelled⟩, by simpa using (not_or.mp closed).1⟩

/-! ## Names that ask for themselves -/

theorem forall₂_of_asks {names steps : List String} (asks : Asks false names steps) :
    List.Forall₂ (fun name step => Wildcard.isPattern name = true →
      Wildcard.accepts name step = true) names steps := by
  induction asks with
  | nil => exact .nil
  | literal isLiteral others induction =>
      exact .cons (fun isPattern => absurd isPattern (by simp [isLiteral])) induction
  | wildcard isPattern single ordinary shown accepted others induction =>
      exact .cons (fun _ => accepted) induction
  | stars deep => cases deep

theorem asks_self {names : List String} (slashFree : ∀ name ∈ names, '/' ∉ name.toList)
    (accepted : ∀ name ∈ names, Wildcard.isPattern name = true →
      Wildcard.accepts name name = true) :
    Asks recursive names names := by
  induction names with
  | nil => exact .nil
  | cons name rest induction =>
      rw [List.forall_mem_cons] at slashFree accepted
      have others := induction slashFree.2 accepted.2
      cases isPattern : Wildcard.isPattern name with
      | false => exact .literal isPattern others
      | true =>
          have ordinary : IsOrdinary name := by
            refine ⟨(isPattern_of_ne_empty isPattern).1, ?_, (isPattern_of_ne_empty isPattern).2,
              slashFree.1⟩
            rintro rfl
            cases isPattern
          cases stars : (recursive && name = "**" : Bool) with
          | true =>
              rw [Bool.and_eq_true, decide_eq_true_iff] at stars
              rw [stars.2] at ordinary ⊢
              have skipped : ∀ step ∈ ["**"], IsOrdinary step := by simpa using ordinary
              exact .stars stars.1 skipped (by decide) (by simp) others
          | false =>
              exact .wildcard isPattern stars ordinary (by cases isHidden name <;> simp)
                (accepted.1 isPattern) others

theorem matchAll_ofPattern_self {text : List Char} (bracketFree : '[' ∉ text) :
    Wildcard.matchAll (Wildcard.ofPattern text) text = true := by
  fun_induction Wildcard.ofPattern text with
  | case1 => rfl
  | case2 rest induction =>
      have here : rest ∈ Wildcard.remainders ('*' :: rest) := by
        rw [Wildcard.remainders, Wildcard.remainders_eq_cons rest]
        exact List.mem_cons_of_mem _ List.mem_cons_self
      rw [Wildcard.matchAll, List.any_eq_true]
      exact ⟨rest, here, induction (mt (List.mem_cons_of_mem _) bracketFree)⟩
  | case3 rest induction =>
      rw [Wildcard.matchAll, induction (mt (List.mem_cons_of_mem _) bracketFree)]
      rfl
  | case4 => simp at bracketFree
  | case5 => simp at bracketFree
  | case6 rest character _ _ _ induction =>
      simp [Wildcard.matchAll, induction (mt (List.mem_cons_of_mem _) bracketFree)]

theorem slash_notMem_of_ofPath? (cut : PathPattern.ofPath? path = some shape) :
    ∀ name ∈ shape.names, '/' ∉ name.toList := by
  rcases Lookup.exists_segments_of_ofPath? cut with ⟨literal, first, rest, split, -, -, names⟩
  intro name member
  rw [names] at member
  have isSegment : name ∈ segments path := split ▸ List.mem_append_right _ (mem_of_mem_names member)
  exact slash_notMem_of_mem_segments isSegment

theorem AcceptsItself.standsForItself (accepts : AcceptsItself path) :
    StandsForItself recursive path := by
  intro shape cut
  rcases accepts shape cut with ⟨spelled, accepted⟩
  exact ⟨spelled, asks_self (slash_notMem_of_ofPath? cut) accepted⟩

theorem StandsForItself.acceptsItself (stands : StandsForItself false path) :
    AcceptsItself path := by
  intro shape cut
  rcases stands shape cut with ⟨spelled, asks⟩
  exact ⟨spelled, List.forall₂_same.mp (forall₂_of_asks asks)⟩

/-- Only brackets and needless slashes keep the path of a file from standing for itself. -/
theorem standsForItself_of_bracketFree (closed : endsWithSlash path = false)
    (single : ¬['/', '/'] <:+: path.toList) (bracketFree : '[' ∉ path.toList) :
    StandsForItself recursive path := by
  refine AcceptsItself.standsForItself fun shape cut => ?_
  refine ⟨spelled_of_ofPath? cut closed single, fun name member _ => ?_⟩
  rcases exists_literal_of_ofPath? cut closed single with ⟨literal, split, -⟩
  have isSegment : name ∈ segments path := split ▸ List.mem_append_right _ member
  have nameFree : '[' ∉ name.toList :=
    fun bracket => bracketFree (Text.mem_of_mem_pieces isSegment bracket)
  rw [Wildcard.accepts_eq_matchAll]
  exact matchAll_ofPattern_self nameFree

theorem standsForItself_of_not_isPattern (literal : Wildcard.isPattern path = false) :
    StandsForItself recursive path := by
  intro shape cut
  rw [ofPath?_of_forall_not_isPattern] at cut
  · cases cut
  · intro segment isSegment
    rw [Wildcard.isPattern, List.any_eq_false] at literal ⊢
    exact fun character inSegment => literal character (Text.mem_of_mem_pieces isSegment inSegment)

end TypedModules.Pattern
