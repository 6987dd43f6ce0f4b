import TypedModules.Library.ClassHeader
import TypedModules.Proofs.Text.Lines

/-! # Comments between declarations

A scan for comments starts afresh behind a line feed, unless it stands in a block
comment. So the parts of a text that are separated by line feeds are read one by one,
and a part that is a comment declares nothing.
-/

namespace TypedModules.Library

/-! ## Scans over line feeds -/

def CommentScan.behindLineFeed : CommentScan → CommentScan
  | .lineComment => .code
  | state => state

theorem append_ne_cons {first next : Char} {rest after : List Char} (different : first ≠ next)
    (apart : ∀ tail, rest ≠ next :: tail) :
    ∀ tail, rest ++ first :: after ≠ next :: tail := by
  intro tail same
  cases rest with
  | nil => exact different (List.cons.inj same).1
  | cons second others => exact apart others (by rw [(List.cons.inj same).1])

theorem scan_append_cons (state : CommentScan) (before : List Char) {next : Char}
    (noSlash : next ≠ '/') (noStar : next ≠ '*') (after : List Char) :
    withoutComments state (before ++ next :: after) =
        withoutComments state before ++ withoutComments (scanEnd state before) (next :: after) ∧
      scanEnd state (before ++ next :: after) = scanEnd (scanEnd state before) (next :: after) := by
  fun_induction withoutComments state before with
  | case1 rest induction => simpa [withoutComments, scanEnd] using induction
  | case2 rest induction => simpa [withoutComments, scanEnd] using induction
  | case3 character rest noBlock noLine induction =>
      have stillNoBlock : ∀ tail, character = '/' → rest ++ next :: after ≠ '*' :: tail :=
        fun tail slash => append_ne_cons noStar (fun tail => noBlock tail slash) tail
      have stillNoLine : ∀ tail, character = '/' → rest ++ next :: after ≠ '/' :: tail :=
        fun tail slash => append_ne_cons noSlash (fun tail => noLine tail slash) tail
      rw [List.cons_append, withoutComments, scanEnd, scanEnd, induction.1, induction.2]
      · exact ⟨rfl, rfl⟩
      all_goals assumption
  | case4 rest induction => simpa [withoutComments, scanEnd] using induction
  | case5 character rest notFeed induction =>
      rw [List.cons_append, withoutComments, scanEnd, scanEnd, induction.1, induction.2]
      · exact ⟨rfl, rfl⟩
      all_goals exact notFeed
  | case6 rest induction => simpa [withoutComments, scanEnd] using induction
  | case7 rest induction => simpa [withoutComments, scanEnd] using induction
  | case8 character rest unended notFeed induction =>
      have stillUnended : ∀ tail, character = '*' → rest ++ next :: after ≠ '/' :: tail :=
        fun tail star => append_ne_cons noSlash (fun tail => unended tail star) tail
      rw [List.cons_append, withoutComments, scanEnd, scanEnd, induction.1, induction.2]
      · exact ⟨rfl, rfl⟩
      all_goals assumption
  | case9 state => cases state <;> exact ⟨rfl, rfl⟩

theorem withoutComments_append_lineFeed (state : CommentScan) (before after : List Char) :
    withoutComments state (before ++ '\n' :: after) =
      withoutComments state before ++
        '\n' :: withoutComments (scanEnd state before).behindLineFeed after := by
  rw [(scan_append_cons state before (by decide) (by decide) after).1]
  cases scanEnd state before <;> simp [withoutComments, CommentScan.behindLineFeed]

theorem withoutComments_sublist (state : CommentScan) (text : List Char) :
    (withoutComments state text).Sublist text := by
  fun_induction withoutComments state text with
  | case1 rest induction | case2 rest induction | case6 rest induction =>
      exact (induction.cons _).cons _
  | case3 character rest _ _ induction => exact induction.cons_cons character
  | case4 rest induction | case7 rest induction => exact induction.cons_cons '\n'
  | case5 character rest _ induction => exact induction.cons character
  | case8 character rest _ _ induction => exact induction.cons character
  | case9 => exact List.Sublist.refl []

/-! ## Text without comments -/

def IsUncommented (text : List Char) : Prop :=
  ¬['/', '*'] <:+: text ∧ ¬['/', '/'] <:+: text

instance (text : List Char) : Decidable (IsUncommented text) :=
  inferInstanceAs (Decidable (_ ∧ _))

theorem IsUncommented.scan {text : List Char} (uncommented : IsUncommented text) :
    withoutComments .code text = text ∧ scanEnd .code text = .code := by
  induction text with
  | nil => decide
  | cons character rest induction =>
      have restUncommented : IsUncommented rest :=
        ⟨fun within => uncommented.1 (within.trans (List.suffix_cons character rest).isInfix),
          fun within => uncommented.2 (within.trans (List.suffix_cons character rest).isInfix)⟩
      have noBlock : ∀ tail, character = '/' → rest ≠ '*' :: tail := by
        rintro tail rfl rfl
        exact uncommented.1 ⟨[], tail, rfl⟩
      have noLine : ∀ tail, character = '/' → rest ≠ '/' :: tail := by
        rintro tail rfl rfl
        exact uncommented.2 ⟨[], tail, rfl⟩
      rw [withoutComments, scanEnd, (induction restUncommented).1, (induction restUncommented).2]
      · exact ⟨rfl, rfl⟩
      all_goals assumption

theorem scan_append_of_slashFree {before : List Char} (slashFree : '/' ∉ before)
    (after : List Char) :
    withoutComments .code (before ++ after) = before ++ withoutComments .code after ∧
      scanEnd .code (before ++ after) = scanEnd .code after := by
  induction before with
  | nil => exact ⟨rfl, rfl⟩
  | cons character rest induction =>
      rw [List.mem_cons, not_or] at slashFree
      have noSlash : ∀ {next : Char} (tail : List Char), character = '/' →
          rest ++ after ≠ next :: tail :=
        fun _ slash => absurd slash.symm slashFree.1
      rw [List.cons_append, withoutComments, scanEnd, (induction slashFree.2).1,
        (induction slashFree.2).2]
      · exact ⟨rfl, rfl⟩
      all_goals exact noSlash

/-! ## Comments by themselves -/

/-- Of a block comment that has not ended, the line feeds are kept, and the scan stays
in it. With its end, nothing is added. -/
theorem withoutComments_blockComment {text : List Char} (unended : ¬['*', '/'] <:+: text) :
    withoutComments .blockComment text = text.filter (· = '\n') ∧
      scanEnd .blockComment text = .blockComment ∧
      withoutComments .blockComment (text ++ ['*', '/']) = text.filter (· = '\n') ∧
      scanEnd .blockComment (text ++ ['*', '/']) = .code := by
  induction text with
  | nil => decide
  | cons character rest induction =>
      have restUnended : ¬['*', '/'] <:+: rest := fun within =>
        unended (within.trans (List.suffix_cons character rest).isInfix)
      have noEnd : ∀ tail, character = '*' → rest ≠ '/' :: tail := by
        rintro tail rfl rfl
        exact unended ⟨[], tail, rfl⟩
      have stillNoEnd : ∀ tail, character = '*' → rest ++ ['*', '/'] ≠ '/' :: tail :=
        fun tail star => append_ne_cons (by decide) (fun tail => noEnd tail star) tail
      rcases induction restUnended with ⟨kept, stays, keptToEnd, ends⟩
      rw [List.cons_append, scanEnd, scanEnd, stays, ends]
      · by_cases feed : character = '\n'
        · subst feed
          simp [withoutComments, kept, keptToEnd]
        · rw [withoutComments, withoutComments, kept, keptToEnd, List.filter_cons_of_neg (by simpa)]
          · exact ⟨rfl, rfl, rfl, rfl⟩
          all_goals assumption
      all_goals assumption

theorem withoutComments_lineComment {text : List Char} (oneLine : '\n' ∉ text) :
    withoutComments .lineComment text = [] ∧ scanEnd .lineComment text = .lineComment := by
  induction text with
  | nil => decide
  | cons character rest induction =>
      rw [List.mem_cons, not_or] at oneLine
      rw [withoutComments, scanEnd]
      · exact induction oneLine.2
      all_goals exact Ne.symm oneLine.1

/-! ## Declarations -/

theorem eq_nil_of_mem_lines {text line : List Char} (empty : ∀ character ∈ text, character = '\n')
    (isLine : line ∈ Text.lines text) : line = [] := by
  induction text with
  | nil => simpa [Text.lines] using isLine
  | cons first rest induction =>
      rw [List.forall_mem_cons] at empty
      rw [empty.1, ← List.nil_append ('\n' :: rest), Text.lines_append_cons _ _ (by decide),
        List.mem_append] at isLine
      rcases isLine with isFirst | isOther
      · simpa [Text.lines] using isFirst
      · exact induction empty.2 isOther

theorem declaredClasses_eq_nil {contents : String}
    (empty : ∀ character ∈ withoutComments .code contents.toList, character = '\n') :
    declaredClasses contents = [] := by
  rw [declaredClasses, List.map_eq_nil_iff, List.filterMap_eq_nil_iff]
  intro line isLine
  rw [eq_nil_of_mem_lines empty isLine]
  decide

theorem declaredClasses_of_unbroken {contents : String}
    (unbroken : ∀ character ∈ withoutComments .code contents.toList,
      Text.isLineBreak character = false) :
    declaredClasses contents =
      ((declaredClass? (withoutComments .code contents.toList)).map String.ofList).toList := by
  rw [declaredClasses, Text.lines, List.splitOnP_eq_singleton unbroken]
  cases found : declaredClass? (withoutComments .code contents.toList) <;> simp [found]

/-- What is declared before a line feed is read by itself, and so is what follows, if
the line feed does not stand in a comment. -/
theorem declaredClasses_append {before : String} (closed : IsClosed before.toList)
    (after : String) :
    declaredClasses (before ++ "\n" ++ after) =
      declaredClasses before ++ declaredClasses after := by
  have startsAfresh : (scanEnd .code before.toList).behindLineFeed = .code := by
    cases state : scanEnd .code before.toList with
    | code => rfl
    | lineComment => rfl
    | blockComment => exact absurd state closed
  have cut : (before ++ "\n" ++ after).toList = before.toList ++ '\n' :: after.toList := by simp
  rw [declaredClasses, cut, withoutComments_append_lineFeed, startsAfresh,
    Text.lines_append_cons _ _ (by decide), List.filterMap_append, List.map_append]
  rfl

theorem declaredClasses_append_of_open {before : String} (isOpen : ¬IsClosed before.toList)
    {after : String} (unended : ¬['*', '/'] <:+: after.toList) :
    declaredClasses (before ++ "\n" ++ after) = declaredClasses before := by
  have inComment : (scanEnd .code before.toList).behindLineFeed = .blockComment := by
    rw [Classical.not_not.mp isOpen]
    rfl
  have cut : (before ++ "\n" ++ after).toList = before.toList ++ '\n' :: after.toList := by simp
  have undeclared :
      (Text.lines (after.toList.filter (· = '\n'))).filterMap declaredClass? = [] := by
    rw [List.filterMap_eq_nil_iff]
    intro line isLine
    rw [eq_nil_of_mem_lines (by simp) isLine]
    decide
  rw [declaredClasses, cut, withoutComments_append_lineFeed, inComment,
    (withoutComments_blockComment unended).1, Text.lines_append_cons _ _ (by decide),
    List.filterMap_append, undeclared, List.append_nil]
  rfl

theorem declaredClasses_ofLines {lines : List String}
    (closed : ∀ line ∈ lines, IsClosed line.toList) :
    declaredClasses (Text.ofLines lines) = lines.flatMap declaredClasses := by
  induction lines with
  | nil => decide
  | cons first rest induction =>
      rw [List.forall_mem_cons] at closed
      cases rest with
      | nil => simp [Text.ofLines]
      | cons second others =>
          have inFront : Text.ofLines (first :: second :: others) =
              first ++ "\n" ++ Text.ofLines (second :: others) := by
            simp [Text.ofLines]
          rw [List.flatMap_cons, inFront, declaredClasses_append closed.1, induction closed.2]

theorem declaredClasses_ofLines_lineFeed {lines : List String}
    (closed : ∀ line ∈ lines, IsClosed line.toList) :
    declaredClasses (Text.ofLines lines ++ "\n") = lines.flatMap declaredClasses := by
  have emptyClosed : IsClosed "".toList := by decide
  have emptyDeclares : declaredClasses "" = [] := by decide
  by_cases none : lines = []
  · rw [none]
    decide
  · have concat : Text.ofLines (lines ++ [""]) = Text.ofLines lines ++ "\n" :=
      Text.intercalate_concat_empty "\n" none
    rw [← concat,
      declaredClasses_ofLines (by simpa [or_imp, forall_and] using ⟨closed, emptyClosed⟩)]
    simp [emptyDeclares]

theorem declaredClasses_append_of_empty {before comment : String} (closed : IsClosed before.toList)
    (commentClosed : IsClosed comment.toList) (empty : declaredClasses comment = [])
    (after : String) :
    declaredClasses (before ++ "\n" ++ comment ++ "\n" ++ after) =
      declaredClasses before ++ declaredClasses after := by
  have regrouped : before ++ "\n" ++ comment ++ "\n" ++ after =
      before ++ "\n" ++ (comment ++ "\n" ++ after) := by
    simp only [String.append_assoc]
  rw [regrouped, declaredClasses_append closed, declaredClasses_append commentClosed, empty,
    List.nil_append]

section Comment

variable {text : String}

theorem toList_blockComment (text : String) :
    ("/*" ++ text ++ "*/").toList = '/' :: '*' :: (text.toList ++ ['*', '/']) := by simp

theorem toList_openComment (text : String) :
    ("/*" ++ text).toList = '/' :: '*' :: text.toList := by simp

theorem toList_lineComment (text : String) :
    ("//" ++ text).toList = '/' :: '/' :: text.toList := by simp

theorem isClosed_blockComment (unended : ¬['*', '/'] <:+: text.toList) :
    IsClosed ("/*" ++ text ++ "*/").toList := by
  rw [IsClosed, toList_blockComment, scanEnd_startBlock,
    (withoutComments_blockComment unended).2.2.2]
  decide

theorem declaredClasses_blockComment (unended : ¬['*', '/'] <:+: text.toList) :
    declaredClasses ("/*" ++ text ++ "*/") = [] := by
  apply declaredClasses_eq_nil
  rw [toList_blockComment, withoutComments_startBlock, (withoutComments_blockComment unended).2.2.1]
  simp

theorem declaredClasses_openComment (unended : ¬['*', '/'] <:+: text.toList) :
    declaredClasses ("/*" ++ text) = [] := by
  apply declaredClasses_eq_nil
  rw [toList_openComment, withoutComments_startBlock, (withoutComments_blockComment unended).1]
  simp

theorem isClosed_lineComment (oneLine : '\n' ∉ text.toList) : IsClosed ("//" ++ text).toList := by
  rw [IsClosed, toList_lineComment, scanEnd_startLine, (withoutComments_lineComment oneLine).2]
  decide

theorem declaredClasses_lineComment (oneLine : '\n' ∉ text.toList) :
    declaredClasses ("//" ++ text) = [] := by
  apply declaredClasses_eq_nil
  rw [toList_lineComment, withoutComments_startLine, (withoutComments_lineComment oneLine).1]
  simp

end Comment

/-- Behind a closed text, what follows on further lines is read by itself, with or
without a comment in between, and a comment at the end declares nothing. -/
theorem declaredClasses_around_comments {before : String} (closed : IsClosed before.toList) :
    (∀ after, declaredClasses (before ++ "\n" ++ after) =
        declaredClasses before ++ declaredClasses after) ∧
      (∀ text : String, ¬['*', '/'] <:+: text.toList →
        (∀ after, declaredClasses (before ++ "\n" ++ ("/*" ++ text ++ "*/") ++ "\n" ++ after) =
            declaredClasses before ++ declaredClasses after) ∧
          declaredClasses (before ++ "\n" ++ ("/*" ++ text)) = declaredClasses before) ∧
      ∀ text : String, '\n' ∉ text.toList →
        ∀ after, declaredClasses (before ++ "\n" ++ ("//" ++ text) ++ "\n" ++ after) =
          declaredClasses before ++ declaredClasses after := by
  refine ⟨declaredClasses_append closed, fun text unended => ⟨?_, ?_⟩, fun text oneLine => ?_⟩
  · exact declaredClasses_append_of_empty closed (isClosed_blockComment unended)
      (declaredClasses_blockComment unended)
  · rw [declaredClasses_append closed, declaredClasses_openComment unended, List.append_nil]
  · exact declaredClasses_append_of_empty closed (isClosed_lineComment oneLine)
      (declaredClasses_lineComment oneLine)

/-- A line comment that looks like the start of a block comment hides nothing, and
neither does a block comment with a slash in front of its end. -/
theorem declaredClasses_around_comments_of_nested :
    let before := "export class A {} // /*"
    let text := "/ export class X {} // *"
    let after := "export class B {}"
    IsClosed before.toList ∧ ¬['*', '/'] <:+: text.toList ∧ '\n' ∉ text.toList ∧
      declaredClasses (before ++ "\n" ++ after) = ["A", "B"] ∧
      declaredClasses (before ++ "\n" ++ ("/*" ++ text ++ "*/") ++ "\n" ++ after) = ["A", "B"] ∧
      declaredClasses (before ++ "\n" ++ ("/*" ++ text)) = ["A"] ∧
      declaredClasses (before ++ "\n" ++ ("//" ++ text) ++ "\n" ++ after) = ["A", "B"] := by
  intro before text after
  have ofParts : IsClosed before.toList ∧ ¬['*', '/'] <:+: text.toList ∧ '\n' ∉ text.toList ∧
      declaredClasses before = ["A"] ∧ declaredClasses after = ["B"] := by
    decide +kernel
  rcases ofParts with ⟨closed, unended, oneLine, first, second⟩
  rcases declaredClasses_around_comments closed with ⟨inRow, ofBlock, ofLine⟩
  rcases ofBlock text unended with ⟨aroundBlock, withOpen⟩
  rw [inRow, aroundBlock, withOpen, ofLine text oneLine, first, second]
  exact ⟨closed, unended, oneLine, rfl, rfl, rfl, rfl⟩

end TypedModules.Library
