import TypedModules.Pattern.CharacterSet

/-! # Wildcards

In a pattern for names, a star stands for any characters, a question mark for
one character, and brackets for one character of a set. Everything else stands
for itself, and so does a bracket that is not closed.
-/

namespace TypedModules.Pattern

inductive Wildcard where
  | anyText
  | one (set : CharacterSet)
  | literal (character : Char)
  deriving DecidableEq

namespace Wildcard

/-- The number of characters behind an opening bracket that can not close it: an
exclamation mark, and a closing bracket that comes first. -/
def unclosing (text : List Char) : Nat :=
  let mark := if text.head? = some '!' then 1 else 0
  if (text.drop mark).head? = some ']' then mark + 1 else mark

def bracketed? (text : List Char) : Option (List Char × List Char) :=
  let first := unclosing text
  match (text.drop first).dropWhile (· ≠ ']') with
  | [] => none
  | _ :: rest => some (text.take first ++ (text.drop first).takeWhile (· ≠ ']'), rest)

theorem length_of_bracketed? {text content rest : List Char}
    (found : bracketed? text = some (content, rest)) : rest.length < text.length := by
  unfold bracketed? at found
  simp only at found
  split at found
  · simp at found
  · rename_i closing tail cut
    have shorter :=
      (List.dropWhile_sublist (· ≠ ']') :
        List.Sublist _ (text.drop (unclosing text))).length_le
    rw [cut] at shorter
    simp only [Option.some.injEq, Prod.mk.injEq] at found
    rw [← found.2]
    simp only [List.length_cons, List.length_drop] at shorter
    omega

def ofPattern : List Char → List Wildcard
  | [] => []
  | '*' :: rest => anyText :: ofPattern rest
  | '?' :: rest => one .anything :: ofPattern rest
  | '[' :: rest =>
      match _found : bracketed? rest with
      | some (content, after) => one (.ofContent content) :: ofPattern after
      | none => literal '[' :: ofPattern rest
  | character :: rest => literal character :: ofPattern rest
termination_by pattern => pattern.length
decreasing_by
  all_goals simp only [List.length_cons]
  all_goals first
    | omega
    | have shorter := length_of_bracketed? _found
      omega

def remainders : List Char → List (List Char)
  | [] => [[]]
  | character :: rest => (character :: rest) :: remainders rest

def matchAll : List Wildcard → List Char → Bool
  | [], text => text.isEmpty
  | anyText :: rest, text => (remainders text).any (matchAll rest)
  | one set :: rest, character :: text => set.contains character && matchAll rest text
  | literal expected :: rest, character :: text => expected = character && matchAll rest text
  | _, [] => false

def anyLater : List Bool → List Bool
  | [] => []
  | here :: later =>
      match anyLater later with
      | [] => [here]
      | next :: rest => (here || next) :: next :: rest

def answersBefore (text : List Char) (wildcard : Wildcard) (answers : List Bool) : List Bool :=
  match wildcard with
  | anyText => anyLater answers
  | one set =>
      List.zipWith (fun character answer => set.contains character && answer) text answers.tail ++
        [false]
  | literal expected =>
      List.zipWith (fun character answer => expected = character && answer) text answers.tail ++
        [false]

/-- For every remainder of a text, whether it is what the wildcards ask for. Each
wildcard is looked at once for every remainder, however many stars there are. -/
def answers (wildcards : List Wildcard) (text : List Char) : List Bool :=
  wildcards.foldr (answersBefore text) ((remainders text).map List.isEmpty)

/-- Whether a pattern holds anything but literal characters. An open bracket
counts even if it is not closed. -/
def isPattern (text : String) : Bool :=
  text.toList.any fun character => character ∈ ['*', '?', '[']

def accepts (pattern name : String) : Bool :=
  (answers (ofPattern pattern.toList) name.toList).head? = some true

theorem remainders_eq_cons (text : List Char) :
    remainders text = text :: (remainders text).tail := by
  cases text <;> rfl

theorem anyLater_map (property : List Char → Bool) (text : List Char) :
    anyLater ((remainders text).map property) =
      (remainders text).map fun remainder => (remainders remainder).any property := by
  induction text with
  | nil => simp [remainders, anyLater]
  | cons character rest induction =>
      rw [remainders, List.map_cons, List.map_cons, anyLater, induction,
        remainders_eq_cons rest, List.map_cons]
      simp [remainders]

private theorem zipWith_remainders (test : Char → Bool) (property : List Char → Bool)
    (text : List Char) :
    List.zipWith (fun character answer => test character && answer) text
        ((remainders text).map property).tail ++ [false] =
      (remainders text).map fun
        | [] => false
        | character :: rest => test character && property rest := by
  induction text with
  | nil => simp [remainders]
  | cons character rest induction =>
      rw [remainders, List.map_cons, List.map_cons, List.tail_cons, ← induction,
        remainders_eq_cons rest, List.map_cons, List.zipWith_cons_cons, List.tail_cons,
        List.cons_append]

theorem answers_eq_map (wildcards : List Wildcard) (text : List Char) :
    answers wildcards text = (remainders text).map (matchAll wildcards) := by
  induction wildcards with
  | nil =>
      rw [answers, List.foldr_nil]
      exact List.map_congr_left fun remainder _ => by rw [matchAll]
  | cons wildcard rest induction =>
      rw [answers] at induction ⊢
      rw [List.foldr_cons, induction]
      cases wildcard with
      | anyText =>
          rw [answersBefore, anyLater_map]
          exact List.map_congr_left fun remainder _ => by rw [matchAll]
      | one set =>
          rw [answersBefore, zipWith_remainders]
          exact List.map_congr_left fun remainder _ => by cases remainder <;> rw [matchAll] <;> simp
      | literal expected =>
          rw [answersBefore, zipWith_remainders]
          exact List.map_congr_left fun remainder _ => by cases remainder <;> rw [matchAll] <;> simp

/-- A name is accepted if its characters are what the wildcards ask for. -/
theorem accepts_eq_matchAll (pattern name : String) :
    accepts pattern name = matchAll (ofPattern pattern.toList) name.toList := by
  rw [accepts, answers_eq_map, remainders_eq_cons, List.map_cons, List.head?_cons]
  simp

theorem matchAll_literal (expected text : List Char) :
    matchAll (expected.map literal) text = true ↔ text = expected := by
  induction expected generalizing text with
  | nil => cases text <;> simp [matchAll]
  | cons first rest induction =>
      cases text with
      | nil => simp [matchAll]
      | cons character text =>
          simp only [List.map_cons, matchAll, Bool.and_eq_true, decide_eq_true_eq, induction,
            List.cons.injEq]
          exact and_congr_left fun _ => eq_comm

end Wildcard

end TypedModules.Pattern
