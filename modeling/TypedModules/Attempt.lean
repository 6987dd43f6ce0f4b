/-! # Operations that may be refused

An operation leaves a state behind whether it succeeds or is refused. A single
step that is refused leaves the state as it was. A run of steps ends at the
first one that is refused and keeps the effect of those before it.
-/

namespace TypedModules

/-- The state that an operation leaves behind, and what it answers. -/
structure Attempt (Fault State Answer : Type) where
  state : State
  answer : Except Fault Answer

namespace Attempt

variable {Fault State Step Answer : Type}

def ofExcept (before : State) : Except Fault State → Attempt Fault State Unit
  | .ok after => ⟨after, .ok ()⟩
  | .error fault => ⟨before, .error fault⟩

def runAll (step : State → Step → Except Fault State) (state : State) :
    List Step → Attempt Fault State Unit
  | [] => ⟨state, .ok ()⟩
  | next :: rest =>
      match step state next with
      | .ok after => runAll step after rest
      | .error fault => ⟨state, .error fault⟩

def map {Other : Type} (transform : Answer → Other) (attempt : Attempt Fault State Answer) :
    Attempt Fault State Other :=
  ⟨attempt.state, attempt.answer.map transform⟩

def mapFault {Other : Type} (transform : Fault → Other) (attempt : Attempt Fault State Answer) :
    Attempt Other State Answer :=
  ⟨attempt.state, attempt.answer.mapError transform⟩

def embed {Whole : Type} (replace : State → Whole) (attempt : Attempt Fault State Answer) :
    Attempt Fault Whole Answer :=
  ⟨replace attempt.state, attempt.answer⟩

theorem state_ofExcept_of_error (before : State) {result : Except Fault State} {fault : Fault}
    (refused : (ofExcept before result).answer = .error fault) :
    (ofExcept before result).state = before := by
  cases result with
  | ok after => simp [ofExcept] at refused
  | error reason => rfl

@[simp]
theorem runAll_nil (step : State → Step → Except Fault State) (state : State) :
    runAll step state [] = ⟨state, .ok ()⟩ := rfl

theorem runAll_cons_of_ok {step : State → Step → Except Fault State} {state after : State}
    {next : Step} (rest : List Step) (accepted : step state next = .ok after) :
    runAll step state (next :: rest) = runAll step after rest := by
  simp [runAll, accepted]

theorem runAll_cons_of_error {step : State → Step → Except Fault State} {state : State}
    {next : Step} {fault : Fault} (rest : List Step) (refused : step state next = .error fault) :
    runAll step state (next :: rest) = ⟨state, .error fault⟩ := by
  simp [runAll, refused]

theorem runAll_append_of_ok {step : State → Step → Except Fault State} {state after : State}
    {first : List Step} (second : List Step)
    (accepted : runAll step state first = ⟨after, .ok ()⟩) :
    runAll step state (first ++ second) = runAll step after second := by
  induction first generalizing state with
  | nil =>
      simp only [runAll_nil, Attempt.mk.injEq, and_true] at accepted
      simp [accepted]
  | cons next rest induction =>
      rw [List.cons_append]
      cases outcome : step state next with
      | ok middle =>
          rw [runAll_cons_of_ok _ outcome] at accepted ⊢
          exact induction accepted
      | error fault =>
          rw [runAll_cons_of_error _ outcome] at accepted
          simp at accepted

end Attempt

end TypedModules
