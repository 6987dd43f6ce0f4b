import TypedModules.Proofs.Directory.Route
import TypedModules.Proofs.Namespace.Placement

/-! # Import specifiers

A specifier is the route from the directory of the importing module to that of
the imported one. As output directories lie along the same segments, resolving
the specifier from where the one module is written leads to where the other one
is written.
-/

namespace TypedModules.Namespace

open Directory

variable {source target : Namespace} {workingDirectory : String}

theorem slash_notMem_of_mem_route {start names : List String}
    (slashFree : ∀ name ∈ names, '/' ∉ name.toList) :
    ∀ step ∈ route start names, '/' ∉ step.toList := by
  intro step member
  rcases List.mem_append.1 member with up | down
  · rw [List.eq_of_mem_replicate up]
    decide
  · exact slashFree step (List.mem_of_mem_drop down)

theorem here_notMem_route (start : List String) {names : List String}
    (ordinary : ∀ name ∈ names, IsOrdinary name) : "." ∉ route start names := by
  intro member
  rcases List.mem_append.1 member with up | down
  · exact absurd (List.eq_of_mem_replicate up) (by decide)
  · exact (ordinary "." (List.mem_of_mem_drop down)).notHere rfl

theorem localDirectory_ne_empty (module : Namespace) : module.localDirectory ≠ "" := by
  intro empty
  have lengths := congrArg String.length empty
  simp [localDirectory] at lengths

def routeSpecifier (source target : Namespace) : String :=
  "./" ++ "/".intercalate (route source.named target.named)

/-- As long as there is a path to the target, its specifier is the route between the
names of both, whatever the working directory is. -/
theorem specifier_eq_routeSpecifier (sourceDotted : source.IsDotted)
    (targetDotted : target.IsDotted) (visible : target.path ≠ "")
    (rooted : isAbsolute workingDirectory = true) :
    target.specifier workingDirectory source.localDirectory =
      .ok (source.routeSpecifier target) := by
  have startNames : names (Directory.absolute workingDirectory source.localDirectory) =
      trail workingDirectory ++ source.named := by
    rw [Directory.absolute, names_normalize (isAbsolute_append _ rooted),
      sourceDotted.trail_append_localDirectory]
  have targetNames : names (Directory.absolute workingDirectory target.path) =
      trail workingDirectory ++ target.named := by
    rw [Directory.absolute, names_normalize (isAbsolute_append _ rooted),
      targetDotted.trail_append_path]
  rw [specifier, directoryFrom, if_neg source.localDirectory_ne_empty, relative, if_neg visible,
    startNames, targetNames, route_append_left, routeSpecifier]
  have slashFree : ∀ step ∈ route source.named target.named, '/' ∉ step.toList :=
    slash_notMem_of_mem_route fun name member => (targetDotted.ordinary name member).slashFree
  have notHere := here_notMem_route source.named targetDotted.ordinary
  cases steps : route source.named target.named with
  | nil => rfl
  | cons first rest =>
      rw [steps] at slashFree notHere
      have notDot := intercalate_ne_of_notMem slashFree (List.cons_ne_nil first rest)
        (by decide) notHere
      simp [Except.map, withoutDot, notDot]

/-- An accepted specifier leads along the route: the only path that is refused is the
empty one. -/
theorem eq_routeSpecifier_of_specifier (sourceDotted : source.IsDotted)
    (targetDotted : target.IsDotted) (rooted : isAbsolute workingDirectory = true)
    {specifier : String}
    (accepted : target.specifier workingDirectory source.localDirectory = .ok specifier) :
    specifier = source.routeSpecifier target := by
  by_cases visible : target.path = ""
  · rw [Namespace.specifier, directoryFrom, if_neg source.localDirectory_ne_empty, relative,
      if_pos visible] at accepted
    cases accepted
  · rw [specifier_eq_routeSpecifier sourceDotted targetDotted visible rooted] at accepted
    exact (Except.ok.inj accepted).symm

theorem specifier_eq_route (sourceProper : source.IsProper) (targetProper : target.IsProper)
    (rooted : isAbsolute workingDirectory = true) :
    target.specifier workingDirectory source.localDirectory =
      .ok ("./" ++ "/".intercalate (route source.segments target.segments)) := by
  rw [specifier_eq_routeSpecifier sourceProper.isDotted targetProper.isDotted
    targetProper.path_ne_empty rooted, routeSpecifier, sourceProper.named_eq,
    targetProper.named_eq]

theorem foldl_enter_specifier {steps : List String}
    (slashFree : ∀ step ∈ steps, '/' ∉ step.toList) (stack : List String) :
    (Directory.segments ("./" ++ "/".intercalate steps)).foldl (enter true) stack =
      steps.foldl (enter true) stack := by
  rw [segments_here_append, List.foldl_cons, enter_dot]
  by_cases stay : steps = []
  · rw [stay]
    simp [Directory.segments, Text.pieces]
  · rw [segments_intercalate slashFree stay]

theorem named_eq_of_routeSpecifier_eq {other : Namespace} (sourceDotted : source.IsDotted)
    (targetDotted : target.IsDotted) (otherDotted : other.IsDotted)
    (same : source.routeSpecifier target = source.routeSpecifier other) :
    target.named = other.named := by
  -- Following either route from the source ends at the names it was taken to.
  have leads : ∀ {module : Namespace}, module.IsDotted →
      (Directory.segments (source.routeSpecifier module)).foldl (enter true)
        source.named.reverse = module.named.reverse := by
    intro module dotted
    have slashFree : ∀ step ∈ route source.named module.named, '/' ∉ step.toList :=
      slash_notMem_of_mem_route fun name member => (dotted.ordinary name member).slashFree
    have baseNoUp : ".." ∉ ([] : List String) := List.not_mem_nil
    have followed := foldl_enter_route baseNoUp sourceDotted.up_notMem dotted.ordinary
    rw [routeSpecifier, foldl_enter_specifier slashFree]
    simpa using followed
  rw [← List.reverse_inj, ← leads targetDotted, ← leads otherDotted, same]

theorem count_up_specifier (source : Namespace) (targetProper : target.IsProper) :
    (Directory.segments ("./" ++ "/".intercalate (route source.segments target.segments))).count
        ".." = source.segments.length - commonLength source.segments target.segments := by
  have upSteps : (route source.segments target.segments).count ".." =
      source.segments.length - commonLength source.segments target.segments := by
    have noUp : ".." ∉ target.segments.drop (commonLength source.segments target.segments) :=
      fun member => targetProper.up_notMem (List.mem_of_mem_drop member)
    rw [route, List.count_append, List.count_replicate_self, List.count_eq_zero_of_not_mem noUp,
      Nat.add_zero]
  rw [segments_here_append, List.count_cons_of_ne (by decide)]
  by_cases stay : route source.segments target.segments = []
  · rw [stay] at upSteps ⊢
    simpa [Directory.segments, Text.pieces] using upSteps
  · rw [segments_intercalate (slash_notMem_of_mem_route target.slashFree) stay, upSteps]

theorem normalize_append_route (sourceProper : source.IsProper) (targetProper : target.IsProper)
    (rooted : isAbsolute workingDirectory = true) (root : String) :
    normalize (append (source.outputDirectory workingDirectory root)
        ("./" ++ "/".intercalate (route source.segments target.segments))) =
      target.outputDirectory workingDirectory root := by
  have relative :
      isAbsolute ("./" ++ "/".intercalate (route source.segments target.segments)) = false := by
    simp [isAbsolute]
  have start := isAbsolute_outputDirectory source rooted root
  have place := isAbsolute_append (append root target.directory) rooted
  conv => rhs; rw [outputDirectory, Directory.absolute]
  apply normalize_eq_normalize (isAbsolute_append _ start) place
  · calc
      rootMark (append (source.outputDirectory workingDirectory root)
          ("./" ++ "/".intercalate (route source.segments target.segments)))
      _ = rootMark (append workingDirectory root) := by
        rw [rootMark_append _ relative, rootMark_outputDirectory sourceProper rooted]
      _ = rootMark (append workingDirectory (append root target.directory)) :=
        (rootMark_append_append _ _ targetProper.isAbsolute_directory).symm
  · have baseNoUp := up_notMem_trail (append workingDirectory root)
    calc
      trail (append (source.outputDirectory workingDirectory root)
          ("./" ++ "/".intercalate (route source.segments target.segments)))
      _ = ((route source.segments target.segments).foldl (enter true)
            (trail (append workingDirectory root) ++ source.segments).reverse).reverse := by
        rw [trail_append _ relative,
          foldl_enter_specifier (slash_notMem_of_mem_route target.slashFree),
          trail_outputDirectory sourceProper rooted]
      _ = trail (append workingDirectory root) ++ target.segments := by
        rw [foldl_enter_route baseNoUp sourceProper.up_notMem targetProper.ordinary,
          List.reverse_reverse]
      _ = trail (append workingDirectory (append root target.directory)) := by
        rw [trail_append_append _ _ targetProper.isAbsolute_directory,
          targetProper.trail_append_directory]

/-! ## Specifiers and output directories

The longest common start of two namespaces is given by `shared`: no other common
start is longer. The specifier is found before any working directory is chosen,
so it does not depend on it. -/

theorem normalize_append_specifier {importer imported : String}
    (importerNamed : IsDottedName importer) (importedNamed : IsDottedName imported) :
    ∃ (source target : Namespace) (specifier : String) (shared : List String),
      ofDotted importer = .ok source ∧ ofDotted imported = .ok target ∧
      shared <+: source.segments ∧ shared <+: target.segments ∧
      (∀ other, other <+: source.segments → other <+: target.segments →
        other.length ≤ shared.length) ∧
      specifier = "./" ++ "/".intercalate
        (List.replicate (source.segments.length - shared.length) ".." ++
          target.segments.drop shared.length) ∧
      (Directory.segments specifier).count ".." = source.segments.length - shared.length ∧
      ∀ workingDirectory, isAbsolute workingDirectory = true →
        target.specifier workingDirectory source.localDirectory = .ok specifier ∧
        ∀ root, normalize (append (source.outputDirectory workingDirectory root) specifier) =
          target.outputDirectory workingDirectory root := by
  rcases exists_proper_of_isDottedName importerNamed with ⟨source, sourceRead, sourceProper⟩
  rcases exists_proper_of_isDottedName importedNamed with ⟨target, targetRead, targetProper⟩
  have bound := commonLength_le_length source.segments target.segments
  have sharedLength :
      (source.segments.take (commonLength source.segments target.segments)).length =
        commonLength source.segments target.segments := by
    rw [List.length_take, Nat.min_eq_left bound]
  refine ⟨source, target, "./" ++ "/".intercalate (route source.segments target.segments),
    source.segments.take (commonLength source.segments target.segments), sourceRead, targetRead,
    List.take_prefix _ _, ?_, ?_, ?_, ?_, ?_⟩
  · rw [take_commonLength]
    exact List.take_prefix _ _
  · intro other sourceShares targetShares
    rw [sharedLength]
    exact length_le_commonLength sourceShares targetShares
  · rw [sharedLength, route]
  · rw [sharedLength]
    exact count_up_specifier source targetProper
  · intro workingDirectory rooted
    exact ⟨specifier_eq_route sourceProper targetProper rooted,
      normalize_append_route sourceProper targetProper rooted⟩

theorem normalize_append_specifier_of_sibling :
    IsDottedName "shop.books.detail" ∧ IsDottedName "shop.authors" ∧
      ∃ source target : Namespace,
        ofDotted "shop.books.detail" = .ok source ∧ ofDotted "shop.authors" = .ok target ∧
        target.specifier "/work" source.localDirectory = .ok "./../../authors" ∧
        normalize (append (source.outputDirectory "/work" "../out") "./../../authors") =
          target.outputDirectory "/work" "../out" := by
  have importerNamed : IsDottedName "shop.books.detail" := by decide +kernel
  have importedNamed : IsDottedName "shop.authors" := by decide +kernel
  rcases normalize_append_specifier importerNamed importedNamed with
    ⟨source, target, specifier, shared, sourceRead, targetRead, _, _, _, _, _, resolves⟩
  have rooted : isAbsolute "/work" = true := by decide
  rcases resolves "/work" rooted with ⟨found, leads⟩
  have computed : ((ofDotted "shop.authors").toOption.bind fun target =>
      (ofDotted "shop.books.detail").toOption.bind fun source =>
        (target.specifier "/work" source.localDirectory).toOption) = some "./../../authors" := by
    decide +kernel
  rw [sourceRead, targetRead] at computed
  simp only [Except.toOption, Option.bind_some, found, Option.some.injEq] at computed
  rw [computed] at found leads
  exact ⟨importerNamed, importedNamed, source, target, sourceRead, targetRead, found,
    leads "../out"⟩

end TypedModules.Namespace
