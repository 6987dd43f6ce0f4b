import TypedModules.Proofs.Emission.Running

/-! # Modules that share a directory

The directory of a library is told by its file name, wherever the file has been
found. So two libraries share a directory when they are named alike, and a library
shares that of the base definitions when it is named like them.
-/

namespace TypedModules.Emission

open FileTree Library

section Names

-- Comparing directories by computing them does not end in reasonable time.
attribute [local irreducible] Namespace.outputDirectory

variable {tree : FileTree} {options : Options} {root : String} {paths directories : List String}
  {home : Namespace}

theorem isDotted_homeAt (path : String) : (homeAt path).IsDotted :=
  Namespace.isDotted_of_ofDotted (ofDotted_dotted { file := path, contents := "" })

theorem isDotted_of_mem_homes (member : home ∈ homes options paths) : home.IsDotted := by
  rw [homes, List.mem_append] at member
  rcases member with base | isLibrary
  · split at base
    · cases base
    · rw [List.mem_singleton.mp base]
      decide
  · rcases List.mem_map.mp isLibrary with ⟨path, -, rfl⟩
    exact isDotted_homeAt path

theorem nodup_placesFor_iff (rooted : Directory.isAbsolute root = true) :
    (placesFor options root paths).Nodup ↔ ((homes options paths).map Namespace.named).Nodup := by
  rw [placesFor, List.Nodup, List.pairwise_map, List.Nodup, List.pairwise_map]
  refine List.Pairwise.iff_of_mem fun {first second} firstMember secondMember => ?_
  rw [Ne, Ne, Namespace.outputDirectory_eq_iff (isDotted_of_mem_homes firstMember)
    (isDotted_of_mem_homes secondMember) rooted]

/-- The directories that a run answers with are distinct exactly when its modules
are: when no two libraries have file names that are cut into the same names, and none
is named like the base definitions. -/
theorem nodup_directories_iff (rooted : Directory.isAbsolute root = true)
    (returned : (run tree options root).answer = .ok directories) :
    directories.Nodup ↔
      ((homes options ((searchFor options root).paths tree)).map Namespace.named).Nodup := by
  rw [eq_placesFor_of_answer returned]
  exact nodup_placesFor_iff rooted

end Names

def alikeLibraries : FileTree where
  entries :=
    [(["one"], .directory), (["one", "x.ts"], .file .empty),
      (["two"], .directory), (["two", "x.ts"], .file .empty)]
  distinct := by decide
  inDirectory := by
    simp only [List.forall_mem_cons]
    exact ⟨⟨[], "one", by decide⟩, ⟨["one"], "x.ts", by decide⟩, ⟨[], "two", by decide⟩,
      ⟨["two"], "x.ts", by decide⟩, by simp⟩

theorem loads_first : Loads alikeLibraries "/one/x.ts" ⟨"/one/x.ts", "", true⟩ :=
  ⟨⟨"/one/x.ts", "", false⟩, by decide, rfl⟩

theorem loads_second : Loads alikeLibraries "/two/x.ts" ⟨"/two/x.ts", "", true⟩ :=
  ⟨⟨"/two/x.ts", "", false⟩, by decide, rfl⟩

/-- A library next to the base definitions has a directory of its own. -/
theorem nodup_directories_iff_of_single :
    let options : Options := { libraries := ["one/x.ts"] }
    Directory.isAbsolute "/" = true ∧
      (run alikeLibraries options "/").answer = .ok ["/@cds-models/_", "/@cds-models/x"] ∧
      ["/@cds-models/_", "/@cds-models/x"].Nodup := by
  intro options
  have rooted : Directory.isAbsolute "/" = true := by decide
  have found : (searchFor options "/").paths alikeLibraries = ["/one/x.ts"] :=
    Search.paths_of_rises (by decide) rfl (by decide)
  have answered : (run alikeLibraries options "/").answer =
      .ok ["/@cds-models/_", "/@cds-models/x"] := by
    rw [answer_run_of_loads found (.cons loads_first .nil)]
    decide
  refine ⟨rooted, answered, (nodup_directories_iff rooted answered).mpr ?_⟩
  rw [found]
  decide

/-- Libraries of the same name are written to the same place, and both are counted. -/
theorem not_nodup_directories_of_alike :
    let options : Options :=
      { libraries := ["one/x.ts", "two/x.ts"], skipBaseDefinitions := true }
    let directories := ["/@cds-models/x", "/@cds-models/x"]
    (run alikeLibraries options "/").answer = .ok directories ∧ ¬directories.Nodup := by
  intro options directories
  have found : (searchFor options "/").paths alikeLibraries = ["/one/x.ts", "/two/x.ts"] :=
    Search.paths_of_rises (by decide) rfl (by decide)
  have answered : (run alikeLibraries options "/").answer = .ok directories := by
    rw [answer_run_of_loads found (.cons loads_first (.cons loads_second .nil))]
    decide
  exact ⟨answered, by decide⟩

end TypedModules.Emission
