import TypedModules.Emission.Run

/-! # Within the limits of an interpreter

The interpreter that carries out a run nests its calls: once for every name in the path
of a pattern and for every level of the directories that are searched, and once for every
level that is missing above a module. It nests only so many, and follows no path with a
null character in it. What comes of a run beyond that is not told here, as it depends on
which of the modules have been written by then.
-/

namespace TypedModules

namespace FileTree

def height (tree : FileTree) : Nat :=
  (tree.entries.map fun entry => entry.1.length).max?.getD 0

def missingLevels (tree : FileTree) (directory : String) : Nat :=
  let names := Directory.names directory
  (List.range (names.length + 1)).countP fun level => (tree.lookup (names.take level)).isNone

end FileTree

namespace Emission

structure Interpreter where
  /-- The most calls that can be nested. -/
  nesting : Nat
  /-- What comes of a run that goes beyond the limits. -/
  beyond : FileTree → Options → String → RunOutcome

def HoldsNull (path : String) : Prop :=
  '\x00' ∈ path.toList

instance (path : String) : Decidable (HoldsNull path) :=
  inferInstanceAs (Decidable (_ ∈ _))

namespace Interpreter

variable (interpreter : Interpreter) (tree : FileTree)

def CanSearch (path : String) : Prop :=
  ¬HoldsNull path ∧ (Directory.names path).length + tree.height ≤ interpreter.nesting

def CanMake (directory : String) : Prop :=
  ¬HoldsNull directory ∧ tree.missingLevels directory ≤ interpreter.nesting

instance (path : String) : Decidable (interpreter.CanSearch tree path) :=
  inferInstanceAs (Decidable (_ ∧ _))

instance (directory : String) : Decidable (interpreter.CanMake tree directory) :=
  inferInstanceAs (Decidable (_ ∧ _))

/-- A run within the limits. There are directories to make only if all libraries can be
loaded. -/
structure Permits (options : Options) (root : String) : Prop where
  searched : ∀ pattern ∈ options.libraries ++ options.excludes,
    interpreter.CanSearch tree (Directory.append root pattern)
  made : ∀ directory ∈ (Emission.run tree options root).answer.toOption.getD [],
    interpreter.CanMake tree directory

instance (options : Options) (root : String) :
    Decidable (interpreter.Permits tree options root) :=
  decidable_of_iff
    ((∀ pattern ∈ options.libraries ++ options.excludes,
        interpreter.CanSearch tree (Directory.append root pattern)) ∧
      ∀ directory ∈ (Emission.run tree options root).answer.toOption.getD [],
        interpreter.CanMake tree directory)
    ⟨fun ⟨searched, made⟩ => ⟨searched, made⟩, fun permits => ⟨permits.searched, permits.made⟩⟩

def run (options : Options) (root : String) : RunOutcome :=
  if interpreter.Permits tree options root then Emission.run tree options root
  else interpreter.beyond tree options root

end Interpreter

end Emission

end TypedModules
