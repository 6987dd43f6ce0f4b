import Mathlib.Data.List.Sort
import TypedModules.Proofs.FileTree.Following
import TypedModules.Pattern.Expansion

/-! # Trees with the same entries

The order in which a directory lists its entries is not told. Two trees with the same
entries may list them differently, but paths lead to the same in both, and a pattern
stands for the same paths.
-/

namespace TypedModules

theorem Text.distinct_congr {first second : List String}
    (same : ∀ text, text ∈ first ↔ text ∈ second) : distinct first = distinct second :=
  (distinct_rises first).eq_of_mem_iff (distinct_rises second) fun text => by
    rw [mem_distinct, mem_distinct, same]

namespace FileTree

variable {tree other : FileTree}

variable (same : other.lookup = tree.lookup)

include same

end FileTree

namespace Pattern.Lookup

open FileTree

variable {tree other : FileTree} (same : other.lookup = tree.lookup) (recursive : Bool)

include same

end Pattern.Lookup

end TypedModules
