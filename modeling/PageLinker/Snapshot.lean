import PageLinker.Sorting

/-!
# What has changed among files

Two listings of files with their contents are compared by path.
-/

namespace PageLinker

/-- Files with their contents, by path. -/
abbrev Snapshot (α : Type) := List (String × α)

namespace Snapshot

variable {α : Type} [BEq α]

/-- The files that are new, or have another content than before. -/
def changed (before after : Snapshot α) : Snapshot α :=
  after.filter fun file => before.lookup file.1 != some file.2

/-- The paths of the files that are gone, in code point order. -/
def removed (before after : Snapshot α) : List String :=
  Sorting.sorted (· ≤ ·)
    ((before.filter fun file => (after.lookup file.1).isNone).map (·.1))

end Snapshot

end PageLinker
