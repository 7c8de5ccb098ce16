import PageLinker.Workspace

/-!
# Ways to use the storage

The four ways in which a request uses the storage.  They tell the requests apart when a storage
denies some of them.
-/

namespace PageLinker

/-- A way to use the storage. -/
inductive Access where
  | listDir
  | isDir
  | readText
  | writeText
  deriving DecidableEq, Repr

/-- The accesses that a storage denies, by way and path. -/
abbrev Denial := Access → Path → Bool

namespace Denial

def nothing : Denial := fun _ _ => false

def alsoDeny (denied : Denial) (access : Access) (path : Path) : Denial :=
  fun other place => (other == access && place == path) || denied other place

/-- Answer a request unless its access is denied.  A refusal names the path of the request. -/
def guarded {α : Type} (denied : Denial) (access : Access) (path : Path)
    (answer : Except Refusal α) : Except Failure α :=
  Failure.about path (if denied access path then .error .denied else answer)

end Denial

end PageLinker
