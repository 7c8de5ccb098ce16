import PageLinker.Tree.Members
import PageLinker.Workspace

/-!
# Reading a build tree

The groups are the immediate subdirectories of the root, in the order of enumeration.  All entries
of the root are told apart before the first group is listed.
-/

namespace PageLinker

namespace Task

/-- Keep the names that are directories below `root`. -/
def keepDirectories (root : Path) : List String → Task (List String)
  | [] => pure []
  | name :: rest => do
      let directory ← isDir (root.join name)
      let later ← keepDirectories root rest
      pure (if directory then name :: later else later)

def listGroups (root : Path) : Task (List String) := do
  let names ← listDir root
  keepDirectories root names

def memberFiles (directory : Path) (layout : Layout) : Task (List Member) := do
  let filenames ← listDir directory
  .ofExcept (Members.collect layout directory.name filenames)

/-- Read the named groups one after the other. -/
def readGroups (root : Path) (layout : Layout) : List String → Task (List Group)
  | [] => pure []
  | name :: rest => do
      let members ← memberFiles (root.join name) layout
      let later ← readGroups root layout rest
      pure (⟨name, root.join name, members⟩ :: later)

/-- Read a build tree.  Names are not checked against the policy yet. -/
def readTree (root : Path) (layout : Layout) : Task BuildTree := do
  let names ← listGroups root
  let groups ← readGroups root layout names
  pure ⟨root, groups⟩

end Task

end PageLinker
