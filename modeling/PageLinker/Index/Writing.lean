import PageLinker.Index.Rendering
import PageLinker.Tree.Reading
import PageLinker.Tree.Validation

/-!
# Writing the indexes of a build tree

The root index comes first, then one index per group in the order of enumeration.  A group with a
badly named page stops the run before its own index is written; the indexes before it stay.
-/

namespace PageLinker

/-- Turn a bad name into the failure that it is. -/
def Naming.asFailure {α : Type} : Except Naming.Violation α → Except Failure α
  | .ok value => .ok value
  | .error violation => .error (.badName violation)

namespace Task

/-- Write an index file and say so in the journal. -/
def writeIndex (file : IndexFile) : Task IndexFile := do
  writeText file.path file.content
  note .index .debug s!"Wrote {file.path} ({file.entries.length} entries)"
  pure file

def writeRootIndex (root : Path) (groupNames : List String) (layout : Layout) :
    Task IndexFile := do
  let path ← .ofExcept (layout.indexPath root)
  writeIndex
    { path
      content := IndexEntry.renderGroups groupNames
      entries := IndexEntry.ofGroups groupNames }

/-- Write the index of a group, once its pages are found to be well named. -/
def writeGroupIndex (group : Group) (layout : Layout) : Task IndexFile := do
  .ofExcept (Naming.asFailure group.validate)
  let path ← .ofExcept (layout.indexPath group.path)
  let content ← .ofExcept
    (Naming.asFailure (IndexEntry.renderMembers (some group.name) group.memberNames))
  writeIndex { path, content, entries := IndexEntry.ofMembers group.memberNames }

/-- Write the indexes of the groups one after the other. -/
def writeGroupIndexes (layout : Layout) : List Group → Task (List IndexFile)
  | [] => pure []
  | group :: rest => do
      let file ← writeGroupIndex group layout
      let later ← writeGroupIndexes layout rest
      pure (file :: later)

/-- Write all indexes of the build tree under `root`, and return them, the root index first. -/
def writeIndexes (root : Path) (layout : Layout) : Task (List IndexFile) := do
  let tree ← readTree root layout
  note .index .info s!"Indexing {tree.root}: {tree.groups.length} groups"
  let rootFile ← writeRootIndex tree.root tree.groupNames layout
  let groupFiles ← writeGroupIndexes layout tree.groups
  pure (rootFile :: groupFiles)

end Task

end PageLinker
