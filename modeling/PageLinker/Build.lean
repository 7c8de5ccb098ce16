import PageLinker.Index.Writing
import PageLinker.Page.Completion
import PageLinker.Settings

/-!
# Build

A build completes every page of the tree and then writes the indexes.  All names are checked
before the first page is touched.  Pages that already have their import block are left alone, so
a build can be repeated.
-/

namespace PageLinker

/-- The files that a build dealt with. -/
structure BuildReport where
  root : Path
  pageFiles : List Path
  skippedFiles : List Path
  indexFiles : List IndexFile
  deriving DecidableEq

namespace Task

def buildTree (root : Path) (layout : Layout) : Task BuildReport := do
  let tree ← readTree root layout
  .ofExcept (Naming.asFailure (validateGroups tree.groups))
  let (pageFiles, skippedFiles) ← completePages tree.memberPaths
  note .build .info
    s!"Added imports to {pageFiles.length} page files ({skippedFiles.length} already done)"
  let indexFiles ← writeIndexes root layout
  pure { root, pageFiles, skippedFiles, indexFiles }

/-- Build the tree under the given root, or under the directory that settings and environment
name. -/
def build (settings : Settings) (environment : Option String) (root : Option Path) :
    Task BuildReport := do
  let root ← match root with
    | some root => pure root
    | none => .ofExcept (settings.buildDirectory environment)
  buildTree root settings.layout

end Task

end PageLinker
