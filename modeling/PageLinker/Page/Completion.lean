import PageLinker.Page.ImportBlock
import PageLinker.Workspace

/-!
# Completing page files

A page file is completed in place.  A single file is always completed; a build leaves the pages
alone that already open with a library line.
-/

namespace PageLinker

namespace Task

/-- Put the import block in front of a file, and return its new text. -/
def completeFile (path : Path) : Task String := do
  let text ← readText path
  let completed := ImportBlock.complete text
  writeText path completed
  note .imports .debug s!"Added imports to {path}"
  pure completed

/-- Complete a page unless it has its block.  The answer says whether it was completed. -/
def completePage (path : Path) : Task Bool := do
  let text ← readText path
  if ImportBlock.isPresent text then pure false
  else do
    writeText path (ImportBlock.complete text)
    pure true

/-- Complete pages one after the other.  The answer holds the completed pages and those that were
left alone. -/
def completePages : List Path → Task (List Path × List Path)
  | [] => pure ([], [])
  | page :: rest => do
      let completed ← completePage page
      let (done, skipped) ← completePages rest
      pure (if completed then (page :: done, skipped) else (done, page :: skipped))

end Task

end PageLinker
