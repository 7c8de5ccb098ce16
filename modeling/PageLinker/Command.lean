import PageLinker.Path

/-!
# Commands

What the program can be asked for, after the arguments have been read.
-/

namespace PageLinker

/-- A command with what it is given. -/
inductive Command where
  /-- Complete files, or print what they would become. -/
  | imports (files : List Path) (preview : Bool)
  /-- Write the indexes of a build tree. -/
  | index (root settingsFile : Option Path) (showProgress : Bool)
  /-- Complete the pages of a build tree and write its indexes. -/
  | build (root settingsFile : Option Path) (showProgress : Bool)
  /-- Make a settings file. -/
  | init (directory : Path)
  | help
  deriving DecidableEq

end PageLinker
