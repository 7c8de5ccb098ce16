import PageLinker.Path
import PageLinker.Tree.Clash

/-!
# Failures

Everything that can stop a run, by cause.  The two causes that lie in the pages themselves, a bad
name and a clash, carry a report for the author of the pages; the others concern the storage or
the settings.
-/

namespace PageLinker

/-- Why the storage refuses a request. -/
inductive Refusal where
  | notFound
  | notDirectory
  | isDirectory
  | denied
  | tooManyLinks
  deriving DecidableEq, Repr

/-- A place in the settings whose value can have the wrong type. -/
inductive SettingPlace where
  | table
  | directory
  | extension
  | indexFile
  deriving DecidableEq, Repr

/-- The cause that stopped a run. -/
inductive Failure where
  /-- A page breaks the naming policy. -/
  | badName (violation : Naming.Violation)
  /-- Two files claim one page name. -/
  | clash (found : Clash)
  /-- The storage refused a request about the given path. -/
  | refused (refusal : Refusal) (path : Path)
  /-- A file that was to be read as text is not UTF-8. -/
  | notText
  /-- The settings file is not well formed. -/
  | malformedSettings
  /-- A setting of the wrong type was put to use. -/
  | mistyped (place : SettingPlace)
  deriving DecidableEq

namespace Failure

/-- An answer of the storage to a request about a path. -/
def about {α : Type} (path : Path) : Except Refusal α → Except Failure α
  | .ok answer => .ok answer
  | .error refusal => .error (.refused refusal path)

/-- What a refusal says about the path that was asked for. -/
def refusalText : Refusal → String
  | .notFound => "no such file or directory"
  | .notDirectory => "not a directory"
  | .isDirectory => "is a directory"
  | .denied => "permission denied"
  | .tooManyLinks => "too many levels of symbolic links"

/-- The report of a failure that lies in the pages. -/
def pageReport : Failure → Option String
  | .badName violation => some violation.message
  | .clash found => some found.message
  | _ => none

/-- What a failure says to whoever started the run. -/
def message : Failure → String
  | .badName violation => violation.message
  | .clash found => found.message
  | .refused refusal path => path.toString ++ ": " ++ refusalText refusal
  | .notText => "a file is not encoded in UTF-8"
  | .malformedSettings => "the settings file is not well formed"
  | .mistyped .table => "build and index must be tables"
  | .mistyped .directory => "build.dir must be a text"
  | .mistyped .extension => "index.extension must be a text"
  | .mistyped .indexFile => "index.index_file must be a text"

end Failure

end PageLinker
