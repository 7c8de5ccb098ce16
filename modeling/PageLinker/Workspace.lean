import PageLinker.Journal
import PageLinker.Program

/-!
# Workspace of a run

The requests that work on a build tree consists of: list a directory, tell directories from other
entries, read and write texts, and leave a record in the journal.
-/

namespace PageLinker

namespace Workspace

/-- A request to the place where the build tree is kept. -/
inductive Request where
  /-- The names of the immediate entries, in the order in which the storage enumerates them. -/
  | listDir (path : Path)
  /-- Whether the entry itself, not what it may link to, is a directory. -/
  | isDir (path : Path)
  | readText (path : Path)
  | writeText (path : Path) (content : String)
  | note (record : Record)
  deriving DecidableEq

instance : Interface Request where
  Answer
    | .listDir _ => List String
    | .isDir _ => Bool
    | .readText _ => String
    | .writeText _ _ => Unit
    | .note _ => Unit

/-- The write that a request performs when it is granted. -/
def Request.written? : Request → Option (Path × String)
  | .writeText path content => some (path, content)
  | _ => none

/-- The record that a request leaves when it is granted. -/
def Request.noted? : Request → Option Record
  | .note record => some record
  | _ => none

end Workspace

/-- A program over a build tree. -/
abbrev Task := Program Workspace.Request

namespace Task

/-- The names of the entries of a directory. -/
def listDir (path : Path) : Task (List String) :=
  .request (Workspace.Request.listDir path)

def isDir (path : Path) : Task Bool :=
  .request (Workspace.Request.isDir path)

def readText (path : Path) : Task String :=
  .request (Workspace.Request.readText path)

/-- Write a file, making it if it is not there. -/
def writeText (path : Path) (content : String) : Task Unit :=
  .request (Workspace.Request.writeText path content)

def note (origin : Origin) (level : Level) (message : String) : Task Unit :=
  .request (Workspace.Request.note ⟨origin, level, message⟩)

end Task

/-- The writes of a run, in order. -/
def Outcome.writes {State α : Type} (outcome : Outcome Workspace.Request State α) :
    List (Path × String) :=
  outcome.granted.filterMap (·.written?)

end PageLinker
