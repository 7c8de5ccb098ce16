import PageLinker.Disk.Resolution
import PageLinker.Sorting
import PageLinker.Text.Lines
import PageLinker.Workspace

/-!
# Storage on a disk

A disk with a working directory.  Its names lead to files, and all names of a file see what is
written to it.  Directories are enumerated in an order of the disk's own.  Reading decodes UTF-8
strictly and turns every line end into a line feed; writing stores a text as it is.  Reading,
writing and listing follow links, while the question whether an entry is a directory does not.
-/

namespace PageLinker

namespace Disk

/-- An order in which directories are enumerated.  It can depend on all names on the disk. -/
structure Enumeration where
  enumerate : Contents → Route → List String
  enumerate_perm : ∀ contents directory,
    (enumerate contents directory).Perm (contents.names directory)

/-- The names of a directory come in code point order. -/
def Enumeration.sorted : Enumeration where
  enumerate contents directory := Sorting.sorted (· ≤ ·) (contents.names directory)
  enumerate_perm _ _ := Sorting.sorted_perm _ _

/-- A new name leaves the others in their order. -/
def Enumeration.IsStable (enumeration : Enumeration) : Prop :=
  ∀ (contents : Contents) (route : Route) (entry : Entry Node) (free : contents.IsFree route)
    (directory : Route),
    (enumeration.enumerate (contents.append route entry free) directory).filter
        (fun name => directory ++ [name] ≠ route) =
      enumeration.enumerate contents directory

/-- What is found of a name that leads to no directory. -/
inductive Leaf where
  | file (content : ByteArray)
  | link (target : String)

end Disk

/-- A disk and the directory that relative paths start from.  `bytes` are those of each file by its
number. -/
structure Disk where
  contents : Disk.Contents
  workingDirectory : Route
  bytes : Nat → ByteArray := fun _ => ByteArray.empty
  enumeration : Disk.Enumeration := .sorted

namespace Disk

/-- What is found of a name, with the bytes of a file in place of its number. -/
def leafOf (disk : Disk) : Node → Leaf
  | .file number => .file (disk.bytes number)
  | .link target => .link target

/-- What stands at a place. -/
def find? (disk : Disk) (route : Route) : Option (Entry Leaf) :=
  (disk.contents.find? route).map (·.map disk.leafOf)

/-- The number of the file that stands at a place. -/
def numberAt? (disk : Disk) (route : Route) : Option Nat :=
  match disk.contents.find? route with
  | some (.leaf node) => node.number?
  | _ => none

/-- The places are two names of one file, or the same name of a file. -/
def SameFile (disk : Disk) (route other : Route) : Prop :=
  ∃ number ∈ disk.numberAt? route, number ∈ disk.numberAt? other

/-- The names of the entries of a directory, in the order in which the disk enumerates them. -/
def listing (disk : Disk) (directory : Route) : List String :=
  disk.enumeration.enumerate disk.contents directory

def start (disk : Disk) (path : Path) : Route :=
  match path.anchor with
  | .here => disk.workingDirectory
  | _ => []

/-- The place that a path leads to.  Something need not stand there yet. -/
def locate (disk : Disk) (purpose : Purpose) (path : Path) : Except Refusal Route :=
  walk disk.contents purpose greatestLinkCount (disk.start path) path.components

def look (disk : Disk) (purpose : Purpose) (path : Path) : Except Refusal (Route × Entry Node) := do
  let place ← disk.locate purpose path
  match disk.contents.find? place with
  | some entry => .ok (place, entry)
  | none => .error .notFound

/-- The names of the entries of the directory that a path leads to. -/
def list (disk : Disk) (path : Path) : Except Refusal (List String) := do
  match ← disk.look .content path with
  | (place, .directory) => .ok (disk.listing place)
  | (_, .leaf _) => .error .notDirectory

def holdsDirectory (disk : Disk) (path : Path) : Except Refusal Bool := do
  let (_, entry) ← disk.look .entry path
  .ok entry.isDirectory

/-- The number of the file that a path leads to. -/
def openFile (disk : Disk) (path : Path) : Except Refusal Nat := do
  match ← disk.look .content path with
  | (_, .leaf (.file number)) => .ok number
  | (_, .leaf (.link _)) => .error .tooManyLinks
  | (_, .directory) => .error .isDirectory

def readBytes (disk : Disk) (path : Path) : Except Refusal ByteArray :=
  (disk.openFile path).map disk.bytes

def isPresent (disk : Disk) (path : Path) : Bool :=
  (disk.look .content path).isOk

/-- Give a file other bytes. -/
def refill (disk : Disk) (number : Nat) (content : ByteArray) : Disk :=
  { disk with bytes := fun other => if other = number then content else disk.bytes other }

/-- A number that no file has. -/
def freshNumber (disk : Disk) : Nat :=
  (disk.contents.leaves.filterMap (·.2.number?)).foldr max 0 + 1

/-- Write to the file at a place, under all its names, or make one there. -/
def store (disk : Disk) (place : Route) (content : ByteArray) : Except Refusal Disk :=
  match disk.contents.find? place with
  | some .directory => .error .isDirectory
  | some (.leaf (.link _)) => .error .tooManyLinks
  | some (.leaf (.file number)) => .ok (disk.refill number content)
  | none => do
      let contents ← disk.contents.add place (.leaf (.file disk.freshNumber))
      .ok { disk.refill disk.freshNumber content with contents }

def writeBytes (disk : Disk) (path : Path) (content : ByteArray) : Except Refusal Disk := do
  let place ← disk.locate .making path
  disk.store place content

def writeText (disk : Disk) (path : Path) (text : String) : Except Refusal Disk :=
  disk.writeBytes path text.toUTF8

/-- The text of a file, with line feeds for line ends. -/
def decode (content : ByteArray) : Except Failure String :=
  match String.fromUTF8? content with
  | some text => .ok (Lines.unified text)
  | none => .error .notText

def readText (disk : Disk) (path : Path) : Except Failure String := do
  let content ← Failure.about path (disk.readBytes path)
  decode content

def handle : Handler Workspace.Request Disk
  | .listDir path, disk => Failure.about path ((disk.list path).map (·, disk))
  | .isDir path, disk => Failure.about path ((disk.holdsDirectory path).map (·, disk))
  | .readText path, disk => (disk.readText path).map (·, disk)
  | .writeText path content, disk =>
      Failure.about path ((disk.writeText path content).map ((), ·))
  | .note _, disk => .ok ((), disk)

end Disk

end PageLinker
