import PageLinker.Disk

/-!
# Preparing a disk

Directories, files and links are put on a disk, taken away and moved, and files are given other
names.  Directories above a new entry are made as needed.
-/

namespace PageLinker

namespace Disk

/-- A disk with nothing on it but its working directory. -/
def fresh (workingDirectory : Route) : Except Refusal Disk := do
  let contents ← (Catalog.empty : Contents).ensureDirectories workingDirectory
  .ok { contents, workingDirectory }

/-- Make the directory that a path leads to, unless it is there. -/
def ensureDirectory (disk : Disk) (path : Path) : Except Refusal Disk := do
  let place ← disk.locate .content path
  let contents ← disk.contents.ensureDirectory place
  .ok { disk with contents }

def makeDirectory (disk : Disk) (path : Path) : Except Refusal Disk :=
  (passedPlaces path.components ++ [path.components]).foldlM
    (fun grown names => grown.ensureDirectory (Path.ofComponents path.anchor names)) disk

/-- Make the directories above a path. -/
def makeParents (disk : Disk) (path : Path) : Except Refusal Disk :=
  disk.makeDirectory (Path.ofComponents path.anchor path.components.dropLast)

/-- Make a file and the directories above it. -/
def makeFile (disk : Disk) (path : Path) (content : ByteArray) : Except Refusal Disk := do
  let prepared ← disk.makeParents path
  prepared.writeBytes path content

/-- Make a link and the directories above it. -/
def makeLink (disk : Disk) (path : Path) (target : String) : Except Refusal Disk := do
  let prepared ← disk.makeParents path
  let place ← prepared.locate .entry path
  let contents ← prepared.contents.add place (.leaf (.link target))
  .ok { prepared with contents }

/-- Give the file that a path leads to another name, and make the directories above that. -/
def makeName (disk : Disk) (path : Path) (name : Path) : Except Refusal Disk := do
  let number ← disk.openFile path
  let prepared ← disk.makeParents name
  let place ← prepared.locate .entry name
  let contents ← prepared.contents.add place (.leaf (.file number))
  .ok { prepared with contents }

/-- Take away what stands at a path.  A link goes without what it points to, and a file stays under
its other names. -/
def erase (disk : Disk) (path : Path) : Except Refusal Disk := do
  let (place, _) ← disk.look .entry path
  .ok { disk with contents := disk.contents.remove place }

/-- Move what stands at a path, and make the directories above its new place. -/
def rename (disk : Disk) (source target : Path) : Except Refusal Disk := do
  let prepared ← disk.makeParents target
  let (place, _) ← prepared.look .entry source
  let destination ← prepared.locate .entry target
  let contents ← prepared.contents.move place destination
  .ok { prepared with contents }

/-- The files below the working directory, by their paths from there. -/
def files (disk : Disk) : List (String × ByteArray) :=
  disk.contents.leaves.filterMap fun leaf =>
    match leaf.2 with
    | .link _ => none
    | .file number =>
        if disk.workingDirectory.isPrefixOf leaf.1 then
          some ("/".intercalate (leaf.1.drop disk.workingDirectory.length), disk.bytes number)
        else none

end Disk

end PageLinker
