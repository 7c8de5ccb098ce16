import PageLinker.Access
import PageLinker.Catalog

/-!
# Storage in memory

A storage that keeps texts under the steps of their paths.  `..` is a name like any other, an
anchor is a first step of its own, and a directory enumerates its entries in the order in which
they were made.  Single accesses can be denied.
-/

namespace PageLinker

/-- Texts in memory. -/
abbrev Memory := Catalog Path.AreSteps String

namespace Memory

/-- The names of the entries of a directory. -/
def list (memory : Memory) (path : Path) : Except Refusal (List String) :=
  match memory.find? path.steps with
  | some .directory => .ok (memory.names path.steps)
  | some (.leaf _) => .error .notDirectory
  | none => .error (memory.absence path.steps)

def holdsDirectory (memory : Memory) (path : Path) : Except Refusal Bool :=
  match memory.find? path.steps with
  | some entry => .ok entry.isDirectory
  | none => .error (memory.absence path.steps)

def read (memory : Memory) (path : Path) : Except Refusal String :=
  match memory.find? path.steps with
  | some (.leaf text) => .ok text
  | some .directory => .error .isDirectory
  | none => .error (memory.absence path.steps)

def handle (denied : Denial) : Handler Workspace.Request Memory
  | .listDir path, memory =>
      denied.guarded .listDir path ((memory.list path).map (·, memory))
  | .isDir path, memory =>
      denied.guarded .isDir path ((memory.holdsDirectory path).map (·, memory))
  | .readText path, memory =>
      denied.guarded .readText path ((memory.read path).map (·, memory))
  | .writeText path content, memory =>
      denied.guarded .writeText path ((memory.write path.steps content).map ((), ·))
  | .note _, memory => .ok ((), memory)

def makeDirectory (memory : Memory) (path : Path) : Except Refusal Memory :=
  memory.ensureDirectories path.steps

/-- Make a file and the directories above it. -/
def makeFile (memory : Memory) (path : Path) (text : String) : Except Refusal Memory := do
  let prepared ← memory.ensureDirectories path.steps.dropLast
  prepared.write path.steps text

def erase (memory : Memory) (path : Path) : Except Refusal Memory :=
  match memory.find? path.steps with
  | some _ => .ok (memory.remove path.steps)
  | none => .error (memory.absence path.steps)

/-- Move what stands at a path, and make the directories above its new place. -/
def rename (memory : Memory) (source target : Path) : Except Refusal Memory := do
  let prepared ← memory.ensureDirectories target.steps.dropLast
  prepared.move source.steps target.steps

/-- The texts with the written form of their paths. -/
def files (memory : Memory) : List (String × String) :=
  memory.leaves.map fun file => ((Path.ofSteps file.1).toString, file.2)

end Memory

end PageLinker
