import PageLinker.Catalog

/-!
# Places on a disk

The names on a disk stand for directories, files and symbolic links.  A file is known by its number
and can stand under several names.  A path is resolved step by step from the top or from the working
directory: `..` leads to the directory above, and a link leads to where it points, seen from the
directory that it stands in.  The last step may be a link that is not followed.
-/

namespace PageLinker

namespace Disk

/-- What a name can stand for apart from a directory. -/
inductive Node where
  | file (number : Nat)
  | link (target : String)
  deriving DecidableEq, Repr

/-- The number of a file.  Links have none. -/
def Node.number? : Node → Option Nat
  | .file number => some number
  | .link _ => none

/-- The names can lead to a place: none of them stands for another directory. -/
def IsPlace (route : Route) : Prop :=
  ∀ name ∈ route, IsComponent name ∧ name ≠ ".."

instance : DecidablePred IsPlace := fun route =>
  inferInstanceAs (Decidable (∀ name ∈ route, IsComponent name ∧ name ≠ ".."))

/-- The names on a disk, with what they stand for. -/
abbrev Contents := Catalog IsPlace Node

/-- What a path is resolved for, which decides about a link at its end. -/
inductive Purpose where
  /-- The entry itself is wanted, be it a link or not. -/
  | entry
  /-- What a link points to is wanted. -/
  | content
  /-- What a link points to is wanted, and is made if it is not there. -/
  | making
  deriving DecidableEq, Repr

/-- The steps that the target of a link stands for.  A slash at the end is an empty step behind
the last name; it asks for a directory, as a point does. -/
def linkSteps (target : String) : List String :=
  let steps := (Path.ofString target).components
  match (target.toList.splitOn '/').getLast? with
  | some [] => steps ++ [""]
  | some ['.'] => steps ++ ["."]
  | _ => steps

/-- The directory that a link is resolved from. -/
def linkStart (directory : Route) (target : String) : Route :=
  match (Path.ofString target).anchor with
  | .here => directory
  | _ => []

/-- Walk from a directory along the given steps.  `follow` goes on at a link, which is given by
the directory that it stands in and its target, with the steps behind it.  A name with a slash
behind it cannot be made. -/
def walkSteps (contents : Contents) (purpose : Purpose)
    (follow : Route → String → List String → Except Refusal Route) (directory : Route) :
    List String → Except Refusal Route
  | [] => .ok directory
  | step :: rest =>
      if step = "." ∨ step = "" then walkSteps contents purpose follow directory rest
      else if step = ".." then walkSteps contents purpose follow directory.dropLast rest
      else if purpose = .making ∧ rest = [""] then .error .isDirectory
      else
        let place := directory ++ [step]
        match contents.find? place with
        | some .directory => walkSteps contents purpose follow place rest
        | some (.leaf (.file _)) => if rest.isEmpty then .ok place else .error .notDirectory
        | some (.leaf (.link target)) =>
            if rest.isEmpty && purpose == .entry then .ok place else follow directory target rest
        | none => if rest.isEmpty then .ok place else .error .notFound

/-- Walk from a directory along the given steps through at most the given number of links. -/
def walk (contents : Contents) (purpose : Purpose) : Nat → Route → List String →
    Except Refusal Route
  | 0 => walkSteps contents purpose fun _ _ _ => .error .tooManyLinks
  | links + 1 => walkSteps contents purpose fun directory target rest =>
      walk contents purpose links (linkStart directory target) (linkSteps target ++ rest)

/-- How many links may lie on the way to a place. -/
def greatestLinkCount : Nat := 40

end Disk

end PageLinker
