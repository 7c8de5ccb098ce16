import PageLinker.Tree.Group
import PageLinker.Tree.Layout

/-!
# Pages of a group directory

The pages of a group are the entries that have the extension, the index file apart, ordered by
base name.  Two entries with one base name clash.
-/

namespace PageLinker

namespace Members

/-- Put a page in its place among pages ordered by base name.  A page that has the base name
already is returned instead. -/
def insert (page : Member) : List Member → Except Member (List Member)
  | [] => .ok [page]
  | first :: rest =>
      if page.base = first.base then .error first
      else if page.base < first.base then .ok (page :: first :: rest)
      else (insert page rest).map (first :: ·)

/-- Two file names in code point order. -/
def inOrder (first second : String) : List String :=
  if second < first then [second, first] else [first, second]

/-- Add the pages among the listed entries to those found so far. -/
def collectInto (layout : Layout) (group : String) (found : List Member) :
    List String → Except Failure (List Member)
  | [] => .ok found
  | filename :: rest =>
      if layout.isIndex filename then collectInto layout group found rest
      else
        match layout.base? filename with
        | .error failure => .error failure
        | .ok none => collectInto layout group found rest
        | .ok (some base) =>
            match insert ⟨base, filename⟩ found with
            | .error earlier =>
                .error (.clash ⟨base, inOrder earlier.filename filename, some group⟩)
            | .ok extended => collectInto layout group extended rest

/-- The pages among the listed entries of a group directory. -/
def collect (layout : Layout) (group : String) (filenames : List String) :
    Except Failure (List Member) :=
  collectInto layout group [] filenames

end Members

end PageLinker
