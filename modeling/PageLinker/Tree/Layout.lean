import PageLinker.Failure
import PageLinker.Text.LetterCase

/-!
# Layout of a group directory

The layout tells the page files of a group by their extension, and sets apart the index file,
which stands among them.
-/

namespace PageLinker

/-- How the files of a build tree are named.  A part that was set to something other than a text
is missing here, and fails only when it is needed. -/
structure Layout where
  extension : Option String := some ".js"
  indexFile : Option String := some "index.js"
  deriving DecidableEq, Repr

namespace Layout

/-- How many characters of a file name stay when the extension is cut off.  Of an extension longer
than the name, only the length by which it is longer is cut off. -/
def stemLength (filenameLength extensionLength : Nat) : Nat :=
  if extensionLength ≤ filenameLength then filenameLength - extensionLength
  else filenameLength - (extensionLength - filenameLength)

/-- The base name of a file with the extension.  Case is ignored in the comparison, and the cut
counts characters as they are written. -/
def stripExtension (filename : String) (extension : String) : Option String :=
  if (LetterCase.lower extension).toList.isSuffixOf (LetterCase.lower filename).toList then
    some (String.ofList (filename.toList.take (stemLength filename.length extension.length)))
  else none

/-- The file is the index of its directory. -/
def isIndex (layout : Layout) (filename : String) : Bool :=
  layout.indexFile == some filename

/-- The base name of a file, if it is a page. -/
def base? (layout : Layout) (filename : String) : Except Failure (Option String) :=
  match layout.extension with
  | some extension => .ok (stripExtension filename extension)
  | none => .error (.mistyped .extension)

def indexPath (layout : Layout) (directory : Path) : Except Failure Path :=
  match layout.indexFile with
  | some indexFile => .ok (directory.join indexFile)
  | none => .error (.mistyped .indexFile)

end Layout

end PageLinker
