import PageLinker.Path
import PageLinker.Text.LetterCase

/-!
# Entries of an index

An index imports modules and exports them under keys.  The root index exports a group under its
own name; the index of a group exports a page under its name in lower case.
-/

namespace PageLinker

/-- A module of an index, with the key under which it is exported. -/
structure IndexEntry where
  key : String
  name : String
  deriving DecidableEq, Repr

namespace IndexEntry

/-- Where the module stands, seen from the index. -/
def source (entry : IndexEntry) : String :=
  "./" ++ entry.name

/-- Key and name coincide, so that the name alone is exported. -/
def isShorthand (entry : IndexEntry) : Bool :=
  entry.key == entry.name

def ofGroups (groupNames : List String) : List IndexEntry :=
  groupNames.map fun name => ⟨name, name⟩

/-- The entries of the index of a group. -/
def ofMembers (memberNames : List String) : List IndexEntry :=
  memberNames.map fun name => ⟨LetterCase.lower name, name⟩

end IndexEntry

/-- An index file with its place, its text and the entries that it exports. -/
structure IndexFile where
  path : Path
  content : String
  entries : List IndexEntry
  deriving DecidableEq

end PageLinker
