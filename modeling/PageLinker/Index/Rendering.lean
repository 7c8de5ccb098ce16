import PageLinker.Index.Entry
import PageLinker.Text.Lines
import PageLinker.Naming

/-!
# Text of an index

The import lines come first, then a blank line and the default export with one property per line.
A comma follows every property but the last.
-/

namespace PageLinker

namespace IndexEntry

def importLine (entry : IndexEntry) : String :=
  "import " ++ entry.name ++ " from '" ++ entry.source ++ "'"

def property (entry : IndexEntry) : String :=
  if entry.isShorthand then entry.name else entry.key ++ ": " ++ entry.name

def propertyLines : List IndexEntry → List String
  | [] => []
  | [last] => ["  " ++ last.property]
  | entry :: rest => ("  " ++ entry.property ++ ",") :: propertyLines rest

/-- The text of an index with the given entries. -/
def render (entries : List IndexEntry) : String :=
  Lines.terminated (entries.map importLine ++ ["", "export default \x7b"] ++
    propertyLines entries ++ ["\x7d"])

def renderGroups (groupNames : List String) : String :=
  render (ofGroups groupNames)

/-- The text of the index of a group, or the first name that breaks the policy. -/
def renderMembers (group : Option String) (memberNames : List String) :
    Except Naming.Violation String := do
  Naming.validateAll group memberNames
  pure (render (ofMembers memberNames))

end IndexEntry

end PageLinker
