import PageLinker.Binary64
import PageLinker.Toml.Moment

/-!
# Values of a TOML document

A value is a scalar, a list of values, or a table.  Tables keep their keys in the order in which
they were first written.
-/

namespace PageLinker

namespace Toml

/-- A value of a document. -/
inductive Value where
  | text (content : String)
  | integer (number : Int)
  | float (number : Binary64)
  | boolean (truth : Bool)
  | moment (point : Moment)
  | array (items : List Value)
  | table (fields : List (String × Value))

/-- The keys of a table with their values. -/
abbrev Fields := List (String × Value)

/-- A key: the names that lead to a value, the outermost first. -/
abbrev Key := List String

namespace Value

/-- The value counts as given.  Empty texts, lists and tables do not, nor do zeros and `false`. -/
def isGiven : Value → Bool
  | .text content => content != ""
  | .integer number => number != 0
  | .float number => !number.isZero
  | .boolean truth => truth
  | .moment _ => true
  | .array items => !items.isEmpty
  | .table fields => !fields.isEmpty

def text? : Value → Option String
  | .text content => some content
  | _ => none

/-- The value has other values inside. -/
def isContainer : Value → Bool
  | .array _ => true
  | .table _ => true
  | _ => false

end Value

end Toml

end PageLinker
