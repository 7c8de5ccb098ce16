import PageLinker.Text.Lines
import PageLinker.Toml.Statement

/-!
# TOML documents

A document is built statement by statement.  A table may be opened by one header only, a table
that dotted keys have made may not be opened by a header at all, and a value that is written as a
list or an inline table is closed: nothing can be added to it later.
-/

namespace PageLinker

namespace Toml

/-- A document under construction. -/
structure Draft where
  fields : Fields := []
  /-- The table that assignments go to. -/
  header : Key := []
  /-- Tables that have been opened, and may not be opened again. -/
  opened : List Key := []
  /-- Values that nothing can be added to. -/
  closed : List Key := []
  /-- Tables that dotted keys have made since the last header. -/
  dotted : List Key := []

namespace Draft

/-- The tables made by dotted keys count as opened from the next header on. -/
def settle (draft : Draft) : Draft :=
  { draft with opened := draft.dotted ++ draft.opened, dotted := [] }

def openTable (draft : Draft) (key : Key) : Option Draft :=
  if draft.opened.contains key || key.isWithin draft.closed then none
  else
    (draft.fields.change true some key).map fun fields =>
      { draft with fields, header := key, opened := key :: draft.opened }

/-- Start a new table of a list by its header.  What was said about the tables inside the one
before no longer holds. -/
def startTable (draft : Draft) (key : Key) : Option Draft :=
  if key.isWithin draft.closed then none
  else
    (draft.fields.change true (Fields.startTable (key.getLast?.getD "")) key.dropLast).map
      fun fields =>
        { draft with
          fields
          header := key
          opened := key :: draft.opened.filter fun other => !key.isPrefixOf other
          closed := draft.closed.filter fun other => !key.isPrefixOf other }

/-- The tables that a dotted key passes through below the current header. -/
def passedTables (header key : Key) : List Key :=
  (List.range (key.length - 1)).map fun (count : Nat) => header ++ key.take (count + 1)

/-- Give a key a value in the current table. -/
def assign (draft : Draft) (key : Key) (value : Value) : Option Draft :=
  let passed := passedTables draft.header key
  let parent := draft.header ++ key.dropLast
  if passed.any draft.opened.contains || parent.isWithin draft.closed then none
  else
    (draft.fields.change true (Fields.add (key.getLast?.getD "") value) parent).map fun fields =>
      { draft with
        fields
        dotted := passed ++ draft.dotted
        closed :=
          if value.isContainer then (draft.header ++ key) :: draft.closed else draft.closed }

def apply (draft : Draft) : Statement → Option Draft
  | .openTable key => draft.settle.openTable key
  | .startTable key => draft.settle.startTable key
  | .assign key value => draft.assign key value

end Draft

def build (draft : Draft) : List Statement → Option Draft
  | [] => some draft
  | statement :: rest => (draft.apply statement).bind fun next => build next rest

/-- The top-level table of a document, if it is well formed. -/
def parse (text : String) : Option Fields :=
  let unified := Lines.joinPairs text.toList
  (statements (2 * unified.length + 3) unified).bind fun read => (build {} read).map (·.fields)

end Toml

end PageLinker
