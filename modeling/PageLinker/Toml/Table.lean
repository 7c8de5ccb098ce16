import PageLinker.Toml.Value

/-!
# Tables under construction

A table is filled by following a key from the outermost name inwards.  Tables that are missing on
the way are made, and a list of tables is followed into its last table.
-/

namespace PageLinker

namespace Toml

namespace Fields

def find? (fields : Fields) (name : String) : Option Value :=
  List.lookup name fields

/-- Give a name a value, in its place or at the end. -/
def assign (name : String) (value : Value) : Fields → Fields
  | [] => [(name, value)]
  | (other, old) :: rest =>
      if other == name then (name, value) :: rest else (other, old) :: assign name value rest

/-- Give a name a value that it does not have yet. -/
def add (name : String) (value : Value) (fields : Fields) : Option Fields :=
  match fields.find? name with
  | none => some (fields ++ [(name, value)])
  | some _ => none

/-- Start a new table at the end of the list of tables of that name. -/
def startTable (name : String) (fields : Fields) : Option Fields :=
  match fields.find? name with
  | none => some (fields ++ [(name, .array [.table []])])
  | some (.array items) => some (fields.assign name (.array (items ++ [.table []])))
  | some _ => none

/-- Change the table that a key leads to.  `intoLists` says whether a list on the way stands for
its last table. -/
def change (intoLists : Bool) (update : Fields → Option Fields) : Key → Fields → Option Fields
  | [], fields => update fields
  | name :: rest, fields =>
      match fields.find? name with
      | none =>
          (change intoLists update rest []).map fun inner => fields ++ [(name, .table inner)]
      | some (.table inner) =>
          (change intoLists update rest inner).map fun changed =>
            fields.assign name (.table changed)
      | some (.array items) =>
          match intoLists, items.getLast? with
          | true, some (.table inner) =>
              (change intoLists update rest inner).map fun changed =>
                fields.assign name (.array (items.dropLast ++ [.table changed]))
          | _, _ => none
      | some _ => none

end Fields

/-- Some part of the key, from its start on, is among the given keys. -/
def Key.isWithin (key : Key) (keys : List Key) : Bool :=
  keys.any (·.isPrefixOf key)

end Toml

end PageLinker
