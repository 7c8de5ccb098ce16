import PageLinker.Text.Quoted

/-!
# Naming policy

The base name of a page becomes an identifier of the index that lists it, and the component tag
under which other pages refer to it.  So a page name is one Latin capital followed by Latin
letters, digits and underscores.  The rules of the policy are checked in a fixed order, and the
first one that a name breaks is reported.
-/

namespace PageLinker

namespace Naming

/-- The rules of the policy, in the order in which they are checked. -/
inductive Rule where
  | notEmpty
  | allowedSymbols
  | latinCapital
  deriving DecidableEq, Repr

/-- What a name that breaks the rule is told. -/
def Rule.message : Rule → String
  | .notEmpty => "Page name is empty"
  | .allowedSymbols => "Page name contains illegal symbols"
  | .latinCapital => "Page name should start with a latin capital letter"

/-- A symbol that a name may hold: a Latin letter, a decimal digit or an underscore. -/
def isSymbol (c : Char) : Bool :=
  c.isAlphanum || c == '_'

/-- The first rule that a sequence of characters breaks. -/
def brokenRule : List Char → Option Rule
  | [] => some .notEmpty
  | first :: rest =>
      if !(first :: rest).all isSymbol then some .allowedSymbols
      else if !first.isUpper then some .latinCapital
      else none

/-- The first rule that a name breaks. -/
def check (name : String) : Option Rule :=
  brokenRule name.toList

/-- A badly named page, with the group and the file in which it was found, if they are known. -/
structure Violation where
  name : String
  rule : Rule
  group : Option String
  filename : Option String
  deriving DecidableEq, Repr

/-- The group as it stands in front of a file name.  A group without a name leaves no trace. -/
def groupLead : Option String → String
  | none => ""
  | some group => if group == "" then "" else group ++ "/"

/-- What the report points at: the file if it has a name, else the quoted page name. -/
def Violation.target (violation : Violation) : String :=
  match violation.filename with
  | none => Quoted.quoted violation.name
  | some filename => if filename == "" then Quoted.quoted violation.name else filename

def Violation.message (violation : Violation) : String :=
  violation.rule.message ++ ": " ++ groupLead violation.group ++ violation.target

/-- Accept a name, or report the first rule that it breaks. -/
def validate (name : String) (group : Option String) (filename : Option String) :
    Except Violation Unit :=
  match check name with
  | none => .ok ()
  | some rule => .error ⟨name, rule, group, filename⟩

/-- Accept a list of names, or report the first bad one. -/
def validateAll (group : Option String) : List String → Except Violation Unit
  | [] => .ok ()
  | name :: rest => do
      validate name group none
      validateAll group rest

end Naming

end PageLinker
