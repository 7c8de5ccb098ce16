import PageLinker.Naming

/-!
# Clashing pages

Two files of one group clash when they strip to the same page name, as `Intro.js` and `Intro.JS`
do.
-/

namespace PageLinker

/-- A page name that several files of a group claim. -/
structure Clash where
  name : String
  filenames : List String
  group : Option String
  deriving DecidableEq, Repr

/-- The report of a clash: the quoted name, then every claiming file. -/
def Clash.message (clash : Clash) : String :=
  "Page name " ++ Quoted.quoted clash.name ++ " is used by more than one file: " ++
    ", ".intercalate (clash.filenames.map (Naming.groupLead clash.group ++ ·))

end PageLinker
