/-!
# Journal of a run

A run leaves records of what it has done.  A record names the part of the work that it comes from
and how much it matters.
-/

namespace PageLinker

/-- The part of the work that a record comes from. -/
inductive Origin where
  | imports
  | index
  | build
  deriving DecidableEq, Repr

/-- The name of a part of the work, as it stands in a record. -/
def Origin.text : Origin → String
  | .imports => "pagegen.imports"
  | .index => "pagegen.indexing.synthesizer"
  | .build => "pagegen.pipeline"

/-- How much a record matters. -/
inductive Level where
  | debug
  | info
  deriving DecidableEq, Repr

def Level.text : Level → String
  | .debug => "DEBUG"
  | .info => "INFO"

/-- One record of the journal. -/
structure Record where
  origin : Origin
  level : Level
  message : String
  deriving DecidableEq, Repr

/-- The record as a line of the log file. -/
def Record.logLine (record : Record) : String :=
  record.origin.text ++ " " ++ record.level.text ++ " " ++ record.message

/-- The record as it is shown while the run goes on. -/
def Record.progressLine (record : Record) : String :=
  record.origin.text ++ ": " ++ record.message

end PageLinker
