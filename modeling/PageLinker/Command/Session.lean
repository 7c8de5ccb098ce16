import PageLinker.Command.Arguments
import PageLinker.Command.Script
import PageLinker.Console.Wide

/-!
# Running a command on a disk

What someone who runs a command gets to see: the exit code, the failure or the trouble with the
console if one stopped the command, the printed text, the progress shown, and the records of the
log if a log was opened.
-/

namespace PageLinker

namespace Command

/-- What is seen of a command. -/
structure Display where
  exitCode : Nat
  failure : Option Failure
  trouble : Option Console.Trouble
  printed : String
  progress : String
  log : Option (List Record)

/-- The exit code of a command line that makes no sense. -/
def usageExitCode : Nat := 2

/-- The exit code of a command that was stopped. -/
def failureExitCode : Nat := 1

/-- What is seen of the run of a command. -/
def display (command : Command)
    (outcome : Outcome Shell.Request Disk (Except Console.Trouble Nat)) : Display :=
  let records := outcome.granted.filterMap (·.noted?)
  { exitCode := match outcome.result with
      | .ok (.ok code) => code
      | _ => failureExitCode
    failure := match outcome.result with
      | .ok _ => none
      | .error failure => some failure
    trouble := match outcome.result with
      | .ok (.error trouble) => some trouble
      | _ => none
    printed := String.join (outcome.granted.filterMap (·.printed?))
    progress :=
      if command.showsProgress then Lines.terminated (records.map (·.progressLine)) else ""
    log := if outcome.granted.contains .openLog then some records else none }

/-- Run a command on a disk, with a console to print on. -/
def run (command : Command) (environment : Option String) (disk : Disk)
    (console : Console := .wide) : Display × Disk :=
  let outcome := (command.script console environment).run.run Shell.handle disk
  (command.display outcome, outcome.state)

end Command

end PageLinker
