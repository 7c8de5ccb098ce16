import PageLinker.Command.Session

/-!
# The program

The requests of a command are granted by the file system that the program runs on.
-/

namespace PageLinker

namespace Main

/-- Why the file system refuses a request. -/
def refusalOf : IO.Error → Refusal
  | .noFileOrDirectory _ _ _ => .notFound
  | .inappropriateType _ code _ => if code == 21 then .isDirectory else .notDirectory
  | .invalidArgument _ _ _ => .tooManyLinks
  | _ => .denied

/-- The answer of the file system to a request about a path. -/
def asked {α : Type} (path : Path) (action : IO α) : IO (Except Failure α) := do
  match ← action.toBaseIO with
  | .ok answer => pure (.ok answer)
  | .error problem => pure (.error (.refused (refusalOf problem) path))

/-- Leave a record in the log and, if wanted, on the error output. -/
def note (command : Command) (record : Record) : IO Unit := do
  if command.opensLog then
    let log ← IO.FS.Handle.mk Shell.logPath.toString .append
    log.putStr (record.logLine ++ "\n")
  if command.showsProgress then IO.eprintln record.progressLine

def perform (command : Command) :
    (request : Shell.Request) → IO (Except Failure (Interface.Answer request))
  | .workspace (.listDir path) => asked path do
      let place := (← IO.currentDir) / path.toString
      pure ((← place.readDir).toList.map (·.fileName))
  | .workspace (.isDir path) => asked path do
      let place := (← IO.currentDir) / path.toString
      pure ((← place.symlinkMetadata).type == .dir)
  | .workspace (.readText path) => do
      match ← asked path (IO.FS.readBinFile path.toString) with
      | .error failure => pure (.error failure)
      | .ok content => pure (Disk.decode content)
  | .workspace (.writeText path content) => asked path (IO.FS.writeFile path.toString content)
  | .workspace (.note record) => do
      note command record
      pure (.ok ())
  | .isPresent path => do
      let place := (← IO.currentDir) / path.toString
      pure (.ok (← place.pathExists))
  | .readBytes path => asked path (IO.FS.readBinFile path.toString)
  | .openLog => asked Shell.logPath (IO.FS.writeFile Shell.logPath.toString "")
  | .print text => do
      IO.print text
      pure (.ok ())

def interpret {α : Type} (command : Command) : Script α → IO (Except Failure α)
  | .done value => pure (.ok value)
  | .fail failure => pure (.error failure)
  | .ask request answered => do
      match ← perform command request with
      | .error failure => pure (.error failure)
      | .ok answer => interpret command (answered answer)

def usage : String :=
  Lines.terminated
    ["Add component imports and index files to a compiled page build.",
     "",
     "  imports FILES... [--dry-run]",
     "  index [--root DIR] [--config FILE] [--debug]",
     "  build [--root DIR] [--config FILE] [--debug]",
     "  init [--path DIR]"]

end Main

end PageLinker

/-- Run the command that the arguments ask for. -/
def main (arguments : List String) : IO UInt32 := do
  match PageLinker.Command.ofArguments arguments with
  | none =>
      IO.eprint PageLinker.Main.usage
      pure PageLinker.Command.usageExitCode.toUInt32
  | some .help =>
      IO.print PageLinker.Main.usage
      pure 0
  | some command =>
      let environment ← IO.getEnv PageLinker.Settings.directoryVariable
      match ← PageLinker.Main.interpret command (command.script .wide environment).run with
      | .ok (.ok code) => pure code.toUInt32
      | .ok (.error trouble) =>
          IO.eprintln trouble.reason
          pure PageLinker.Command.failureExitCode.toUInt32
      | .error failure =>
          IO.eprintln failure.message
          pure PageLinker.Command.failureExitCode.toUInt32
