import PageLinker.Build
import PageLinker.Command
import PageLinker.Shell

/-!
# What commands do

Each command is a script.  It ends with an exit code, zero for success.  Failures that lie in the
pages are printed and end the command with one; any other failure stops it where it stands.  Paths
and reports go to the console within marked lines, as they are.  Only the text of a preview is
printed verbatim.
-/

namespace PageLinker

namespace Command

open Console (Line)

variable (console : Console)

section Lines

/-- The lines that a preview of a file consists of. -/
def previewTitle (path : Path) : Line :=
  .marked s!"[bold]{path}[/bold]"

def previewText (text : String) : Line :=
  .verbatim (ImportBlock.complete text)

/-- A file by its path. -/
def pathLine (path : Path) : Line :=
  .marked s!"  {path}"

def reportLine (report : String) : Line :=
  .marked s!"[red]{report}[/red]"

def announceIndexes (files : List IndexFile) : List Line :=
  .marked s!"[bold green]Done![/bold green] Wrote {files.length} index files:" ::
    files.map fun file => pathLine file.path

/-- Say how many files a build dealt with. -/
def announceBuild (report : BuildReport) : List Line :=
  .marked (s!"[bold green]Done![/bold green] {report.pageFiles.length} pages, " ++
      s!"{report.indexFiles.length} index files.") ::
    if report.skippedFiles.isEmpty then []
    else [.marked s!"[dim]{report.skippedFiles.length} pages already had imports.[/dim]"]

end Lines

/-- Complete one file, or print what it would become. -/
def importFile (preview : Bool) (path : Path) : ConsoleScript Unit :=
  if preview then do
    Script.printLines console [previewTitle path]
    let text ← ExceptT.lift (Script.ofTask (Task.readText path))
    Script.printLines console [previewText text]
  else do
    let _ ← ExceptT.lift (Script.ofTask (Task.completeFile path))
    Script.printLines console [pathLine path]

def importFiles (preview : Bool) : List Path → ConsoleScript Unit
  | [] => pure ()
  | path :: rest => do
      importFile console preview path
      importFiles preview rest

/-- Print lines and end with an exit code. -/
def conclude (lines : List Line) (code : Nat) : ConsoleScript Nat := do
  Script.printLines console lines
  pure code

/-- Print a failure that lies in the pages, and end with one. -/
def reportPages (failure : Failure) : ConsoleScript Nat :=
  match failure.pageReport with
  | some report => conclude console [reportLine report] 1
  | none => .mk (.fail failure)

/-- Carry out a task and announce what it came to, or report that it failed in the pages. -/
def carryOut {α : Type} (task : Task α) (announce : α → List Line) : ConsoleScript Nat :=
  .mk ((Script.ofTask task >>= fun value => (conclude console (announce value) 0).run).rescue
    fun failure => (reportPages console failure).run)

/-- The settings of a command.  A root on the command line stands for the build directory. -/
def loadSettings (root settingsFile : Option Path) : Script Settings := do
  let settings ← Script.loadSettings settingsFile
  match root with
  | none => pure settings
  | some path => pure { settings with directory := .text path.toString }

/-- Write the indexes of the build tree that the settings name. -/
def indexTask (settings : Settings) (environment : Option String) : Task (List IndexFile) := do
  let root ← .ofExcept (settings.buildDirectory environment)
  Task.writeIndexes root settings.layout

/-- Make a settings file unless there is one. -/
def initialise (directory : Path) : ConsoleScript Nat := do
  let target := directory.join "pagegen.toml"
  if ← Script.isPresent target then
    conclude console [.marked s!"[yellow]{target} already exists.[/yellow]"] 1
  else
    ExceptT.lift (Script.ofTask (Task.writeText target Settings.template))
    conclude console [.marked s!"[green]Created {target}[/green]"] 0

def script (environment : Option String) : Command → ConsoleScript Nat
  | .imports files preview => do
      importFiles console preview files
      pure 0
  | .index root settingsFile _ => do
      Script.openLog
      let settings ← loadSettings root settingsFile
      carryOut console (indexTask settings environment) announceIndexes
  | .build root settingsFile _ => do
      Script.openLog
      let settings ← loadSettings root settingsFile
      carryOut console (Task.build settings environment none) announceBuild
  | .init directory => initialise console directory
  | .help => pure 0

/-- The command keeps a log. -/
def opensLog : Command → Bool
  | .index _ _ _ => true
  | .build _ _ _ => true
  | _ => false

/-- The command shows its progress while it runs. -/
def showsProgress : Command → Bool
  | .index _ _ showProgress => showProgress
  | .build _ _ showProgress => showProgress
  | _ => false

end Command

end PageLinker
