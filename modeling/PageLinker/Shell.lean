import PageLinker.Console
import PageLinker.Disk
import PageLinker.Settings

/-!
# Surroundings of a command

What a command asks for besides the build tree: whether a file is there, the bytes of a file, the
log file, and printing.  The lines of the log carry the time of day, so they are not part of the
disk: opening the log makes an empty file, and the records are kept beside it.  A log that is read
under another name while it is written is not considered.

Commands print on a console.  Where it refuses a line, the script ends with its trouble; a failure
stops the script as it does elsewhere.
-/

namespace PageLinker

namespace Shell

/-- A request of a command. -/
inductive Request where
  | workspace (request : Workspace.Request)
  | isPresent (path : Path)
  | readBytes (path : Path)
  | openLog
  | print (text : String)
  deriving DecidableEq

instance : Interface Request where
  Answer
    | .workspace request => Interface.Answer request
    | .isPresent _ => Bool
    | .readBytes _ => ByteArray
    | .openLog => Unit
    | .print _ => Unit

/-- Where the log of a command is kept. -/
def logPath : Path := Path.here.join ".pagegen.log"

/-- Grant or refuse a request on a disk. -/
def handle : Handler Request Disk
  | .workspace request, disk => Disk.handle request disk
  | .isPresent path, disk => .ok (disk.isPresent path, disk)
  | .readBytes path, disk => Failure.about path ((disk.readBytes path).map (·, disk))
  | .openLog, disk =>
      Failure.about logPath ((disk.writeBytes logPath ByteArray.empty).map ((), ·))
  | .print _, disk => .ok ((), disk)

/-- The text that a request prints when it is granted. -/
def Request.printed? : Request → Option String
  | .print text => some text
  | _ => none

/-- The record that a request leaves when it is granted. -/
def Request.noted? : Request → Option Record
  | .workspace request => request.noted?
  | _ => none

end Shell

abbrev Script := Program Shell.Request

/-- A script that can run into trouble with a console. -/
abbrev ConsoleScript := ExceptT Console.Trouble Script

namespace Script

def ofTask {α : Type} (task : Task α) : Script α :=
  task.lift .workspace fun _ answer => answer

/-- Work on the build tree does to a disk what it does without the command around it. -/
theorem run_ofTask {α : Type} (task : Task α) (disk : Disk) :
    (ofTask task).run Shell.handle disk =
      let outcome := task.run Disk.handle disk
      ⟨outcome.result, outcome.state, outcome.granted.map .workspace⟩ := by
  induction task generalizing disk with
  | done value => rfl
  | fail failure => rfl
  | ask request answered ih =>
      have wide : Shell.handle (.workspace request) disk = Disk.handle request disk := rfl
      simp only [ofTask, Program.lift, Program.run, wide]
      cases Disk.handle request disk with
      | error failure => rfl
      | ok granted =>
          have rest := ih granted.1 granted.2
          rw [ofTask] at rest
          simp [rest]

def isPresent (path : Path) : Script Bool :=
  .request (Shell.Request.isPresent path)

def readBytes (path : Path) : Script ByteArray :=
  .request (Shell.Request.readBytes path)

def openLog : Script Unit :=
  .request Shell.Request.openLog

def print (text : String) : Script Unit :=
  .request (Shell.Request.print text)

/-- The settings of a file.  Without the file they are the defaults. -/
def loadSettings (path : Option Path) : Script Settings := do
  let path := path.getD Settings.defaultPath
  if ← isPresent path then
    let content ← readBytes path
    .ofExcept (Settings.parse content)
  else pure {}

/-- Print lines on a console. -/
def printLines (console : Console) : List Console.Line → ConsoleScript Unit
  | [] => pure ()
  | line :: rest => do
      let text ← console.render line
      print text
      printLines console rest

end Script

end PageLinker
