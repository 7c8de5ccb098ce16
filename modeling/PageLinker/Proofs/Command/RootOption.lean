import PageLinker.Proofs.Build.Effects
import PageLinker.Proofs.Command.Printing
import PageLinker.Proofs.Disk.Completing

/-!
# Commands with a root

A command that is given a root does to the disk what the task does that is given it directly,
whatever settings and environment say about the build directory.  The root is written into the
settings and read back, which neither changes it nor makes it count as missing.
-/

namespace PageLinker

namespace Path

theorem toString_ne_empty (path : Path) : path.toString ≠ "" := by
  intro empty
  have read := ofString_toString path
  rw [empty] at read
  rw [← read] at empty
  exact absurd empty (by decide)

end Path

theorem Settings.root_of_written (settings : Settings) (path : Path)
    (environment : Option String) :
    Settings.root { settings with directory := .text path.toString } environment none =
      .ok path := by
  have given : Toml.Value.isGiven (.text path.toString) = true := by
    simpa [Toml.Value.isGiven] using path.toString_ne_empty
  unfold root buildDirectory
  rw [if_pos given]
  exact congrArg Except.ok (Path.ofString_toString path)

namespace Failure

theorem pageReport_of_about {α : Type} {path : Path} {answer : Except Refusal α}
    {failure : Failure} (failed : about path answer = .error failure) :
    failure.pageReport = none := by
  obtain ⟨refusal, -, rfl⟩ := about_eq_error.mp failed
  rfl

end Failure

/-- A text that cannot be read lies in no page, be it refused or no text. -/
theorem Disk.pageReport_of_readText {disk : Disk} {path : Path} {failure : Failure}
    (failed : disk.readText path = .error failure) : failure.pageReport = none := by
  rw [readText] at failed
  cases answered : Failure.about path (disk.readBytes path) with
  | error own =>
      rw [answered] at failed
      cases failed
      exact Failure.pageReport_of_about answered
  | ok content =>
      rw [answered, except_ok_bind, decode] at failed
      cases text : String.fromUTF8? content with
      | some found =>
          rw [text] at failed
          cases failed
      | none =>
          rw [text] at failed
          cases failed
          rfl

namespace Shell

/-- The request asks about the disk, and neither prints nor changes anything. -/
def Request.IsQuestion : Request → Prop
  | .isPresent _ | .readBytes _ => True
  | _ => False

/-- No request is refused with a failure that lies in the pages. -/
theorem pageReport_of_refused {request : Request} {disk : Disk} {failure : Failure}
    (refused : handle request disk = .error failure) : failure.pageReport = none := by
  cases request with
  | workspace request =>
      cases request with
      | readText path => exact Disk.pageReport_of_readText (except_map_eq_error.mp refused)
      | listDir path | isDir path | writeText path content =>
          exact Failure.pageReport_of_about refused
      | note record => cases refused
  | readBytes path | openLog => exact Failure.pageReport_of_about refused
  | isPresent path | print text => cases refused

end Shell

namespace Disk

/-- The place of the log. -/
def logPlace (disk : Disk) : Route :=
  disk.workingDirectory ++ [".pagegen.log"]

/-- The log is there and empty.  It has no other name, under which what is written to it could be
read. -/
structure HasEmptyLog (disk : Disk) : Prop where
  empty : disk.find? disk.logPlace = some (.leaf (.file ByteArray.empty))
  alone : ∀ route, disk.SameFile disk.logPlace route → route = disk.logPlace

end Disk

namespace Script

open Shell (Request)

variable {disk : Disk}

/-- A script that only asks about the disk leaves it as it is and prints nothing. -/
theorem prints_of_questions {α : Type} {script : Script α} {value : α}
    (asks : script.Within Request.IsQuestion)
    (found : (script.run Shell.handle disk).result = .ok value) :
    script.Prints disk value "" disk := by
  refine ⟨⟨found, asks.state_eq ?_ disk⟩, ?_⟩
  · intro request state granted question answered
    cases request with
    | isPresent path =>
        cases answered
        rfl
    | readBytes path =>
        obtain ⟨content, -, rfl⟩ := except_map_eq_ok.mp (Failure.about_eq_ok.mp answered)
        rfl
    | workspace request => exact question.elim
    | openLog => exact question.elim
    | print text => exact question.elim
  · have nothing : (script.run Shell.handle disk).granted.filterMap (·.printed?) = [] := by
      rw [List.filterMap_eq_nil_iff]
      intro request granted
      have question := asks.granted_allowed Shell.handle disk request granted
      cases request with
      | print text => exact question.elim
      | workspace request | isPresent path | readBytes path | openLog => rfl
    rw [Outcome.printed, nothing]
    rfl

theorem loadSettings_asks (path : Option Path) :
    (loadSettings path).Within Request.IsQuestion := by
  refine .bind (.request trivial) fun present => ?_
  split
  · exact .bind (.request trivial) fun content => .ofExcept _
  · trivial

/-- Opening a log that is empty already changes nothing. -/
theorem openLog_prints (log : disk.HasEmptyLog) : openLog.Prints disk () "" disk := by
  obtain ⟨number, stands, empty⟩ := Disk.find?_eq_file_iff.mp log.empty
  have noLink : ∀ target, disk.contents.find? disk.logPlace ≠ some (.leaf (.link target)) := by
    simp [stands]
  have located : disk.locate .making Shell.logPath = .ok disk.logPlace :=
    Disk.locate_here (by decide) (by decide) noLink .making
  have same : disk.writeBytes Shell.logPath ByteArray.empty = .ok disk := by
    rw [Disk.writeBytes, located, except_ok_bind, Disk.store_of_file stands,
      Disk.refill_same empty]
  have granted : Shell.handle .openLog disk = .ok ((), disk) := by
    rw [Shell.handle, same]
    rfl
  refine ⟨Program.yields_request.mpr granted, ?_⟩
  rw [openLog, Program.run_request, granted]
  rfl

end Script

namespace Command

open Console (Line)

variable {α : Type} {command : Command} {environment : Option String} {console : Console}
  {disk : Disk} {announce : α → List Line}

/-- A command does to a disk what a task does, and tells how the task ended.  What it came to is
announced, a failure that lies in the pages is reported, and any other one escapes. -/
structure Refines (command : Command) (environment : Option String) (console : Console)
    (disk : Disk) (library : Outcome Workspace.Request Disk α) (announce : α → List Line) :
    Prop where
  state : (command.run environment disk console).2 = library.state
  success : ∀ value, library.result = .ok value →
    (command.run environment disk console).1.Ends console (announce value) 0
  pages : ∀ failure report, library.result = .error failure → failure.pageReport = some report →
    let shown := (command.run environment disk console).1
    shown.Ends console [reportLine report] 1 ∧
      (shown.printed = report ++ "\n" ∧ shown.trouble = none ↔
        console.Shows (reportLine report) report)
  other : ∀ failure, library.result = .error failure → failure.pageReport = none →
    (command.run environment disk console).1.failure = some failure

namespace Refines

variable {library : Outcome Workspace.Request Disk α} {failure : Failure} {report : String}

theorem of_success {value : α} (succeeded : library.result = .ok value)
    (ends : (command.script console environment).EndsWith console disk 0 (announce value)
      library.state) :
    command.Refines environment console disk library announce := by
  obtain ⟨state, shown⟩ := run_of_endsWith ends
  refine ⟨state, fun other also => ?_, ?_, ?_⟩
  · obtain rfl := Except.ok.inj (succeeded.symm.trans also)
    exact shown
  · intro other report failed
    cases succeeded.symm.trans failed
  · intro other failed
    cases succeeded.symm.trans failed

/-- A report is printed as it is exactly when the console shows it so. -/
theorem printed_iff_shows {shown : Display} {line : Line} {code : Nat}
    (ends : shown.Ends console [line] code) :
    shown.printed = report ++ "\n" ∧ shown.trouble = none ↔ console.Shows line report := by
  rw [ends.printed, ends.trouble, Console.Shows, Console.renderAll]
  cases console.render line with
  | error trouble => simp
  | ok text => simp [Console.renderAll]

theorem of_report (failed : library.result = .error failure)
    (reported : failure.pageReport = some report)
    (ends : (command.script console environment).EndsWith console disk 1 [reportLine report]
      library.state) :
    command.Refines environment console disk library announce := by
  obtain ⟨state, shown⟩ := run_of_endsWith ends
  refine ⟨state, ?_, ?_, ?_⟩
  · intro value succeeded
    cases failed.symm.trans succeeded
  · intro other told also toldToo
    obtain rfl := Except.error.inj (failed.symm.trans also)
    obtain rfl := Option.some.inj (reported.symm.trans toldToo)
    exact ⟨shown, printed_iff_shows shown⟩
  · intro other also unreported
    obtain rfl := Except.error.inj (failed.symm.trans also)
    cases reported.symm.trans unreported

theorem of_escape (failed : library.result = .error failure)
    (unreported : failure.pageReport = none)
    (stopped : ((command.script console environment).run.run Shell.handle disk).result =
      .error failure)
    (left : ((command.script console environment).run.run Shell.handle disk).state =
      library.state) :
    command.Refines environment console disk library announce := by
  refine ⟨left, ?_, ?_, ?_⟩
  · intro value succeeded
    cases failed.symm.trans succeeded
  · intro other report also reported
    obtain rfl := Except.error.inj (failed.symm.trans also)
    cases reported.symm.trans unreported
  · intro other also _
    obtain rfl := Except.error.inj (failed.symm.trans also)
    simp only [run, display, stopped]

end Refines

section Work

variable {task : Task α} {failure : Failure} {report : String}

theorem reportPages_endsWith (reported : failure.pageReport = some report) (console : Console)
    (disk : Disk) :
    (reportPages console failure).EndsWith console disk 1 [reportLine report] disk := by
  rw [reportPages, reported]
  exact endsWith_conclude console disk [reportLine report] 1

/-- Work that succeeds is announced. -/
theorem carryOut_endsWith {value : α}
    (succeeded : (task.run Disk.handle disk).result = .ok value) :
    (carryOut console task announce).EndsWith console disk 0 (announce value)
      (task.run Disk.handle disk).state := by
  have work : (Script.ofTask task >>= fun value =>
      (conclude console (announce value) 0).run).Prints disk (console.ended (announce value) 0)
        ("" ++ (console.renderAll (announce value)).1) (task.run Disk.handle disk).state :=
    (Script.prints_ofTask (Program.yields_of_result succeeded)).bind
      (endsWith_conclude console _ (announce value) 0)
  rw [String.empty_append] at work
  rw [ConsoleScript.EndsWith, Script.prints_iff]
  have rescued : (carryOut console task announce).run.run Shell.handle disk = _ :=
    Program.run_rescue_of_ok work.result
  rw [rescued]
  exact Script.prints_iff.mp work

/-- Work that fails goes on with the report of its failure. -/
theorem run_carryOut_of_error (failed : (task.run Disk.handle disk).result = .error failure)
    (announce : α → List Line) :
    (carryOut console task announce).run.run Shell.handle disk =
      ((reportPages console failure).run.run Shell.handle
        (task.run Disk.handle disk).state).precededBy
          ((Script.ofTask task).run Shell.handle disk).granted := by
  have stopped : ((Script.ofTask task).run Shell.handle disk).result = .error failure := by
    rw [Script.run_ofTask]
    exact failed
  have left : ((Script.ofTask task).run Shell.handle disk).state =
      (task.run Disk.handle disk).state := by
    rw [Script.run_ofTask]
  have refusals : ∀ (request : Shell.Request) (disk : Disk) (failure : Failure),
      Shell.handle request disk = .error failure →
        (reportPages console failure).run = .fail failure := by
    intro request disk failure refused
    rw [reportPages, Shell.pageReport_of_refused refused]
    rfl
  have rescued : (carryOut console task announce).run.run Shell.handle disk = _ :=
    Program.run_rescue_of_error refusals (Program.result_bind_of_error stopped _)
  rw [rescued, Program.run_bind_of_error stopped, left]

theorem carryOut_endsWith_report (failed : (task.run Disk.handle disk).result = .error failure)
    (reported : failure.pageReport = some report) (announce : α → List Line) :
    (carryOut console task announce).EndsWith console disk 1 [reportLine report]
      (task.run Disk.handle disk).state := by
  have ends := reportPages_endsWith reported console (task.run Disk.handle disk).state
  rw [ConsoleScript.EndsWith, Script.prints_iff, run_carryOut_of_error failed]
  refine ⟨ends.result, ends.yields.2, ?_⟩
  rw [Outcome.printed_precededBy, Script.printed_ofTask, ends.printed, String.empty_append]

end Work

/-- A command refines the task that it carries out, when what comes before it changes nothing and
prints nothing. -/
theorem refines_of_script (task : Settings → Task α) {prepare : Script Settings}
    {settings : Settings}
    (script : (command.script console environment).run =
      prepare >>= fun settings => (carryOut console (task settings) announce).run)
    (prepared : prepare.Prints disk settings "" disk) :
    command.Refines environment console disk ((task settings).run Disk.handle disk) announce := by
  have whole {code : Nat} {lines : List Line} {left : Disk}
      (ends : (carryOut console (task settings) announce).EndsWith console disk code lines left) :
      (command.script console environment).EndsWith console disk code lines left := by
    have both : (prepare >>= fun settings =>
        (carryOut console (task settings) announce).run).Prints disk (console.ended lines code)
          ("" ++ (console.renderAll lines).1) left := prepared.bind ends
    rwa [String.empty_append, ← script] at both
  cases result : ((task settings).run Disk.handle disk).result with
  | ok value => exact .of_success result (whole (carryOut_endsWith result))
  | error failure =>
      cases reported : failure.pageReport with
      | some report =>
          exact .of_report result reported
            (whole (carryOut_endsWith_report result reported announce))
      | none =>
          have escapes : (reportPages console failure).run = .fail failure := by
            rw [reportPages, reported]
            rfl
          obtain ⟨stopped, left⟩ :
              ((command.script console environment).run.run Shell.handle disk).result =
                  .error failure ∧
                ((command.script console environment).run.run Shell.handle disk).state =
                  ((task settings).run Disk.handle disk).state := by
            rw [script, Program.run_bind_of_ok prepared.result, prepared.yields.2,
              run_carryOut_of_error result, escapes]
            exact ⟨rfl, rfl⟩
          exact .of_escape result reported stopped left

/-- Work behind the loading of settings comes behind the opening of the log. -/
theorem run_logged (load : Script Settings) (work : Settings → ConsoleScript Nat) :
    (ExceptT.lift Script.openLog >>= fun _ => ExceptT.lift load >>= work : ConsoleScript Nat).run =
      (Script.openLog >>= fun _ => load) >>= fun settings => (work settings).run := by
  rw [ExceptT.run_bind_lift, bind_assoc]
  simp only [ExceptT.run_bind_lift]

/-- With a root on the command line, a build and the writing of indexes do to a disk with an empty
log what they do when they are given this root, and tell how that ended. -/
theorem root_option_refines_library {settings : Settings} (log : disk.HasEmptyLog)
    (loaded : ((Script.loadSettings none).run Shell.handle disk).result = .ok settings)
    (root : String) (environment : Option String) (console : Console) (showProgress : Bool) :
    let path := Path.ofString root
    (Command.build (some path) none showProgress).Refines environment console disk
        ((Task.build settings environment (some path)).run Disk.handle disk) announceBuild ∧
      (Command.index (some path) none showProgress).Refines environment console disk
        ((Task.writeIndexes path settings.layout).run Disk.handle disk) announceIndexes := by
  intro path
  have loading := Script.prints_of_questions (Script.loadSettings_asks none) loaded
  have prepared : (Script.openLog >>= fun _ => loadSettings (some path) none).Prints disk
      { settings with directory := .text path.toString } ("" ++ ("" ++ "")) disk :=
    .bind (Script.openLog_prints log) (.bind loading (Script.prints_pure disk _))
  rw [String.append_empty, String.append_empty] at prepared
  have written := settings.root_of_written path environment
  constructor
  · have same : Task.build settings environment (some path) =
        Task.build { settings with directory := .text path.toString } environment none :=
      (Task.build_eq_buildTree written).symm
    rw [same]
    exact refines_of_script (fun settings => Task.build settings environment none)
      (run_logged _ _) prepared
  · have same : Task.writeIndexes path settings.layout =
        indexTask { settings with directory := .text path.toString } environment := by
      have directory : Settings.buildDirectory
          { settings with directory := .text path.toString } environment = .ok path := written
      rw [indexTask, directory]
      rfl
    rw [same]
    exact refines_of_script (fun settings => indexTask settings environment) (run_logged _ _)
      prepared

end Command

namespace Disk

/-- The settings name no directory that could be used, and the environment names another one. -/
theorem root_option_refines_library_with_mistyped_settings :
    let disk := ofFiles [(".pagegen.log", ByteArray.empty),
      ("pagegen.toml", "[build]\ndir = 3\n".toUTF8), ("pages/en/Intro.js", "<Note/>".toUTF8)]
    let command := Command.build (some (Path.ofString "./pages//")) none false
    disk.HasEmptyLog ∧
      ∃ settings, ((Script.loadSettings none).run Shell.handle disk).result = .ok settings ∧
        settings.buildDirectory (some "elsewhere") = .error (.mistyped .directory) ∧
        (command.run (some "elsewhere") disk .wide).2 =
          ((Task.build settings (some "elsewhere") (some (Path.ofString "./pages//"))).run
            handle disk).state ∧
        (command.run (some "elsewhere") disk .wide).1.exitCode = 0 := by
  intro disk
  dsimp only
  have log : disk.HasEmptyLog := by
    have located : disk.locate .content Shell.logPath = .ok disk.logPlace := by decide +kernel
    have stands : disk.readBytes Shell.logPath = .ok ByteArray.empty := by decide +kernel
    obtain ⟨route, leads, isFile⟩ := readBytes_eq_ok_iff.mp stands
    obtain rfl := Except.ok.inj (located.symm.trans leads)
    exact ⟨isFile, fun other same => (eq_of_sameFile (by decide +kernel) same).symm⟩
  have told : ((Script.loadSettings none).run Shell.handle disk).result.map (fun settings =>
      (settings.buildDirectory (some "elsewhere"), ((Task.build settings (some "elsewhere")
        (some (Path.ofString "./pages//"))).run handle disk).result.map fun report =>
          (Console.wide.renderAll (Command.announceBuild report)).2)) =
      .ok (.error (.mistyped .directory), .ok none) := by
    decide +kernel
  obtain ⟨settings, loaded, both⟩ := except_map_eq_ok.mp told
  obtain ⟨mistyped, built⟩ := Prod.mk.inj both
  obtain ⟨refines, -⟩ :=
    Command.root_option_refines_library log loaded "./pages//" (some "elsewhere") .wide false
  obtain ⟨report, result, announced⟩ := except_map_eq_ok.mp built
  refine ⟨log, settings, loaded, mistyped, refines.state, ?_⟩
  rw [(refines.success report result).exitCode, announced]
  rfl

/-- A report that ends in a backslash is printed with the mark that should end its style. -/
theorem root_option_garbles_report :
    let disk := ofFiles [(".pagegen.log", ByteArray.empty),
      ("pagegen.toml", "[index]\nextension = '\\'\n".toUTF8), ("build/en/bad\\", "".toUTF8)]
    let command := Command.build (some (Path.ofString "build")) none false
    let report := "Page name should start with a latin capital letter: en/bad\\"
    ((Script.loadSettings none).run Shell.handle disk).result.map (fun settings =>
        match ((Task.build settings none (some (Path.ofString "build"))).run handle disk).result
        with
        | .ok _ => none
        | .error failure => failure.pageReport) = .ok (some report) ∧
      (command.run none disk .wide).1.exitCode = 1 ∧
      (command.run none disk .wide).1.failure = none ∧
      (command.run none disk .wide).1.trouble = none ∧
      (command.run none disk .wide).1.printed ≠ report ++ "\n" := by
  intro disk command report
  exact ⟨by decide +kernel, by decide +kernel, by decide +kernel, by decide +kernel,
    by decide +kernel⟩

end Disk

end PageLinker
