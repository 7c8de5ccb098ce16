import PageLinker.Proofs.Build.Bystanders
import PageLinker.Proofs.Command.RootOption

/-!
# Commands behind a new settings file

A new settings file states the defaults and leaves the build directory to the environment.  It is
neither a page nor an index.  So making one changes nothing in what a command does that looks for
settings where the file is made, even if that place belongs to the build tree.
-/

namespace PageLinker

theorem Toml.Value.eq_text_of_text? {value : Value} {content : String}
    (isText : value.text? = some content) : value = .text content := by
  cases value with
  | text own => exact congrArg Value.text (Option.some.inj isText)
  | integer | float | boolean | moment | array | table => cases isText

namespace Settings

/-- A new settings file says what holds without one. -/
theorem parse_template : parse template.toUTF8 = .ok {} := by
  have told : (parse template.toUTF8).map (fun settings =>
      (settings.directory.text?, settings.extension.text?, settings.indexFile.text?)) =
        .ok (some "", some ".js", some "index.js") := by
    decide +kernel
  obtain ⟨⟨directory, extension, indexFile⟩, parsed, same⟩ := except_map_eq_ok.mp told
  simp only [Prod.mk.injEq] at same
  obtain ⟨isDirectory, isExtension, isIndexFile⟩ := same
  rw [parsed, Toml.Value.eq_text_of_text? isDirectory, Toml.Value.eq_text_of_text? isExtension,
    Toml.Value.eq_text_of_text? isIndexFile]

/-- A new settings file in a directory. -/
def newFile (directory : Route) : Disk.NewFile :=
  ⟨directory, "pagegen.toml", template.toUTF8⟩

theorem newFile_isComponent (directory : Route) :
    IsComponent (newFile directory).name ∧ (newFile directory).name ≠ ".." := by
  change IsComponent "pagegen.toml" ∧ "pagegen.toml" ≠ ".."
  decide

end Settings

namespace Shell

/-- The request leaves something behind or is shown. -/
def Request.isSeen : Request → Bool
  | .workspace request => request.isSeen
  | .openLog | .print _ => true
  | .isPresent _ | .readBytes _ => false

theorem handle_keeps {request : Request} {disk : Disk}
    {granted : Interface.Answer request × Disk} (unseen : request.isSeen = false)
    (answered : handle request disk = .ok granted) : granted.2 = disk := by
  cases request with
  | workspace request =>
      exact Disk.handle_isStorage.unchanged
        (Workspace.Request.not_written_of_unseen unseen) answered
  | isPresent path =>
      cases answered
      rfl
  | readBytes path =>
      obtain ⟨content, -, rfl⟩ := except_map_eq_ok.mp (Failure.about_eq_ok.mp answered)
      rfl
  | openLog | print text => cases unseen

/-- Scripts are compared as the tasks are that they carry out. -/
def comparison (base : Disk) (layout : Layout) (file : Disk.NewFile) : Comparison Request Disk where
  handle := handle
  seen := (·.isSeen)
  related := base.DifferBy layout file
  unseen_keeps := handle_keeps

end Shell

namespace Script

variable {base : Disk} {layout : Layout} {file : Disk.NewFile}

theorem ofTask_alike {α : Type} {task : Task α} {promised : α → Prop}
    (alike : (base.comparison layout file).Alike task promised) :
    (Shell.comparison base layout file).Alike (ofTask task) promised := by
  intro disk other differ
  obtain ⟨result, seen, related, kept⟩ := alike disk other differ
  have lifted (granted : List Workspace.Request) :
      (granted.map Shell.Request.workspace).filter (·.isSeen) =
        (granted.filter (·.isSeen)).map .workspace :=
    List.filter_map
  have agree : (Shell.comparison base layout file).Agree promised
      ((ofTask task).run Shell.handle disk) ((ofTask task).run Shell.handle other) := by
    rw [run_ofTask, run_ofTask]
    refine ⟨result, ?_, related, kept⟩
    exact (lifted _).trans ((congrArg _ seen).trans (lifted _).symm)
  exact agree

theorem print_alike (text : String) :
    (Shell.comparison base layout file).Alike (print text) fun _ => True :=
  .request fun disk other differ => .inr ⟨(), disk, other, rfl, rfl, differ, trivial⟩

theorem printLines_alike (console : Console) (lines : List Console.Line) :
    (Shell.comparison base layout file).Alike (printLines console lines).run fun _ => True := by
  induction lines with
  | nil => exact .done trivial
  | cons line rest ih =>
      cases rendered : console.render line with
      | error trouble =>
          rw [ConsoleScript.run_printLines_refused rendered]
          exact .done trivial
      | ok text =>
          rw [ConsoleScript.run_printLines_cons rendered]
          exact (print_alike text).bind fun _ _ => ih

theorem openLog_alike (beside : base.IsBeside layout file Shell.logPath) :
    (Shell.comparison base layout file).Alike openLog fun _ => True := by
  refine .request fun disk other differ => ?_
  rcases Disk.DifferBy.writeBytes_cases differ beside ByteArray.empty with
    ⟨refusal, refused, alsoRefused⟩ | ⟨left, otherLeft, granted, alsoGranted, stays⟩
  · have refuses {disk : Disk}
        (failed : disk.writeBytes Shell.logPath ByteArray.empty = .error refusal) :
        Shell.handle .openLog disk = .error (.refused refusal Shell.logPath) := by
      rw [Shell.handle, failed]
      rfl
    exact .inl ⟨_, refuses refused, refuses alsoRefused⟩
  · have grants {disk left : Disk}
        (written : disk.writeBytes Shell.logPath ByteArray.empty = .ok left) :
        Shell.handle .openLog disk = .ok ((), left) := by
      rw [Shell.handle, written]
      rfl
    exact .inr ⟨(), left, otherLeft, grants granted, grants alsoGranted, stays, trivial⟩

theorem loadSettings_eq : loadSettings none = isPresent Settings.defaultPath >>= fun present =>
    if present then readBytes Settings.defaultPath >>= fun content =>
      .ofExcept (Settings.parse content)
    else pure {} :=
  rfl

/-- Without a settings file the settings are the defaults. -/
theorem loadSettings_of_absent {disk : Disk} (absent : disk.isPresent Settings.defaultPath = false) :
    ((loadSettings none).run Shell.handle disk).result = .ok {} := by
  have asked : ((isPresent Settings.defaultPath).run Shell.handle disk).result = .ok false :=
    congrArg Except.ok absent
  rw [loadSettings_eq, Program.run_bind_of_ok asked]
  rfl

/-- A settings file is taken as it stands. -/
theorem loadSettings_of_readBytes {disk : Disk} {content : ByteArray}
    (stands : disk.readBytes Settings.defaultPath = .ok content) :
    ((loadSettings none).run Shell.handle disk).result = Settings.parse content := by
  obtain ⟨route, located, isFile⟩ := Disk.readBytes_eq_ok_iff.mp stands
  obtain ⟨number, found, -⟩ := Disk.find?_eq_file_iff.mp isFile
  have present : disk.isPresent Settings.defaultPath = true := by
    rw [Disk.isPresent, Disk.look_eq_ok_iff.mpr ⟨located, found⟩]
    rfl
  have asked : ((isPresent Settings.defaultPath).run Shell.handle disk).result = .ok true :=
    congrArg Except.ok present
  have unchanged : ((isPresent Settings.defaultPath).run Shell.handle disk).state = disk := rfl
  have granted : Shell.handle (.readBytes Settings.defaultPath) disk = .ok (content, disk) := by
    rw [Shell.handle, stands]
    rfl
  have found : (readBytes Settings.defaultPath).Yields Shell.handle disk content disk :=
    Program.yields_request.mpr granted
  rw [loadSettings_eq, Program.run_bind_of_ok asked, if_pos rfl, Outcome.precededBy_result,
    unchanged, Program.run_bind_of_ok found.1, Outcome.precededBy_result, Program.run_ofExcept]

end Script

namespace Disk

theorem leadsTo_here {disk : Disk}
    (directory : disk.contents.find? disk.workingDirectory = some .directory) :
    disk.LeadsTo Path.here disk.workingDirectory :=
  ⟨.here _ _, directory⟩

section Settings

variable {disk : Disk}

theorem locate_settings
    (noLink : ∀ target, disk.contents.find? (Settings.newFile disk.workingDirectory).place ≠
      some (.leaf (.link target))) (purpose : Purpose) :
    disk.locate purpose Settings.defaultPath =
      .ok (Settings.newFile disk.workingDirectory).place := by
  obtain ⟨component, notUp⟩ := Settings.newFile_isComponent disk.workingDirectory
  exact locate_here component notUp noLink purpose

variable (absent : disk.find? (Settings.newFile disk.workingDirectory).place = none)
include absent

theorem locate_absent_settings (purpose : Purpose) :
    disk.locate purpose Settings.defaultPath =
      .ok (Settings.newFile disk.workingDirectory).place :=
  locate_settings (by simp [find?_eq_none_iff.mp absent]) purpose

/-- New settings can be stored exactly in a directory. -/
theorem exists_store_settings :
    (∃ left, disk.store (Settings.newFile disk.workingDirectory).place
      (Settings.newFile disk.workingDirectory).content = .ok left) ↔
        disk.find? disk.workingDirectory = some .directory := by
  have unoccupied := find?_eq_none_iff.mp absent
  have above : (Settings.newFile disk.workingDirectory).place.dropLast = disk.workingDirectory :=
    List.dropLast_concat
  rw [find?_eq_directory_iff, ← Catalog.isDirectory_eq_true_iff]
  constructor
  · rintro ⟨left, stored⟩
    rcases store_cases stored with ⟨number, found, -⟩ | ⟨free, -⟩
    · cases unoccupied.symm.trans found
    · exact above ▸ free.2.2.2
  · intro directory
    obtain ⟨component, notUp⟩ := Settings.newFile_isComponent disk.workingDirectory
    have isPlace : IsPlace (Settings.newFile disk.workingDirectory).place :=
      isPlace_concat ((Catalog.isDirectory_eq_true_iff _).mp directory) component notUp
    exact exists_store isPlace (above.symm ▸ directory)
      (by simp [unoccupied]) (by simp [unoccupied]) _

theorem isPresent_settings : disk.isPresent Settings.defaultPath = false := by
  rw [isPresent, look, locate_absent_settings absent, except_ok_bind, find?_eq_none_iff.mp absent]
  rfl

end Settings

end Disk

namespace Command

variable {base : Disk} {layout : Layout} {file : Disk.NewFile} {environment : Option String}
  {console : Console}

section Work

variable {α : Type} {task : Task α} {announce : α → List Console.Line}

theorem conclude_alike (lines : List Console.Line) (code : Nat) :
    (Shell.comparison base layout file).Alike (conclude console lines code).run fun _ => True := by
  have both : (Shell.comparison base layout file).Alike
      ((Script.printLines console lines).run >>= ExceptT.bindCont fun _ => pure code)
        fun _ => True := by
    refine (Script.printLines_alike console lines).bind fun printed _ => ?_
    cases printed with
    | ok _ | error _ => exact .done trivial
  exact both

theorem reportPages_alike (failure : Failure) :
    (Shell.comparison base layout file).Alike (reportPages console failure).run
      fun _ => True := by
  rw [reportPages]
  split
  · exact conclude_alike _ 1
  · exact .fail failure

theorem carryOut_alike (alike : (base.comparison layout file).Alike task fun _ => True)
    (announce : α → List Console.Line) :
    (Shell.comparison base layout file).Alike (carryOut console task announce).run
      fun _ => True := by
  refine .rescue (fun request disk failure refused => ?_)
    ((Script.ofTask_alike alike).bind fun value _ => conclude_alike (announce value) 0)
    reportPages_alike
  rw [reportPages, Shell.pageReport_of_refused refused]
  rfl

end Work

/-- Runs that agree are displayed alike. -/
theorem display_eq_of_agree {promised : Except Console.Trouble Nat → Prop}
    {first second : Outcome Shell.Request Disk (Except Console.Trouble Nat)}
    (agree : (Shell.comparison base layout file).Agree promised first second)
    (command : Command) :
    command.display second = command.display first := by
  have seen : second.granted.filter (·.isSeen) = first.granted.filter (·.isSeen) := agree.seen
  have same {β : Type} {shows : Shell.Request → Option β}
      (onlySeen : ∀ request, request.isSeen = false → shows request = none) :
      second.granted.filterMap shows = first.granted.filterMap shows := by
    have throughSeen (granted : List Shell.Request) :
        granted.filterMap shows = (granted.filter (·.isSeen)).filterMap shows := by
      rw [List.filterMap_filter]
      refine List.filterMap_congr fun request _ => ?_
      cases shown : request.isSeen with
      | true => rfl
      | false => exact onlySeen request shown
    rw [throughSeen, throughSeen first.granted, seen]
  have noted : second.granted.filterMap (·.noted?) = first.granted.filterMap (·.noted?) := by
    refine same fun request unseen => ?_
    cases request with
    | workspace request =>
        cases request with
        | writeText path content | note record => cases unseen
        | listDir path | isDir path | readText path => rfl
    | isPresent path | readBytes path | openLog | print text => rfl
  have printed : second.granted.filterMap (·.printed?) = first.granted.filterMap (·.printed?) := by
    refine same fun request unseen => ?_
    cases request with
    | print text => cases unseen
    | workspace request | isPresent path | readBytes path | openLog => rfl
  have opened : second.granted.contains .openLog = first.granted.contains .openLog := by
    have throughSeen (granted : List Shell.Request) :
        granted.contains .openLog = (granted.filter (·.isSeen)).contains .openLog := by
      rw [Bool.eq_iff_iff, List.contains_iff_mem, List.contains_iff_mem, List.mem_filter]
      exact (and_iff_left rfl).symm
    rw [throughSeen, throughSeen first.granted, seen]
  rw [display, display, agree.result, noted, printed, opened]

section Initialised

variable {root : Option Path} {path : Path} {place : Route} {showProgress : Bool}

/-- The settings that are loaded are the same with a new settings file and without. -/
theorem loadSettings_none_alike :
    (Shell.comparison base layout (Settings.newFile base.workingDirectory)).Alike
      (Script.loadSettings none) (· = {}) := by
  refine .of_unseen ((Script.loadSettings_asks none).mono fun request question => ?_)
    fun disk other differ => ?_
  · cases request with
    | isPresent path | readBytes path => rfl
    | workspace request | openLog | print text => exact question.elim
  · have absent := Disk.DifferBy.absent differ
    have present := Disk.DifferBy.present differ
    rw [← differ.first.workingDirectory] at absent
    rw [← differ.second.workingDirectory] at present
    obtain ⟨number, found, -⟩ := Disk.find?_eq_file_iff.mp present
    have without := Script.loadSettings_of_absent (Disk.isPresent_settings absent)
    have stands : other.readBytes Settings.defaultPath = .ok Settings.template.toUTF8 :=
      Disk.readBytes_eq_ok_iff.mpr ⟨_, Disk.locate_settings (by simp [found]) .content, present⟩
    refine ⟨?_, fun settings found => (Except.ok.inj (without.symm.trans found)).symm⟩
    exact (Script.loadSettings_of_readBytes stands).trans
      (Settings.parse_template.trans without.symm)

theorem loadSettings_alike (resolved : ({} : Settings).root environment root = .ok path) :
    (Shell.comparison base layout (Settings.newFile base.workingDirectory)).Alike
      (loadSettings root none) fun settings =>
        settings.root environment none = .ok path ∧ settings.layout = Settings.layout {} := by
  refine loadSettings_none_alike.bind fun settings isDefault => ?_
  subst isDefault
  cases root with
  | none => exact .done ⟨resolved, rfl⟩
  | some given =>
      obtain rfl := Except.ok.inj resolved
      exact .done ⟨Settings.root_of_written {} given environment, rfl⟩

/-- A command that works on a tree does the same with a new settings file and without. -/
theorem script_alike {command : Command}
    (work : command = .index root none showProgress ∨ command = .build root none showProgress)
    (resolved : ({} : Settings).root environment root = .ok path)
    (directory : base.contents.find? base.workingDirectory = some .directory)
    (leads : base.LeadsTo path place) :
    (Shell.comparison base (Settings.layout {}) (Settings.newFile base.workingDirectory)).Alike
      (command.script console environment).run fun _ => True := by
  have noPage : Members.page? (Settings.layout {}) ".pagegen.log" = none := by decide
  have beside : base.IsBeside (Settings.layout {}) (Settings.newFile base.workingDirectory)
      Shell.logPath :=
    ⟨Path.here, base.workingDirectory, ".pagegen.log", rfl, Disk.leadsTo_here directory,
      by decide, by decide,
      Disk.NewFile.ne_place (show ".pagegen.log" ≠ "pagegen.toml" by decide) _, .inr noPage⟩
  have differs : "index.js" ≠ "pagegen.toml" := by decide
  have prepared : (Shell.comparison base (Settings.layout {})
      (Settings.newFile base.workingDirectory)).Alike
        (Script.openLog >>= fun _ => loadSettings root none) _ :=
    (Script.openLog_alike beside).bind fun _ _ => loadSettings_alike resolved
  rcases work with rfl | rfl
  · have script : ((Command.index root none showProgress).script console environment).run = _ :=
      run_logged _ _
    rw [script]
    refine prepared.bind fun settings loaded => ?_
    obtain ⟨rooted, layout⟩ := loaded
    have directory : settings.buildDirectory environment = .ok path := rooted
    refine carryOut_alike ?_ announceIndexes
    rw [indexTask, directory, layout, Program.ofExcept_ok, Program.done_bind]
    exact Disk.writeIndexes_alike (by decide) (by decide) differs leads
  · have script : ((Command.build root none showProgress).script console environment).run = _ :=
      run_logged _ _
    rw [script]
    refine prepared.bind fun settings loaded => ?_
    obtain ⟨rooted, layout⟩ := loaded
    refine carryOut_alike ?_ announceBuild
    rw [Task.build_eq_buildTree rooted, layout]
    exact Disk.buildTree_alike (by decide) (by decide) differs leads

end Initialised

section Initialising

variable {disk left : Disk}

/-- What is printed when a settings file has been made. -/
def createdLine : Console.Line :=
  .marked "[green]Created pagegen.toml[/green]"

section Absent

variable (absent : disk.find? (Settings.newFile disk.workingDirectory).place = none)
include absent

/-- Where no settings file is, one is written, unless that is refused. -/
theorem run_initialise (console : Console) :
    (initialise console Path.here).run.run Shell.handle disk =
      ((Script.ofTask (Task.writeText Settings.defaultPath Settings.template) >>= fun _ =>
        (conclude console [createdLine] 0).run).run Shell.handle disk).precededBy
          [.isPresent Settings.defaultPath] := by
  have asked : ((Script.isPresent Settings.defaultPath).run Shell.handle disk) =
      ⟨.ok false, disk, [.isPresent Settings.defaultPath]⟩ := by
    rw [Script.isPresent, Program.run_request, Shell.handle, Disk.isPresent_settings absent]
  have created : Console.Line.marked s!"[green]Created {Settings.defaultPath}[/green]" =
      createdLine := by
    decide +kernel
  have whole : initialise console Path.here =
      (ExceptT.lift (Script.isPresent Settings.defaultPath) >>= fun present =>
        if present then
          conclude console [.marked s!"[yellow]{Settings.defaultPath} already exists.[/yellow]"] 1
        else ExceptT.lift (Script.ofTask (Task.writeText Settings.defaultPath Settings.template))
          >>= fun _ => conclude console [.marked s!"[green]Created {Settings.defaultPath}[/green]"]
            0 : ConsoleScript Nat) := rfl
  rw [whole, created, ExceptT.run_bind_lift, Program.run_bind_of_ok (congrArg _ asked), asked]
  simp only [Bool.false_eq_true, if_false, ExceptT.run_bind_lift]

/-- A settings file that can be stored is made. -/
theorem init_of_store
    (stored : disk.store (Settings.newFile disk.workingDirectory).place
      (Settings.newFile disk.workingDirectory).content = .ok left)
    (console : Console) (environment : Option String) :
    ((Command.init Path.here).run environment disk console).2 = left ∧
      ((Command.init Path.here).run environment disk console).1.Ends console [createdLine] 0 := by
  have written : disk.writeText Settings.defaultPath Settings.template = .ok left :=
    (Disk.writeText_eq_ok_iff (Disk.locate_absent_settings absent .making)).mpr stored
  have work : (Script.ofTask (Task.writeText Settings.defaultPath Settings.template) >>= fun _ =>
      (conclude console [createdLine] 0).run).Prints disk (console.ended [createdLine] 0)
        ("" ++ (console.renderAll [createdLine]).1) left :=
    (Script.prints_ofTask (Task.writeText_yields_iff.mpr
      (Disk.handle_writeText.mpr written))).bind (endsWith_conclude console left [createdLine] 0)
  rw [String.empty_append] at work
  have ends : (initialise console Path.here).EndsWith console disk 0 [createdLine] left := by
    rw [ConsoleScript.EndsWith, Script.prints_iff, run_initialise absent]
    exact Script.prints_iff.mp work
  exact run_of_endsWith ends

/-- A settings file that cannot be stored is not made. -/
theorem init_of_refusal {refusal : Refusal}
    (refused : disk.store (Settings.newFile disk.workingDirectory).place
      (Settings.newFile disk.workingDirectory).content = .error refusal)
    (console : Console) (environment : Option String) :
    ((Command.init Path.here).run environment disk console).2 = disk := by
  have written : disk.writeText Settings.defaultPath Settings.template = .error refusal := by
    rw [Disk.writeText, Disk.writeBytes, Disk.locate_absent_settings absent, except_ok_bind]
    exact refused
  have failed : ((Task.writeText Settings.defaultPath Settings.template).run Disk.handle disk) =
      ⟨.error (.refused refusal Settings.defaultPath), disk, []⟩ := by
    rw [Task.writeText, Program.run_request, Disk.handle, written]
    rfl
  have stopped : ((Script.ofTask (Task.writeText Settings.defaultPath Settings.template)).run
      Shell.handle disk).result = .error (.refused refusal Settings.defaultPath) := by
    rw [Script.run_ofTask, failed]
  rw [run, script, run_initialise absent, Program.run_bind_of_error stopped]
  simp only [Outcome.precededBy_state, Script.run_ofTask, failed]

end Absent

end Initialising

end Command

end PageLinker
