import PageLinker.Command.Session
import PageLinker.Proofs.Disk.Requests
import PageLinker.Proofs.Program.Yielding

/-!
# What scripts print

A script that succeeds yields a value, leads from one disk to another, and prints a text, which is
what its parts print one after the other.  Lines are printed on a console up to one that it refuses,
where the script ends.
-/

namespace PageLinker

/-- The text that a run prints. -/
def Outcome.printed {State α : Type} (outcome : Outcome Shell.Request State α) : String :=
  String.join (outcome.granted.filterMap (·.printed?))

namespace Outcome

variable {State α β : Type}

theorem printed_precededBy (first : Outcome Shell.Request State α)
    (second : Outcome Shell.Request State β) :
    (second.precededBy first.granted).printed = first.printed ++ second.printed := by
  rw [printed, precededBy, List.filterMap_append, String.join_append]
  rfl

end Outcome

namespace Console

variable {console : Console} {lines more : List Line}

/-- How a script ends with lines: with a value, or with the trouble that one of them makes. -/
def ended {α : Type} (console : Console) (lines : List Line) (value : α) : Except Trouble α :=
  match (console.renderAll lines).2 with
  | none => .ok value
  | some trouble => .error trouble

theorem renderAll_append_of_none (untroubled : (console.renderAll lines).2 = none) :
    console.renderAll (lines ++ more) =
      ((console.renderAll lines).1 ++ (console.renderAll more).1, (console.renderAll more).2) := by
  induction lines with
  | nil => simp [renderAll]
  | cons line rest ih =>
      rw [List.cons_append, renderAll, renderAll]
      rw [renderAll] at untroubled
      cases rendered : console.render line with
      | error trouble =>
          rw [rendered] at untroubled
          cases untroubled
      | ok text =>
          rw [rendered] at untroubled
          simp only [ih untroubled, String.append_assoc]

/-- Nothing is printed behind a line that is refused. -/
theorem renderAll_append_of_some {trouble : Trouble}
    (troubled : (console.renderAll lines).2 = some trouble) :
    console.renderAll (lines ++ more) = console.renderAll lines := by
  induction lines with
  | nil => cases troubled
  | cons line rest ih =>
      rw [List.cons_append, renderAll, renderAll]
      rw [renderAll] at troubled
      cases rendered : console.render line with
      | error trouble => rfl
      | ok text =>
          rw [rendered] at troubled
          simp only [ih troubled]

end Console

namespace Script

variable {α β : Type} {disk between left : Disk}

/-- The script succeeds, leads from the first disk to the second, and prints the text. -/
structure Prints (script : Script α) (disk : Disk) (value : α) (text : String) (left : Disk) :
    Prop where
  yields : script.Yields Shell.handle disk value left
  printed : (script.run Shell.handle disk).printed = text

theorem prints_iff {script : Script α} {value : α} {text : String} :
    script.Prints disk value text left ↔
      let outcome := script.run Shell.handle disk
      outcome.result = .ok value ∧ outcome.state = left ∧ outcome.printed = text :=
  ⟨fun prints => ⟨prints.yields.1, prints.yields.2, prints.printed⟩,
    fun told => ⟨⟨told.1, told.2.1⟩, told.2.2⟩⟩

theorem Prints.result {script : Script α} {value : α} {text : String}
    (prints : script.Prints disk value text left) :
    (script.run Shell.handle disk).result = .ok value :=
  prints.yields.1

theorem prints_pure (disk : Disk) (value : α) : (pure value : Script α).Prints disk value "" disk :=
  ⟨Program.yields_done.mpr ⟨rfl, rfl⟩, rfl⟩

/-- A sequence prints what its first part prints, and then what its second part does. -/
theorem Prints.bind {script : Script α} {next : α → Script β} {value : α} {last : β}
    {text more : String} (first : script.Prints disk value text between)
    (second : (next value).Prints between last more left) :
    (script >>= next).Prints disk last (text ++ more) left := by
  obtain ⟨result, state⟩ := first.yields
  refine ⟨Program.yields_bind.mpr ⟨value, between, first.yields, second.yields⟩, ?_⟩
  rw [Program.run_bind_of_ok result, Outcome.printed_precededBy, first.printed, state,
    second.printed]

theorem prints_print (disk : Disk) (text : String) : (print text).Prints disk () text disk := by
  refine ⟨Program.yields_request.mpr rfl, ?_⟩
  rw [print, Program.run_request]
  simp [Shell.handle, Outcome.printed, Shell.Request.printed?]

theorem printed_ofTask (task : Task α) (disk : Disk) :
    ((ofTask task).run Shell.handle disk).printed = "" := by
  have silent : ∀ granted : List Workspace.Request,
      (granted.map Shell.Request.workspace).filterMap (·.printed?) = [] := by
    intro granted
    rw [List.filterMap_eq_nil_iff, List.forall_mem_map]
    exact fun _ _ => rfl
  rw [run_ofTask, Outcome.printed, silent]
  rfl

/-- Work on the build tree succeeds within a command as it does alone, and prints nothing. -/
theorem prints_ofTask {task : Task α} {value : α}
    (yields : task.Yields Disk.handle disk value left) :
    (ofTask task).Prints disk value "" left := by
  refine ⟨?_, printed_ofTask task disk⟩
  rw [Program.Yields, run_ofTask]
  exact yields

end Script

namespace ConsoleScript

variable {α β : Type} {console : Console} {disk between left : Disk} {value : α} {last : β}
  {lines more : List Console.Line} {script : ConsoleScript α} {next : α → ConsoleScript β}

/-- The script prints the lines and ends with the value, or with the trouble that a line makes. -/
def EndsWith (script : ConsoleScript α) (console : Console) (disk : Disk) (value : α)
    (lines : List Console.Line) (left : Disk) : Prop :=
  script.run.Prints disk (console.ended lines value) (console.renderAll lines).1 left

theorem endsWith_pure (console : Console) (disk : Disk) (value : α) :
    EndsWith (pure value) console disk value [] disk :=
  Script.prints_pure disk (Except.ok value)

/-- A script that prints nothing does the same for a console. -/
theorem endsWith_lift {script : Script α} (prints : script.Prints disk value "" left)
    (console : Console) : EndsWith (ExceptT.lift script) console disk value [] left := by
  have both : (ExceptT.lift script : ConsoleScript α).run.Prints disk (Except.ok value)
      ("" ++ "") left := prints.bind (Script.prints_pure left (Except.ok value))
  exact both

/-- A script goes on behind a part whose lines are printed. -/
theorem EndsWith.bind_of_none (first : EndsWith script console disk value lines between)
    (untroubled : (console.renderAll lines).2 = none)
    (second : EndsWith (next value) console between last more left) :
    EndsWith (script >>= next) console disk last (lines ++ more) left := by
  have ends : console.ended lines value = .ok value := by rw [Console.ended, untroubled]
  rw [EndsWith, ends] at first
  have both : (script >>= next).run.Prints disk (console.ended more last)
      ((console.renderAll lines).1 ++ (console.renderAll more).1) left :=
    Script.Prints.bind first second
  rw [EndsWith, Console.ended, Console.renderAll_append_of_none untroubled]
  exact both

theorem EndsWith.bind_of_some {trouble : Console.Trouble}
    (first : EndsWith script console disk value lines left)
    (troubled : (console.renderAll lines).2 = some trouble) (next : α → ConsoleScript β)
    (more : List Console.Line) (last : β) :
    EndsWith (script >>= next) console disk last (lines ++ more) left := by
  have ends {γ : Type} (value : γ) : console.ended lines value = .error trouble := by
    rw [Console.ended, troubled]
  rw [EndsWith, ends] at first
  have both : (script >>= next).run.Prints disk (Except.error trouble)
      ((console.renderAll lines).1 ++ "") left :=
    Script.Prints.bind first (Script.prints_pure left (Except.error trouble))
  rw [String.append_empty] at both
  rw [EndsWith, Console.ended, Console.renderAll_append_of_some troubled, ← Console.ended, ends]
  exact both

/-- Where the second part leaves the disk alone, the lines of both are printed, up to one that is
refused. -/
theorem EndsWith.bind (first : EndsWith script console disk value lines left)
    (second : EndsWith (next value) console left last more left) :
    EndsWith (script >>= next) console disk last (lines ++ more) left := by
  cases troubled : (console.renderAll lines).2 with
  | none => exact first.bind_of_none troubled second
  | some trouble => exact first.bind_of_some troubled next more last

/-- The value at the end of a script can be another one. -/
theorem EndsWith.returning (ends : EndsWith script console disk value lines left) (last : β) :
    EndsWith (script >>= fun _ => pure last) console disk last lines left := by
  have both : EndsWith (script >>= fun _ => pure last) console disk last (lines ++ []) left :=
    ends.bind (endsWith_pure console left last)
  rwa [List.append_nil] at both

/-- A line is printed if the console does not refuse it, and then the others. -/
theorem run_printLines_cons {line : Console.Line} {text : String}
    (rendered : console.render line = .ok text) (rest : List Console.Line) :
    (Script.printLines console (line :: rest)).run =
      Script.print text >>= fun _ => (Script.printLines console rest).run := by
  have shown : Script.printLines console (line :: rest) =
      (ExceptT.lift (Script.print text) >>= fun _ => Script.printLines console rest :
        ConsoleScript Unit) := by
    rw [Script.printLines, rendered]
    rfl
  rw [shown, ExceptT.run_bind_lift]

theorem run_printLines_refused {line : Console.Line} {trouble : Console.Trouble}
    (refused : console.render line = .error trouble) (rest : List Console.Line) :
    (Script.printLines console (line :: rest)).run = .done (.error trouble) := by
  rw [Script.printLines, refused]
  rfl

theorem endsWith_printLines (console : Console) (disk : Disk) (lines : List Console.Line) :
    EndsWith (Script.printLines console lines) console disk () lines disk := by
  induction lines with
  | nil => exact endsWith_pure console disk ()
  | cons line rest ih =>
      rw [EndsWith, Console.ended, Console.renderAll]
      cases rendered : console.render line with
      | error trouble =>
          rw [run_printLines_refused rendered]
          exact Script.prints_pure disk (Except.error trouble)
      | ok text =>
          rw [run_printLines_cons rendered]
          exact (Script.prints_print disk text).bind ih

end ConsoleScript

namespace Command

/-- The command ended with these lines: it printed them and ended with the exit code, or one of them
made trouble. -/
structure Display.Ends (display : Display) (console : Console) (lines : List Console.Line)
    (code : Nat) : Prop where
  failure : display.failure = none
  printed : display.printed = (console.renderAll lines).1
  trouble : display.trouble = (console.renderAll lines).2
  exitCode : display.exitCode =
    if (console.renderAll lines).2.isNone then code else failureExitCode

theorem endsWith_conclude (console : Console) (disk : Disk) (lines : List Console.Line)
    (code : Nat) : (conclude console lines code).EndsWith console disk code lines disk :=
  (ConsoleScript.endsWith_printLines console disk lines).returning code

/-- What is seen of a command whose script ends with these lines. -/
theorem run_of_endsWith {command : Command} {console : Console} {environment : Option String}
    {disk left : Disk} {lines : List Console.Line} {code : Nat}
    (ends : (command.script console environment).EndsWith console disk code lines left) :
    (command.run environment disk console).2 = left ∧
      (command.run environment disk console).1.Ends console lines code := by
  obtain ⟨⟨result, state⟩, printed⟩ := ends
  have shown : (command.run environment disk console).1 = command.display
      ((command.script console environment).run.run Shell.handle disk) := rfl
  refine ⟨state, ?_⟩
  rw [shown]
  rw [Console.ended] at result
  cases troubled : (console.renderAll lines).2 with
  | none | some trouble =>
      rw [troubled] at result
      constructor
      · rw [display, result]
      · exact printed
      · rw [display, result, troubled]
      · rw [display, result, troubled]
        rfl

end Command

end PageLinker
