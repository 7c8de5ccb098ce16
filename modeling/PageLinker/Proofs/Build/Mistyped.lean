import PageLinker.Proofs.Build.Effects

/-!
# Settings of the wrong type

A setting fails where it is first put to use.  The build directory is needed before anything is
read, and the extension while the tree is read, so a build that stops at one of them has written
nothing.  The name of the index file is needed for the index of the root, once all pages are
completed.
-/

namespace PageLinker

/-- The failure lays no blame on other settings than these. -/
def Failure.BlamesOnly (blamed : SettingPlace → Prop) (failure : Failure) : Prop :=
  ∀ place, failure = .mistyped place → blamed place

namespace Program

variable {Request : Type} [Interface Request] {State α β : Type}

/-- Every failure that the program declares itself is possible. -/
def FailsWithin (possible : Failure → Prop) : Program Request α → Prop
  | .done _ => True
  | .fail failure => possible failure
  | .ask _ answered => ∀ answer, (answered answer).FailsWithin possible

namespace FailsWithin

variable {possible : Failure → Prop}

theorem bind {program : Program Request α} {next : α → Program Request β}
    (first : program.FailsWithin possible) (rest : ∀ value, (next value).FailsWithin possible) :
    (program >>= next).FailsWithin possible := by
  induction program with
  | done value => exact rest value
  | fail failure => exact first
  | ask request answered ih => exact fun answer => ih answer (first answer)

theorem request (wanted : Request) : (Program.request wanted).FailsWithin possible :=
  fun _ => trivial

theorem ofExcept {result : Except Failure α}
    (errors : ∀ failure, result = .error failure → possible failure) :
    (Program.ofExcept result : Program Request α).FailsWithin possible := by
  cases result with
  | ok value => trivial
  | error failure => exact errors failure rfl

/-- A run fails as the program may declare, or as a request may be refused. -/
theorem possible_of_error {program : Program Request α} (fails : program.FailsWithin possible)
    {handle : Handler Request State}
    (refusals : ∀ {request : Request} {state : State} {failure : Failure},
      handle request state = .error failure → possible failure) {state : State}
    {failure : Failure} (failed : (program.run handle state).result = .error failure) :
    possible failure := by
  induction program generalizing state with
  | done value => cases failed
  | fail own =>
      cases failed
      exact fails
  | ask request answered ih =>
      rw [run] at failed
      cases handled : handle request state with
      | error refusal =>
          rw [handled] at failed
          cases failed
          exact refusals handled
      | ok granted =>
          rw [handled] at failed
          exact ih granted.1 (fails granted.1) failed

end FailsWithin

end Program

theorem Members.collectInto_blames {layout : Layout} {group : String} {found : List Member}
    {filenames : List String} {failure : Failure}
    (failed : collectInto layout group found filenames = .error failure) :
    failure.BlamesOnly fun place => place = .extension ∧ layout.extension = none := by
  induction filenames generalizing found with
  | nil => cases failed
  | cons filename rest ih =>
      rw [collectInto] at failed
      split at failed
      · exact ih failed
      · cases extensionSet : layout.extension with
        | none =>
            simp only [Layout.base?, extensionSet] at failed
            cases failed
            rintro place ⟨⟩
            exact ⟨rfl, rfl⟩
        | some extension =>
            simp only [extensionSet] at ih
            simp only [Layout.base?, extensionSet] at failed
            split at failed
            · next same => cases same
            · exact ih failed
            · split at failed
              · cases failed
                rintro place ⟨⟩
              · exact ih failed

theorem Naming.asFailure_blames {α : Type} {verdict : Except Violation α} {failure : Failure}
    (failed : asFailure verdict = .error failure) (blamed : SettingPlace → Prop) :
    failure.BlamesOnly blamed := by
  obtain ⟨violation, -, rfl⟩ := asFailure_eq_error_iff.mp failed
  rintro place ⟨⟩

theorem Layout.indexPath_blames {layout : Layout} {directory : Path} {failure : Failure}
    (failed : layout.indexPath directory = .error failure) :
    failure.BlamesOnly fun place => place = .indexFile ∧ layout.indexFile = none := by
  rw [indexPath] at failed
  split at failed
  · cases failed
  · next missing =>
      cases failed
      rintro place ⟨⟩
      exact ⟨rfl, missing⟩

namespace Task

/-- The task lays no blame on other settings than these. -/
abbrev BlamesOnly {α : Type} (blamed : SettingPlace → Prop) (task : Task α) : Prop :=
  task.FailsWithin (·.BlamesOnly blamed)

section Blame

variable (blamed : SettingPlace → Prop)

theorem keepDirectories_blames (root : Path) (names : List String) :
    (keepDirectories root names).BlamesOnly blamed := by
  induction names with
  | nil => trivial
  | cons name rest ih => exact .bind (.request _) fun _ => ih.bind fun _ => trivial

theorem writeIndex_blames (file : IndexFile) : (writeIndex file).BlamesOnly blamed :=
  .bind (.request _) fun _ => .bind (.request _) fun _ => trivial

end Blame

variable (root : Path) (layout : Layout)

theorem readTree_blames :
    (readTree root layout).BlamesOnly
      fun place => place = .extension ∧ layout.extension = none := by
  have readGroups_blames (names : List String) : (readGroups root layout names).BlamesOnly
      fun place => place = .extension ∧ layout.extension = none := by
    induction names with
    | nil => trivial
    | cons name rest ih =>
        have first : (memberFiles (root.join name) layout).BlamesOnly
            fun place => place = .extension ∧ layout.extension = none :=
          .bind (.request _) fun _ => .ofExcept fun _ => Members.collectInto_blames
        exact first.bind fun _ => ih.bind fun _ => trivial
  refine .bind (.bind (.request _) (keepDirectories_blames _ root)) fun names => ?_
  exact (readGroups_blames names).bind fun _ => trivial

theorem writeRootIndex_blames (groupNames : List String) :
    (writeRootIndex root groupNames layout).BlamesOnly
      fun place => place = .indexFile ∧ layout.indexFile = none :=
  .bind (.ofExcept fun _ => Layout.indexPath_blames) fun _ => writeIndex_blames _ _

theorem writeGroupIndexes_blames (groups : List Group) :
    (writeGroupIndexes layout groups).BlamesOnly
      fun place => place = .indexFile ∧ layout.indexFile = none := by
  induction groups with
  | nil => trivial
  | cons group rest ih =>
      have first : (writeGroupIndex group layout).BlamesOnly
          fun place => place = .indexFile ∧ layout.indexFile = none := by
        refine .bind (.ofExcept fun _ failed => Naming.asFailure_blames failed _) fun _ => ?_
        refine .bind (.ofExcept fun _ => Layout.indexPath_blames) fun _ => ?_
        refine .bind (.ofExcept fun _ failed => Naming.asFailure_blames failed _) fun _ => ?_
        exact writeIndex_blames _ _
      exact first.bind fun _ => ih.bind fun _ => trivial

end Task

/-- The build has use for the setting, and its value has the wrong type.  Tables of the wrong type
make no settings. -/
def Settings.IsMistyped (settings : Settings) : SettingPlace → Prop
  | .table => False
  | .directory => settings.directory.isGiven = true ∧ settings.directory.text? = none
  | .extension => settings.extension.text? = none
  | .indexFile => settings.indexFile.text? = none

theorem Settings.root_eq_error {settings : Settings} {environment : Option String}
    {given : Option Path} {failure : Failure}
    (failed : settings.root environment given = .error failure) :
    given = none ∧ failure = .mistyped .directory ∧ settings.IsMistyped .directory := by
  cases given with
  | some place => cases failed
  | none =>
      replace failed : settings.buildDirectory environment = .error failure := failed
      unfold buildDirectory at failed
      split at failed
      · next named =>
          split at failed
          · cases failed
          · next mistyped =>
              cases failed
              exact ⟨rfl, rfl, named, mistyped⟩
      · split at failed
        · cases failed
        · split at failed <;> cases failed

namespace Memory

variable {denied : Denial} {memory : Memory}

theorem blamed_of_mistyped {α : Type} {blamed : SettingPlace → Prop} {task : Task α}
    (blames : task.BlamesOnly blamed) {place : SettingPlace}
    (failed : (task.run (handle denied) memory).result = .error (.mistyped place)) :
    blamed place := by
  refine blames.possible_of_error (fun refused => ?_) failed place rfl
  obtain ⟨refusal, path, rfl⟩ := handle_eq_error refused
  rintro _ ⟨⟩

section Trees

variable {root : Path} {layout : Layout} {place : SettingPlace} {tree : BuildTree}

/-- With the tree read, only the name of the index file can be of the wrong type, and then no index
is written. -/
theorem writeIndexes_of_mistyped
    (found : ((Task.readTree root layout).run (handle denied) memory).result = .ok tree)
    (failed : ((Task.writeIndexes root layout).run (handle denied) memory).result =
      .error (.mistyped place)) :
    place = .indexFile ∧ layout.indexFile = none ∧
      ((Task.writeIndexes root layout).run (handle denied) memory).writes = [] := by
  have reading := Task.readTree_onlySurveys root layout
  rw [Task.writeIndexes, reading.result_bind_of_ok found] at failed
  rw [Task.writeIndexes, reading.writes_bind_of_ok found]
  obtain ⟨isIndexFile, missing⟩ : place = .indexFile ∧ layout.indexFile = none := by
    refine @blamed_of_mistyped denied memory _
      (fun place => place = .indexFile ∧ layout.indexFile = none) _ ?_ place failed
    refine .bind (.request _) fun _ => .bind (Task.writeRootIndex_blames _ _ _) fun _ => ?_
    exact .bind (Task.writeGroupIndexes_blames _ _) fun _ => trivial
  refine ⟨isIndexFile, missing, ?_⟩
  simp only [Task.writeRootIndex, Layout.indexPath, missing, Program.ofExcept_error,
    Program.fail_bind]
  rfl

theorem indexAfter_of_mistyped {pages : List Path × List Path}
    (found : ((Task.readTree root layout).run (handle denied) memory).result = .ok tree)
    (failed : ((Task.indexAfter root layout pages).run (handle denied) memory).result =
      .error (.mistyped place)) :
    place = .indexFile ∧ layout.indexFile = none ∧
      ((Task.indexAfter root layout pages).run (handle denied) memory).writes = [] := by
  have noting := Task.note_onlySurveys
  rw [Task.indexAfter, (noting _ _ _).result_bind_of_ok rfl, Program.run_bind_pure,
    Outcome.map_result, except_map_eq_error] at failed
  rw [Task.indexAfter, (noting _ _ _).writes_bind_of_ok rfl, Program.run_bind_pure,
    Outcome.map_writes]
  exact writeIndexes_of_mistyped found failed

/-- A build of a tree stops at the extension before it has written anything, or at the name of the
index file when all pages are completed. -/
theorem buildTree_of_mistyped
    (failed : ((Task.buildTree root layout).run (handle denied) memory).result =
      .error (.mistyped place)) :
    let outcome := (Task.buildTree root layout).run (handle denied) memory
    place = .extension ∧ layout.extension = none ∧ outcome.writes = [] ∨
      place = .indexFile ∧ layout.indexFile = none ∧
        ∃ tree, ((Task.readTree root layout).run (handle denied) memory).result = .ok tree ∧
          tree.memberPaths.Nodup ∧
          (∀ page ∈ tree.memberPaths, memory.read page = .ok (memory.textAt page)) ∧
          outcome.writes = (tree.memberPaths.filter memory.lacksBlock).map memory.completion := by
  intro outcome
  have reading := Task.readTree_onlySurveys root layout
  have whole : outcome = (Task.buildTree root layout).run (handle denied) memory := rfl
  rw [Task.buildTree_eq] at failed whole
  cases found : ((Task.readTree root layout).run (handle denied) memory).result with
  | error failure =>
      obtain rfl : failure = .mistyped place :=
        Except.error.inj ((Program.result_bind_of_error found _).symm.trans failed)
      obtain ⟨isExtension, missing⟩ := blamed_of_mistyped (Task.readTree_blames root layout) found
      rw [whole, Program.writes_bind_of_error found, reading.writes_eq_nil]
      exact .inl ⟨isExtension, missing, rfl⟩
  | ok tree =>
      have distinct := (survey_isLaidOut (survey_of_read found)).memberPaths_nodup
      have writes := congrArg Outcome.writes whole
      rw [reading.result_bind_of_ok found] at failed
      rw [reading.writes_bind_of_ok found] at writes
      cases checked : Naming.asFailure (validateGroups tree.groups) with
      | error failure =>
          rw [checked] at failed
          cases failed
          exact (Naming.asFailure_blames checked (fun _ => False) place rfl).elim
      | ok _ =>
          rw [checked, Program.ofExcept_ok, Program.done_bind] at failed writes
          obtain ⟨treated, -, read, completed, shape, ends⟩ :=
            run_completePages distinct denied memory
          rcases ends with ⟨refusal, path, refused⟩ | ⟨rfl, finished⟩
          · rw [Program.result_bind_of_error refused] at failed
            cases failed
          · rw [Program.run_bind_of_ok finished, Outcome.precededBy_result] at failed
            rw [Program.run_bind_of_ok finished, Outcome.precededBy_writes, completed] at writes
            -- Completed pages leave the tree as it was, so it is read again before the indexes.
            have foundAgain := (reading.result_eq shape).symm.trans found
            obtain ⟨isIndexFile, missing, unwritten⟩ := indexAfter_of_mistyped foundAgain failed
            rw [unwritten, List.append_nil] at writes
            exact .inr ⟨isIndexFile, missing, tree, rfl, distinct, read, writes⟩

end Trees

section Builds

variable {settings : Settings} {environment : Option String} {given : Option Path}
  {place : SettingPlace}

/-- A build that stops at a setting of the wrong type has changed nothing, unless the setting is the
name of the index file.  In that case the build has completed the pages that lacked their block,
and has written nothing else. -/
theorem build_effect_of_mistyped
    (failed : ((Task.build settings environment given).run (handle denied) memory).result =
      .error (.mistyped place)) :
    let outcome := (Task.build settings environment given).run (handle denied) memory
    settings.IsMistyped place ∧
      (place = .directory → given = none) ∧
      (place ≠ .indexFile → outcome.writes = [] ∧ outcome.state = memory) ∧
      (place = .indexFile →
        ∃ root tree, settings.root environment given = .ok root ∧
          ((Task.readTree root settings.layout).run (handle denied) memory).result = .ok tree ∧
          tree.memberPaths.Nodup ∧
          (∀ page ∈ tree.memberPaths, memory.read page = .ok (memory.textAt page)) ∧
          outcome.writes = (tree.memberPaths.filter memory.lacksBlock).map memory.completion ∧
          ∀ path, path ∉ tree.memberPaths.filter memory.lacksBlock →
            outcome.state.find? path.steps = memory.find? path.steps) := by
  intro outcome
  cases resolved : settings.root environment given with
  | error failure =>
      obtain ⟨rfl, rfl, mistyped⟩ := Settings.root_eq_error resolved
      have stopped : outcome = ⟨.error (.mistyped .directory), memory, []⟩ := by
        have directory : settings.buildDirectory environment = .error (.mistyped .directory) :=
          resolved
        simp only [outcome, Task.build, directory]
        rfl
      have isDirectory : place = .directory := by
        have same := failed.symm.trans (congrArg Outcome.result stopped)
        simpa using same
      subst isDirectory
      refine ⟨mistyped, fun _ => rfl, fun _ => ?_, fun same => ?_⟩
      · rw [stopped]
        exact ⟨rfl, rfl⟩
      · cases same
  | ok root =>
      have same : outcome = (Task.buildTree root settings.layout).run (handle denied) memory :=
        congrArg (Program.run (handle denied) · memory) (Task.build_eq_buildTree resolved)
      have failedTree := (congrArg Outcome.result same).symm.trans failed
      rcases buildTree_of_mistyped failedTree with
        ⟨rfl, missing, writes⟩ | ⟨rfl, missing, tree, found, distinct, read, writes⟩
      · rw [← same] at writes
        refine ⟨missing, fun other => ?_, fun _ => ⟨writes, state_eq_of_writes_eq_nil writes⟩,
          fun other => ?_⟩
        · cases other
        · cases other
      · rw [← same] at writes
        refine ⟨missing, fun other => ?_, fun other => absurd rfl other, fun _ => ?_⟩
        · cases other
        · refine ⟨root, tree, rfl, found, distinct, read, writes, fun path apart => ?_⟩
          refine find?_run_of_not_written denied _ memory ?_
          rw [writes, map_fst_completion]
          exact apart

theorem build_effect_of_numeric_index_file :
    let memory := ofFiles [("build/en/Intro.js", "<Note/>"),
      ("build/fr/Intro.js", "import React from 'react'\n<p/>")]
    let settings : Settings := { indexFile := .integer 3 }
    let outcome := (Task.build settings none none).run (handle Denial.nothing) memory
    outcome.result = .error (.mistyped .indexFile) ∧ settings.IsMistyped .indexFile ∧
      ∃ root tree, settings.root none none = .ok root ∧
        ((Task.readTree root settings.layout).run (handle Denial.nothing) memory).result =
          .ok tree ∧
        outcome.writes = (tree.memberPaths.filter memory.lacksBlock).map memory.completion := by
  intro memory settings outcome
  have failed : outcome.result = .error (.mistyped .indexFile) := by decide +kernel
  obtain ⟨mistyped, -, -, completed⟩ := build_effect_of_mistyped failed
  obtain ⟨root, tree, resolved, found, -, -, writes, -⟩ := completed rfl
  exact ⟨failed, mistyped, root, tree, resolved, found, writes⟩

/-- Settings can be loaded that name the index file by a number, and a build with them has written
over a page when it stops. -/
theorem page_written_despite_loaded_numeric_index_file :
    let memory := ofFiles [("build/en/Intro.js", "<Note/>")]
    let page := Path.ofString "build/en/Intro.js"
    ∃ settings, Settings.parse "[index]\nindex_file = 3\n".toUTF8 = .ok settings ∧
      let outcome := (Task.build settings none none).run (handle Denial.nothing) memory
      outcome.result = .error (.mistyped .indexFile) ∧
        outcome.writes = [(page, ImportBlock.complete "<Note/>")] ∧
        outcome.state.textAt page ≠ memory.textAt page ∧
        ¬ ∀ place, outcome.result = .error (.mistyped place) → outcome.writes = [] := by
  intro memory page
  have told : (Settings.parse "[index]\nindex_file = 3\n".toUTF8).map (fun settings =>
      let outcome := (Task.build settings none none).run (handle Denial.nothing) memory
      (outcome.result, outcome.writes, outcome.state.textAt page)) =
        .ok (.error (.mistyped .indexFile), [(page, ImportBlock.complete "<Note/>")],
          ImportBlock.complete "<Note/>") := by
    decide +kernel
  obtain ⟨settings, loaded, same⟩ := except_map_eq_ok.mp told
  simp only [Prod.mk.injEq] at same
  obtain ⟨failed, writes, text⟩ := same
  refine ⟨settings, loaded, failed, writes, ?_, fun unwritten => ?_⟩
  · rw [text]
    decide +kernel
  · cases writes.symm.trans (unwritten _ failed)

end Builds

end Memory

end PageLinker
