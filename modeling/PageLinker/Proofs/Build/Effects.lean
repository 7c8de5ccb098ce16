import PageLinker.Build
import PageLinker.Proofs.Index.Effects
import PageLinker.Proofs.Page.Completing
import PageLinker.Proofs.Tree.Stability

/-!
# What a build does

A build reads and checks the tree twice, with the pages written over in between.  Since written
pages leave the shape of the memory as it was, the second reading finds the same tree.  So nothing
is written when the pages are at fault, and a build that succeeds writes the pages that had no block
and then the indexes of the tree that it found at first.
-/

namespace PageLinker

namespace Settings

/-- Settings whose values are all texts. -/
def ofTexts (directory extension indexFile : String) : Settings :=
  ⟨.text directory, .text extension, .text indexFile⟩

/-- The root of a build: the given one, or the directory that settings and environment name. -/
def root (settings : Settings) (environment : Option String) :
    Option Path → Except Failure Path
  | some given => .ok given
  | none => settings.buildDirectory environment

theorem exists_root_ofTexts (directory extension indexFile : String)
    (environment : Option String) (given : Option Path) :
    ∃ place, (ofTexts directory extension indexFile).root environment given = .ok place := by
  cases given with
  | some place => exact ⟨place, rfl⟩
  | none =>
      unfold root buildDirectory
      by_cases named : (ofTexts directory extension indexFile).directory.isGiven
      · rw [if_pos named]
        exact ⟨Path.ofString directory, rfl⟩
      · rw [if_neg named]
        cases environment with
        | none => exact ⟨defaultDirectory, rfl⟩
        | some content =>
            by_cases empty : content == ""
            · exact ⟨defaultDirectory, if_pos empty⟩
            · exact ⟨Path.ofString content, if_neg empty⟩

end Settings

namespace Task

/-- What is left of a build once the pages are completed. -/
def indexAfter (root : Path) (layout : Layout) (pages : List Path × List Path) :
    Task BuildReport := do
  note .build .info
    s!"Added imports to {pages.1.length} page files ({pages.2.length} already done)"
  let indexFiles ← writeIndexes root layout
  pure ⟨root, pages.1, pages.2, indexFiles⟩

theorem buildTree_eq (root : Path) (layout : Layout) :
    buildTree root layout =
      readTree root layout >>= fun tree =>
        Program.ofExcept (Naming.asFailure (validateGroups tree.groups)) >>= fun _ =>
          completePages tree.memberPaths >>= indexAfter root layout :=
  rfl

theorem build_eq_buildTree {settings : Settings} {environment : Option String}
    {given : Option Path} {place : Path} (resolved : settings.root environment given = .ok place) :
    build settings environment given = buildTree place settings.layout := by
  cases given with
  | some root =>
      cases resolved
      rfl
  | none =>
      have directory : settings.buildDirectory environment = .ok place := resolved
      simp only [build, directory]
      rfl

end Task

namespace Memory

section Trees

variable {denied : Denial} {memory : Memory} {root : Path} {extension indexFile : String}

theorem run_indexAfter {tree : BuildTree}
    (found : ((Task.readTree root ⟨some extension, some indexFile⟩).run
      (handle denied) memory).result = .ok tree)
    (wellNamed : ∀ group ∈ tree.groups, group.IsWellNamed) (pages : List Path × List Path) :
    let outcome :=
      (Task.indexAfter root ⟨some extension, some indexFile⟩ pages).run (handle denied) memory
    (∃ refusal path, outcome.result = .error (.refused refusal path)) ∨
      (outcome.result = .ok ⟨root, pages.1, pages.2, tree.indexes indexFile⟩ ∧
        outcome.writes = (tree.indexes indexFile).map IndexFile.write) := by
  have noting := Task.note_onlySurveys .build .info
    s!"Added imports to {pages.1.length} page files ({pages.2.length} already done)"
  have noted := congrArg Outcome.result (run_note denied memory .build .info
    s!"Added imports to {pages.1.length} page files ({pages.2.length} already done)")
  simp only [Task.indexAfter, noting.result_bind_of_ok noted, noting.writes_bind_of_ok noted,
    Program.run_bind_pure, Outcome.map_result, Outcome.map_writes]
  obtain ⟨-, ends⟩ := run_writeIndexes_of_ok found
  rw [BuildTree.indexesBeforeBad_of_wellNamed wellNamed,
    validateGroups_eq_ok_iff.mpr wellNamed] at ends
  rcases ends with ⟨refusal, path, refused⟩ | ⟨writes, succeeded⟩
  · rw [refused]
    exact .inl ⟨refusal, path, rfl⟩
  · rw [succeeded, writes]
    exact .inr ⟨rfl, rfl⟩

/-- A tree that cannot be read stops the build before anything is written. -/
theorem run_buildTree_of_error {failure : Failure}
    (unread : ((Task.readTree root ⟨some extension, some indexFile⟩).run
      (handle denied) memory).result = .error failure) :
    let outcome :=
      (Task.buildTree root ⟨some extension, some indexFile⟩).run (handle denied) memory
    outcome.result = .error failure ∧ outcome.writes = [] := by
  have reading := Task.readTree_onlySurveys root ⟨some extension, some indexFile⟩
  simp only [Task.buildTree_eq, Program.result_bind_of_error unread,
    Program.writes_bind_of_error unread, reading.writes_eq_nil, and_self]

/-- A badly named page stops the build before anything is written. -/
theorem run_buildTree_of_badName {tree : BuildTree} {violation : Naming.Violation}
    (found : ((Task.readTree root ⟨some extension, some indexFile⟩).run
      (handle denied) memory).result = .ok tree)
    (refused : validateGroups tree.groups = .error violation) :
    let outcome :=
      (Task.buildTree root ⟨some extension, some indexFile⟩).run (handle denied) memory
    outcome.result = .error (.badName violation) ∧ outcome.writes = [] := by
  have reading := Task.readTree_onlySurveys root ⟨some extension, some indexFile⟩
  simp only [Task.buildTree_eq, reading.result_bind_of_ok found, reading.writes_bind_of_ok found,
    refused]
  exact ⟨rfl, rfl⟩

/-- With the tree read and all names in order, what is left of a build is to complete the pages and
to write the indexes. -/
theorem buildTree_onward_of_wellNamed {tree : BuildTree}
    (found : ((Task.readTree root ⟨some extension, some indexFile⟩).run
      (handle denied) memory).result = .ok tree)
    (wellNamed : ∀ group ∈ tree.groups, group.IsWellNamed) :
    let outcome :=
      (Task.buildTree root ⟨some extension, some indexFile⟩).run (handle denied) memory
    let onward := (Task.completePages tree.memberPaths >>=
      Task.indexAfter root ⟨some extension, some indexFile⟩).run (handle denied) memory
    outcome.result = onward.result ∧ outcome.writes = onward.writes := by
  have reading := Task.readTree_onlySurveys root ⟨some extension, some indexFile⟩
  have accepted : Naming.asFailure (validateGroups tree.groups) = .ok () :=
    Naming.asFailure_eq_ok_iff.mpr (validateGroups_eq_ok_iff.mpr wellNamed)
  simp only [Task.buildTree_eq, reading.result_bind_of_ok found, reading.writes_bind_of_ok found,
    accepted, Program.ofExcept_ok, Program.done_bind, and_self]

/-- With the tree read and all names in order, the build succeeds unless a request is refused. -/
theorem run_buildTree_of_wellNamed {tree : BuildTree}
    (found : ((Task.readTree root ⟨some extension, some indexFile⟩).run
      (handle denied) memory).result = .ok tree)
    (wellNamed : ∀ group ∈ tree.groups, group.IsWellNamed) :
    let outcome :=
      (Task.buildTree root ⟨some extension, some indexFile⟩).run (handle denied) memory
    (∃ refusal path, outcome.result = .error (.refused refusal path)) ∨
      ((∀ page ∈ tree.memberPaths, memory.read page = .ok (memory.textAt page)) ∧
        outcome.result = .ok ⟨root, tree.memberPaths.filter memory.lacksBlock,
          tree.memberPaths.filter (!memory.lacksBlock ·), tree.indexes indexFile⟩ ∧
        outcome.writes =
          (tree.memberPaths.filter memory.lacksBlock).map memory.completion ++
            (tree.indexes indexFile).map IndexFile.write) := by
  have reading := Task.readTree_onlySurveys root ⟨some extension, some indexFile⟩
  have laidOut := survey_isLaidOut (survey_of_read found)
  obtain ⟨sameResult, sameWrites⟩ := buildTree_onward_of_wellNamed found wellNamed
  simp only [sameResult, sameWrites]
  obtain ⟨treated, -, read, writes, shape, ends⟩ :=
    run_completePages laidOut.memberPaths_nodup denied memory
  rcases ends with ⟨refusal, path, refused⟩ | ⟨rfl, finished⟩
  · exact .inl ⟨refusal, path, Program.result_bind_of_error refused _⟩
  · rw [Program.run_bind_of_ok finished, Outcome.precededBy_result, Outcome.precededBy_writes,
      writes]
    generalize (Task.completePages tree.memberPaths).run (handle denied) memory = completed at shape
    have foundAgain := (reading.result_eq shape).symm.trans found
    rcases run_indexAfter foundAgain wellNamed (tree.memberPaths.filter memory.lacksBlock,
        tree.memberPaths.filter (!memory.lacksBlock ·)) with
      ⟨refusal, path, refused⟩ | ⟨succeeded, laterWrites⟩
    · exact .inl ⟨refusal, path, refused⟩
    · rw [laterWrites]
      exact .inr ⟨read, succeeded, rfl⟩

end Trees

/-- A build fails before anything is written, or is refused a request, or succeeds. -/
theorem run_buildTree_cases (denied : Denial) (memory : Memory) (root : Path)
    (extension indexFile : String) :
    let layout : Layout := ⟨some extension, some indexFile⟩
    let outcome := (Task.buildTree root layout).run (handle denied) memory
    (∃ failure, outcome.result = .error failure ∧ outcome.writes = []) ∨
      (∃ refusal path, outcome.result = .error (.refused refusal path)) ∨
      ∃ tree, ((Task.readTree root layout).run (handle denied) memory).result = .ok tree ∧
        (∀ page ∈ tree.memberPaths, memory.read page = .ok (memory.textAt page)) ∧
        outcome.result = .ok ⟨root, tree.memberPaths.filter memory.lacksBlock,
          tree.memberPaths.filter (!memory.lacksBlock ·), tree.indexes indexFile⟩ ∧
        outcome.writes =
          (tree.memberPaths.filter memory.lacksBlock).map memory.completion ++
            (tree.indexes indexFile).map IndexFile.write := by
  intro layout outcome
  cases found : ((Task.readTree root layout).run (handle denied) memory).result with
  | error failure => exact .inl ⟨failure, run_buildTree_of_error found⟩
  | ok tree =>
      cases checked : validateGroups tree.groups with
      | error violation => exact .inl ⟨.badName violation, run_buildTree_of_badName found checked⟩
      | ok _ =>
          have wellNamed := validateGroups_eq_ok_iff.mp checked
          refine .inr ((run_buildTree_of_wellNamed found wellNamed).imp_right fun success => ?_)
          exact ⟨tree, rfl, success⟩

/-- What a build that succeeded was told from, and what it did. -/
theorem buildTree_effect {denied : Denial} {memory : Memory} {root : Path}
    {extension indexFile : String} {report : BuildReport}
    (succeeded : ((Task.buildTree root ⟨some extension, some indexFile⟩).run
      (handle denied) memory).result = .ok report) :
    ∃ tree, ((Task.readTree root ⟨some extension, some indexFile⟩).run
        (handle denied) memory).result = .ok tree ∧
      report = ⟨root, tree.memberPaths.filter memory.lacksBlock,
        tree.memberPaths.filter (!memory.lacksBlock ·), tree.indexes indexFile⟩ ∧
      (∀ page ∈ tree.memberPaths, memory.read page = .ok (memory.textAt page)) ∧
      memory.writeAll ((tree.memberPaths.filter memory.lacksBlock).map memory.completion ++
        (tree.indexes indexFile).map IndexFile.write) =
          .ok ((Task.buildTree root ⟨some extension, some indexFile⟩).run
            (handle denied) memory).state := by
  have done := writeAll_run denied (Task.buildTree root ⟨some extension, some indexFile⟩) memory
  rcases run_buildTree_cases denied memory root extension indexFile with
    ⟨failure, failed, -⟩ | ⟨refusal, path, refused⟩ | ⟨tree, found, pages, finished, writes⟩
  · cases succeeded.symm.trans failed
  · cases succeeded.symm.trans refused
  · rw [writes] at done
    exact ⟨tree, found, Except.ok.inj (succeeded.symm.trans finished), pages, done⟩

section Builds

variable {denied : Denial} {memory : Memory} {directory extension indexFile : String}
  {environment : Option String} {given : Option Path}

/-- A build that fails because of its pages has changed nothing.  It goes the same way where no
write is allowed at all, so it has not tried to write either. -/
theorem build_of_fault_in_pages {failure : Failure}
    (failed : ((Task.build (.ofTexts directory extension indexFile) environment given).run
      (handle denied) memory).result = .error failure)
    (inPages : failure.pageReport.isSome) :
    let task := Task.build (.ofTexts directory extension indexFile) environment given
    let outcome := task.run (handle denied) memory
    outcome.writes = [] ∧ outcome.state = memory ∧
      task.run (handle denied.readOnly) memory = outcome := by
  have verdict : ∀ refusal path, failure ≠ .refused refusal path := by
    rintro refusal path rfl
    cases inPages
  obtain ⟨root, resolved⟩ := Settings.exists_root_ofTexts directory extension indexFile
    environment given
  rw [Task.build_eq_buildTree resolved] at failed ⊢
  have silent : ((Task.buildTree root ⟨some extension, some indexFile⟩).run
      (handle denied) memory).writes = [] := by
    rcases run_buildTree_cases denied memory root extension indexFile with
      ⟨other, -, writes⟩ | ⟨refusal, path, refused⟩ | ⟨tree, -, -, succeeded, -⟩
    · exact writes
    · exact absurd (Except.error.inj (failed.symm.trans refused)) (verdict refusal path)
    · cases failed.symm.trans succeeded
  exact ⟨silent, state_eq_of_writes_eq_nil silent, run_readOnly failed verdict silent⟩

theorem build_of_misnamed_page :
    let memory := ofFiles [("build/en/Intro.js", "<Note/>"), ("build/fr/intro.js", "<Note/>")]
    let task := Task.build (.ofTexts "" ".js" "index.js") none none
    let outcome := task.run (handle Denial.nothing) memory
    outcome.result = .error (.badName ⟨"intro", .latinCapital, "fr", "intro.js"⟩) ∧
      outcome.writes = [] ∧ outcome.state = memory ∧
      task.run (handle Denial.nothing.readOnly) memory = outcome := by
  intro memory task outcome
  have failed : outcome.result =
      .error (.badName ⟨"intro", .latinCapital, "fr", "intro.js"⟩) := by decide +kernel
  exact ⟨failed, build_of_fault_in_pages failed rfl⟩

/-- The exact effect of a build that succeeds, told from the memory that it starts from. -/
theorem build_effect {report : BuildReport}
    (succeeded : ((Task.build (.ofTexts directory extension indexFile) environment given).run
      (handle denied) memory).result = .ok report) :
    let settings := Settings.ofTexts directory extension indexFile
    let outcome := (Task.build settings environment given).run (handle denied) memory
    settings.root environment given = .ok report.root ∧
      ∃ tree, ((Task.readTree report.root settings.layout).run
          (handle denied) memory).result = .ok tree ∧
        tree.memberPaths.Nodup ∧
        (∀ page ∈ tree.memberPaths, memory.read page = .ok (memory.textAt page)) ∧
        report.pageFiles = tree.memberPaths.filter memory.lacksBlock ∧
        report.skippedFiles = tree.memberPaths.filter (!memory.lacksBlock ·) ∧
        report.indexFiles = tree.indexes indexFile ∧
        outcome.writes = report.pageFiles.map memory.completion ++
          report.indexFiles.map IndexFile.write ∧
        ∀ path, path ∉ outcome.writes.map (·.1) →
          outcome.state.find? path.steps = memory.find? path.steps := by
  intro settings outcome
  have untouched : ∀ path, path ∉ outcome.writes.map (·.1) →
      outcome.state.find? path.steps = memory.find? path.steps :=
    fun path => find?_run_of_not_written denied _ memory
  obtain ⟨root, resolved⟩ := Settings.exists_root_ofTexts directory extension indexFile
    environment given
  have same : Task.build settings environment given =
      Task.buildTree root ⟨some extension, some indexFile⟩ := Task.build_eq_buildTree resolved
  rw [same] at succeeded
  rcases run_buildTree_cases denied memory root extension indexFile with
    ⟨failure, failed, -⟩ | ⟨refusal, path, refused⟩ | ⟨tree, found, read, finished, writes⟩
  · cases succeeded.symm.trans failed
  · cases succeeded.symm.trans refused
  · cases succeeded.symm.trans finished
    have distinct := (survey_isLaidOut (survey_of_read found)).memberPaths_nodup
    rw [← same] at writes
    exact ⟨resolved, tree, found, distinct, read, rfl, rfl, rfl, writes, untouched⟩

theorem build_effect_of_half_done :
    let memory := ofFiles [("build/en/Intro.js", "<Note/>"),
      ("build/fr/Intro.js", "import React from 'react'\n<p/>")]
    let outcome := (Task.build (.ofTexts "" ".js" "index.js") none none).run
      (handle Denial.nothing) memory
    ∃ report, outcome.result = .ok report ∧
      report.pageFiles = [Path.ofString "build/en/Intro.js"] ∧
      report.skippedFiles = [Path.ofString "build/fr/Intro.js"] ∧
      outcome.writes = report.pageFiles.map memory.completion ++
        report.indexFiles.map IndexFile.write := by
  intro memory outcome
  have split : outcome.result.map (fun report => (report.pageFiles, report.skippedFiles)) =
      .ok ([Path.ofString "build/en/Intro.js"], [Path.ofString "build/fr/Intro.js"]) := by
    decide +kernel
  obtain ⟨report, succeeded, pages⟩ := except_map_eq_ok.mp split
  obtain ⟨-, tree, -, -, -, -, -, -, writes, -⟩ := build_effect succeeded
  exact ⟨report, succeeded, congrArg Prod.fst pages, congrArg Prod.snd pages, writes⟩

end Builds

end Memory

end PageLinker
