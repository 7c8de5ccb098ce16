import PageLinker.Proofs.Index.Sequence
import PageLinker.Proofs.Tree.Survey

/-!
# What writing the indexes does

Whatever a memory holds and denies, the indexes of a tree are written in their order, and a run that
stops has written those before the point where it stopped: none when the tree cannot be read, and
those before the first group with a badly named page when the names are at fault.
-/

namespace PageLinker

namespace Memory

variable {denied : Denial} {memory : Memory}

theorem run_writeIndex (denied : Denial) (memory : Memory) (file : IndexFile) :
    (Task.writeIndex file).run (handle denied) memory =
      match denied.guarded .writeText file.path
        (memory.write file.path.steps file.content) with
      | .ok written => ⟨.ok file, written, [.writeText file.path file.content,
          .note ⟨.index, .debug, s!"Wrote {file.path} ({file.entries.length} entries)"⟩]⟩
      | .error failure => ⟨.error failure, memory, []⟩ := by
  have write := run_writeText denied memory file.path file.content
  cases writing : denied.guarded .writeText file.path
      (memory.write file.path.steps file.content) with
  | error failure =>
      rw [writing] at write
      rw [Task.writeIndex, Program.run_bind_of_error (by rw [write]), write]
  | ok written =>
      rw [writing] at write
      rw [Task.writeIndex, Program.run_bind_of_ok (by rw [write]), write]
      rfl

theorem run_writeIndex_cases (denied : Denial) (memory : Memory) (file : IndexFile) :
    let outcome := (Task.writeIndex file).run (handle denied) memory
    (∃ refusal, outcome.result = .error (.refused refusal file.path) ∧ outcome.writes = [] ∧
        handle denied (.writeText file.path file.content) outcome.state =
          .error (.refused refusal file.path)) ∨
      (outcome.result = .ok file ∧ outcome.writes = [file.write]) := by
  rw [run_writeIndex]
  cases writing : denied.guarded .writeText file.path
      (memory.write file.path.steps file.content) with
  | error failure =>
      obtain ⟨refusal, rfl⟩ := guarded_eq_error writing
      refine .inl ⟨refusal, rfl, rfl, ?_⟩
      rw [handle, guarded_map, writing]
      rfl
  | ok written => exact .inr ⟨rfl, rfl⟩

/-- The run wrote index files in their order until the write of one of them was refused. -/
def StopsAtWrite {α : Type} (denied : Denial) (files : List IndexFile)
    (outcome : Outcome Workspace.Request Memory α) : Prop :=
  ∃ before file after refusal, files = before ++ file :: after ∧
    outcome.writes = before.map IndexFile.write ∧
    outcome.result = .error (.refused refusal file.path) ∧
    handle denied (.writeText file.path file.content) outcome.state =
      .error (.refused refusal file.path)

namespace StopsAtWrite

variable {α β : Type} {files : List IndexFile} {task : Task α}

theorem bind (stops : StopsAtWrite denied files (task.run (handle denied) memory))
    (next : α → Task β) :
    StopsAtWrite denied files ((task >>= next).run (handle denied) memory) := by
  obtain ⟨before, file, after, refusal, isFiles, writes, failed, refused⟩ := stops
  rw [Program.run_bind_of_error failed]
  exact ⟨before, file, after, refusal, isFiles, writes, rfl, refused⟩

theorem after_survey (surveys : task.OnlySurveys) {value : α} {next : α → Task β}
    (found : (task.run (handle denied) memory).result = .ok value)
    (stops : StopsAtWrite denied files ((next value).run (handle denied) memory)) :
    StopsAtWrite denied files ((task >>= next).run (handle denied) memory) := by
  obtain ⟨before, file, after, refusal, isFiles, writes, failed, refused⟩ := stops
  have silent := surveys.writes_eq_nil denied memory
  rw [surveys.run_bind_of_ok found]
  refine ⟨before, file, after, refusal, isFiles, ?_, failed, refused⟩
  rw [Outcome.precededBy_writes, silent, List.nil_append, writes]

theorem of_prefix {more : List IndexFile} {outcome : Outcome Workspace.Request Memory α}
    (stops : StopsAtWrite denied files outcome) (isPrefix : files <+: more) :
    StopsAtWrite denied more outcome := by
  obtain ⟨before, file, after, refusal, rfl, writes, failed, refused⟩ := stops
  obtain ⟨rest, rfl⟩ := isPrefix
  exact ⟨before, file, after ++ rest, refusal, by simp, writes, failed, refused⟩

end StopsAtWrite

/-- Index files are written in their order, all of them unless a write is refused. -/
theorem run_writeIndexFiles (denied : Denial) (memory : Memory) (files : List IndexFile) :
    let outcome := (Task.writeIndexFiles files).run (handle denied) memory
    StopsAtWrite denied files outcome ∨
      (outcome.result = .ok files ∧ outcome.writes = files.map IndexFile.write) := by
  induction files generalizing memory with
  | nil => exact .inr ⟨rfl, rfl⟩
  | cons file rest ih =>
      rw [Task.writeIndexFiles]
      rcases run_writeIndex_cases denied memory file with
        ⟨refusal, failed, writes, refused⟩ | ⟨succeeded, writes⟩
      · have stops : StopsAtWrite denied (file :: rest)
            ((Task.writeIndex file).run (handle denied) memory) :=
          ⟨[], file, rest, refusal, rfl, writes, failed, refused⟩
        exact .inl (stops.bind _)
      · rw [Program.run_bind_of_ok succeeded, Program.run_bind_pure]
        generalize (Task.writeIndex file).run (handle denied) memory = first at *
        rcases ih first.state with
          ⟨before, other, after, refusal, rfl, laterWrites, failed, refused⟩ |
          ⟨finished, laterWrites⟩
        · refine .inl ⟨file :: before, other, after, refusal, rfl, ?_, ?_, refused⟩
          · rw [Outcome.precededBy_writes, Outcome.map_writes, writes, laterWrites]
            rfl
          · rw [Outcome.precededBy_result, Outcome.map_result, failed]
            rfl
        · refine .inr ⟨?_, ?_⟩
          · rw [Outcome.precededBy_result, Outcome.map_result, finished]
            rfl
          · rw [Outcome.precededBy_writes, Outcome.map_writes, writes, laterWrites]
            rfl

section Reading

variable {extension indexFile : String} {root : Path}

/-- A tree that cannot be read stops the run before anything is written. -/
theorem run_writeIndexes_of_error {failure : Failure}
    (failed : ((Task.readTree root ⟨some extension, some indexFile⟩).run
      (handle denied) memory).result = .error failure) :
    let outcome :=
      (Task.writeIndexes root ⟨some extension, some indexFile⟩).run (handle denied) memory
    outcome.result = .error failure ∧ outcome.writes = [] ∧ outcome.state = memory := by
  have surveys := Task.readTree_onlySurveys root ⟨some extension, some indexFile⟩
  simp only [Task.writeIndexes_eq, Program.result_bind_of_error failed,
    Program.writes_bind_of_error failed, Program.state_bind_of_error failed,
    surveys.writes_eq_nil, surveys.state_eq, and_self]

/-- With the tree read, its indexes up to the first badly named page are written, and the verdict on
the names decides, unless one of those writes is refused before. -/
theorem run_writeIndexes_cases {tree : BuildTree}
    (found : ((Task.readTree root ⟨some extension, some indexFile⟩).run
      (handle denied) memory).result = .ok tree) :
    let outcome :=
      (Task.writeIndexes root ⟨some extension, some indexFile⟩).run (handle denied) memory
    StopsAtWrite denied (tree.indexesBeforeBad indexFile) outcome ∨
      (outcome.writes = (tree.indexesBeforeBad indexFile).map IndexFile.write ∧
        outcome.result = (Naming.asFailure (validateGroups tree.groups)).map
          fun _ => tree.indexesBeforeBad indexFile) := by
  have reading := Task.readTree_onlySurveys root ⟨some extension, some indexFile⟩
  have noting := Task.note_onlySurveys .index .info
    s!"Indexing {tree.root}: {tree.groups.length} groups"
  have noted := congrArg Outcome.result (run_note denied memory .index .info
    s!"Indexing {tree.root}: {tree.groups.length} groups")
  rw [Task.writeIndexes_eq]
  rcases run_writeIndexFiles denied memory (tree.indexesBeforeBad indexFile) with
    stops | ⟨finished, writes⟩
  · exact .inl (.after_survey reading found (.after_survey noting noted (stops.bind _)))
  · right
    rw [reading.writes_bind_of_ok found, reading.result_bind_of_ok found, Task.writeTreeIndexes,
      noting.writes_bind_of_ok noted, noting.result_bind_of_ok noted,
      Program.run_bind_of_ok finished, Outcome.precededBy_writes, writes, Program.run_bind_pure,
      Program.run_ofExcept, Outcome.map_writes, Outcome.writes_of_granted_nil, List.append_nil]
    exact ⟨rfl, rfl⟩

/-- With the tree read, a part of its indexes is written, in their order. -/
theorem run_writeIndexes_of_ok {tree : BuildTree}
    (found : ((Task.readTree root ⟨some extension, some indexFile⟩).run
      (handle denied) memory).result = .ok tree) :
    let outcome :=
      (Task.writeIndexes root ⟨some extension, some indexFile⟩).run (handle denied) memory
    outcome.writes <+: (tree.indexesBeforeBad indexFile).map IndexFile.write ∧
      ((∃ refusal path, outcome.result = .error (.refused refusal path)) ∨
        (outcome.writes = (tree.indexesBeforeBad indexFile).map IndexFile.write ∧
          outcome.result = (Naming.asFailure (validateGroups tree.groups)).map
            fun _ => tree.indexesBeforeBad indexFile)) := by
  intro outcome
  rcases run_writeIndexes_cases found with
    ⟨before, file, after, refusal, files, writes, failed, -⟩ | ⟨writes, verdict⟩
  · refine ⟨?_, .inl ⟨refusal, file.path, failed⟩⟩
    rw [writes, files]
    exact (List.prefix_append before _).map _
  · rw [writes]
    exact ⟨List.prefix_refl _, .inr ⟨rfl, verdict⟩⟩

end Reading

/-- What writing the indexes does in every outcome.  A tree that cannot be read leaves everything as
it was; a bad name leaves the indexes before its group; a success leaves all of them. -/
theorem writeIndexes_effect (denied : Denial) (memory : Memory) (root : Path)
    (extension indexFile : String) :
    let layout : Layout := ⟨some extension, some indexFile⟩
    let reading := (Task.readTree root layout).run (handle denied) memory
    let outcome := (Task.writeIndexes root layout).run (handle denied) memory
    (∀ failure, reading.result = .error failure →
        outcome.result = .error failure ∧ outcome.writes = [] ∧ outcome.state = memory) ∧
      (∀ tree, reading.result = .ok tree →
        outcome.writes <+: (tree.indexes indexFile).map IndexFile.write ∧
          (∀ violation, outcome.result = .error (.badName violation) →
            ∃ before bad after, tree.groups = before ++ bad :: after ∧
              (∀ group ∈ before, group.IsWellNamed) ∧
              ¬ bad.IsWellNamed ∧ bad.validate = .error violation ∧
              outcome.writes = (tree.rootIndex indexFile ::
                before.map (·.index indexFile)).map IndexFile.write) ∧
          (∀ files, outcome.result = .ok files →
            files = tree.indexes indexFile ∧ outcome.writes = files.map IndexFile.write)) ∧
      ∀ path, path ∉ outcome.writes.map (·.1) →
        outcome.state.find? path.steps = memory.find? path.steps := by
  intro layout reading outcome
  refine ⟨fun failure => run_writeIndexes_of_error, fun tree found => ?_,
    fun path => find?_run_of_not_written denied _ memory⟩
  obtain ⟨isPrefix, ends⟩ := run_writeIndexes_of_ok found
  refine ⟨isPrefix.trans ((tree.indexesBeforeBad_prefix indexFile).map _), ?_, ?_⟩
  · intro violation failed
    rcases ends with ⟨refusal, path, refused⟩ | ⟨writes, verdict⟩
    · cases refused.symm.trans failed
    · have refused := except_map_eq_error.mp (verdict.symm.trans failed)
      obtain ⟨_, first, ⟨⟩⟩ := Naming.asFailure_eq_error_iff.mp refused
      obtain ⟨before, bad, after, groups, wellNamed, badVerdict⟩ :=
        exists_first_of_validateGroups first
      have badlyNamed : ¬ bad.IsWellNamed := by
        rw [← Group.validate_eq_ok_iff, badVerdict]
        simp
      refine ⟨before, bad, after, groups, wellNamed, badlyNamed, badVerdict, ?_⟩
      rw [← BuildTree.indexesBeforeBad_of_first groups wellNamed badlyNamed]
      exact writes
  · intro files succeeded
    rcases ends with ⟨refusal, path, refused⟩ | ⟨writes, verdict⟩
    · cases refused.symm.trans succeeded
    · obtain ⟨_, accepted, rfl⟩ := except_map_eq_ok.mp (verdict.symm.trans succeeded)
      have wellNamed := validateGroups_eq_ok_iff.mp (Naming.asFailure_eq_ok_iff.mp accepted)
      exact ⟨BuildTree.indexesBeforeBad_of_wellNamed wellNamed, writes⟩

theorem writeIndexes_effect_of_misnamed :
    let memory := ofFiles [("build/en/Intro.js", ""), ("build/fr/intro.js", "")]
    let outcome := (Task.writeIndexes (Path.ofString "build") ⟨some ".js", some "index.js"⟩).run
      (handle Denial.nothing) memory
    let violation : Naming.Violation := ⟨"intro", .latinCapital, "fr", "intro.js"⟩
    outcome.result = .error (.badName violation) ∧
      ∃ (tree : BuildTree) (before : List Group) (bad : Group) (after : List Group),
        tree.groups = before ++ bad :: after ∧ bad.validate = .error violation ∧
        outcome.writes = (tree.rootIndex "index.js" ::
          before.map (·.index "index.js")).map IndexFile.write := by
  intro memory outcome violation
  have failed : outcome.result = .error (.badName violation) := by decide +kernel
  have names : ((Task.readTree (Path.ofString "build") ⟨some ".js", some "index.js"⟩).run
      (handle Denial.nothing) memory).result.map BuildTree.groupNames = .ok ["en", "fr"] := by
    decide +kernel
  obtain ⟨tree, found, -⟩ := except_map_eq_ok.mp names
  obtain ⟨-, effect, -⟩ :=
    writeIndexes_effect Denial.nothing memory (Path.ofString "build") ".js" "index.js"
  obtain ⟨-, stopped, -⟩ := effect tree found
  obtain ⟨before, bad, after, groups, -, -, verdict, writes⟩ := stopped violation failed
  exact ⟨failed, tree, before, bad, after, groups, verdict, writes⟩

end Memory

end PageLinker
