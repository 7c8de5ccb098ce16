import PageLinker.Proofs.Build.Effects
import PageLinker.Proofs.Tree.Reordering
import PageLinker.Proofs.Tree.Violations

/-!
# Faults in the pages

A build checks all names before it writes anything, while the indexes are written group by group
with the checks in between.  Both come to the same verdict on the pages, unless the write of an
index is refused before the badly named page is reached.
-/

namespace PageLinker

namespace Memory

variable {denied : Denial} {memory : Memory} {root : Path} {extension indexFile : String}
  {failure : Failure}

/-- The tree if it can be read and all its pages are well named, else what is wrong. -/
def verdict (denied : Denial) (memory : Memory) (root : Path) (layout : Layout) :
    Except Failure BuildTree := do
  let tree ← ((Task.readTree root layout).run (handle denied) memory).result
  (Naming.asFailure (validateGroups tree.groups)).map fun _ => tree

theorem verdict_eq_ok_iff {layout : Layout} {tree : BuildTree} :
    memory.verdict denied root layout = .ok tree ↔
      ((Task.readTree root layout).run (handle denied) memory).result = .ok tree ∧
        ∀ group ∈ tree.groups, group.IsWellNamed := by
  simp only [verdict, except_bind_eq_ok, except_map_eq_ok, Naming.asFailure_eq_ok_iff]
  constructor
  · rintro ⟨found, read, _, accepted, rfl⟩
    exact ⟨read, validateGroups_eq_ok_iff.mp accepted⟩
  · rintro ⟨read, wellNamed⟩
    exact ⟨tree, read, (), validateGroups_eq_ok_iff.mpr wellNamed, rfl⟩

theorem verdict_eq_error_iff {layout : Layout} :
    memory.verdict denied root layout = .error failure ↔
      ((Task.readTree root layout).run (handle denied) memory).result = .error failure ∨
        ∃ tree violation,
          ((Task.readTree root layout).run (handle denied) memory).result = .ok tree ∧
            validateGroups tree.groups = .error violation ∧ failure = .badName violation := by
  rw [verdict]
  cases read : ((Task.readTree root layout).run (handle denied) memory).result with
  | error own => simp
  | ok tree => simp [except_map_eq_error, Naming.asFailure_eq_error_iff]

/-- A failure that lies in the pages is no refusal. -/
theorem ne_refused_of_pageReport (inPages : failure.pageReport.isSome) (refusal : Refusal)
    (path : Path) : failure ≠ .refused refusal path := by
  rintro rfl
  cases inPages

theorem StopsAtWrite.result_ne {α : Type} {files : List IndexFile}
    {outcome : Outcome Workspace.Request Memory α} (stops : StopsAtWrite denied files outcome)
    (inPages : failure.pageReport.isSome) : outcome.result ≠ .error failure := by
  obtain ⟨-, file, -, refusal, -, -, refused, -⟩ := stops
  intro failed
  exact ne_refused_of_pageReport inPages refusal file.path
    (Except.error.inj (failed.symm.trans refused))

/-- A tree that cannot be read says nothing about the names of its pages. -/
theorem readTree_ne_badName (violation : Naming.Violation) :
    ((Task.readTree root ⟨some extension, some indexFile⟩).run (handle denied) memory).result ≠
      .error (.badName violation) := by
  intro failed
  rcases Program.refused_or_run_eq (handle_curbs denied)
      (Task.readTree root ⟨some extension, some indexFile⟩) memory with
    ⟨request, reached, refusal, refused, result⟩ | same
  · obtain ⟨refusal, path, rfl⟩ := handle_eq_error refused
    cases failed.symm.trans result
  · have surveyed := run_readTree_result memory root ⟨some extension, some indexFile⟩
    rw [same, failed] at surveyed
    have extensionSet : (⟨some extension, some indexFile⟩ : Layout).extension = some extension :=
      rfl
    rcases survey_cases extensionSet memory root with
      ⟨refusal, refused, -⟩ | ⟨-, ⟨tree, found⟩ | ⟨clash, clashes⟩⟩
    · cases surveyed.trans refused
    · cases surveyed.trans found
    · cases surveyed.trans clashes

/-- A build fails as the verdict says, before it writes anything. -/
theorem buildTree_of_verdict
    (wrong : memory.verdict denied root ⟨some extension, some indexFile⟩ = .error failure) :
    ((Task.buildTree root ⟨some extension, some indexFile⟩).run
      (handle denied) memory).result = .error failure := by
  rcases verdict_eq_error_iff.mp wrong with unread | ⟨tree, violation, read, refused, rfl⟩
  · exact (run_buildTree_of_error unread).1
  · exact (run_buildTree_of_badName read refused).1

theorem verdict_of_buildTree (inPages : failure.pageReport.isSome)
    (failed : ((Task.buildTree root ⟨some extension, some indexFile⟩).run
      (handle denied) memory).result = .error failure) :
    memory.verdict denied root ⟨some extension, some indexFile⟩ = .error failure := by
  cases told : memory.verdict denied root ⟨some extension, some indexFile⟩ with
  | error own =>
      exact congrArg _ (Except.error.inj ((buildTree_of_verdict told).symm.trans failed))
  | ok tree =>
      obtain ⟨read, wellNamed⟩ := verdict_eq_ok_iff.mp told
      rcases run_buildTree_of_wellNamed read wellNamed with
        ⟨refusal, path, refused⟩ | ⟨-, succeeded, -⟩
      · refine absurd ?_ (ne_refused_of_pageReport inPages refusal path)
        exact Except.error.inj (failed.symm.trans refused)
      · cases failed.symm.trans succeeded

/-- Writing the indexes fails as the verdict says, or is refused one of the writes before. -/
theorem writeIndexes_of_verdict
    (wrong : memory.verdict denied root ⟨some extension, some indexFile⟩ = .error failure) :
    let outcome :=
      (Task.writeIndexes root ⟨some extension, some indexFile⟩).run (handle denied) memory
    outcome.result = .error failure ∨
      ∃ tree, ((Task.readTree root ⟨some extension, some indexFile⟩).run
          (handle denied) memory).result = .ok tree ∧
        StopsAtWrite denied (tree.indexes indexFile) outcome := by
  rcases verdict_eq_error_iff.mp wrong with unread | ⟨tree, violation, read, refused, rfl⟩
  · exact .inl (run_writeIndexes_of_error unread).1
  · rcases run_writeIndexes_cases read with stops | ⟨-, result⟩
    · exact .inr ⟨tree, read, stops.of_prefix (tree.indexesBeforeBad_prefix indexFile)⟩
    · rw [refused] at result
      exact .inl result

theorem verdict_of_writeIndexes (inPages : failure.pageReport.isSome)
    (failed : ((Task.writeIndexes root ⟨some extension, some indexFile⟩).run
      (handle denied) memory).result = .error failure) :
    memory.verdict denied root ⟨some extension, some indexFile⟩ = .error failure := by
  cases told : memory.verdict denied root ⟨some extension, some indexFile⟩ with
  | error own =>
      rcases writeIndexes_of_verdict told with same | ⟨tree, -, stops⟩
      · exact congrArg _ (Except.error.inj (same.symm.trans failed))
      · exact absurd failed (stops.result_ne inPages)
  | ok tree =>
      obtain ⟨read, wellNamed⟩ := verdict_eq_ok_iff.mp told
      rcases run_writeIndexes_cases read with stops | ⟨-, result⟩
      · exact absurd failed (stops.result_ne inPages)
      · rw [validateGroups_eq_ok_iff.mpr wellNamed] at result
        cases failed.symm.trans result

/-- Building a tree and writing its indexes report the same faults in the pages, except that the
write of an index may be refused before a badly named page is reached.  The page that is reported
has the least bad name in the first group that has one, and is reported with its file and the first
rule that it breaks. -/
theorem build_and_indexes_report_alike (denied : Denial) (memory : Memory) (root : Path)
    (directory extension indexFile : String) (environment : Option String) :
    let settings := Settings.ofTexts directory extension indexFile
    let build := (Task.build settings environment (some root)).run (handle denied) memory
    let indexing := (Task.writeIndexes root settings.layout).run (handle denied) memory
    (∀ failure, failure.pageReport.isSome → indexing.result = .error failure →
        build.result = .error failure) ∧
      (∀ failure, failure.pageReport.isSome → build.result = .error failure →
        indexing.result = .error failure ∨
          ∃ tree, ((Task.readTree root settings.layout).run (handle denied) memory).result =
            .ok tree ∧ StopsAtWrite denied (tree.indexes indexFile) indexing) ∧
      ∀ violation, build.result = .error (.badName violation) ∨
          indexing.result = .error (.badName violation) →
        ∃ group page rule, violation = ⟨page.base, rule, some group, some page.filename⟩ ∧
          memory.IsFirstBad root settings.layout group page rule := by
  intro settings build indexing
  refine ⟨fun failure inPages failed => ?_, fun failure inPages failed => ?_,
    fun violation failed => ?_⟩
  · exact buildTree_of_verdict (verdict_of_writeIndexes inPages failed)
  · exact writeIndexes_of_verdict (verdict_of_buildTree inPages failed)
  · have told : memory.verdict denied root settings.layout = .error (.badName violation) :=
      failed.elim (verdict_of_buildTree rfl) (verdict_of_writeIndexes rfl)
    rcases verdict_eq_error_iff.mp told with unread | ⟨tree, _, read, refused, ⟨⟩⟩
    · exact absurd unread (readTree_ne_badName violation)
    · exact isFirstBad_of_validateGroups rfl (survey_of_read read) refused

theorem build_and_indexes_report_least_name :
    let memory := ofFiles [("build/en/Intro.js", ""), ("build/fr/zeta.js", ""),
      ("build/fr/alpha.js", "")]
    let root := Path.ofString "build"
    let settings := Settings.ofTexts "" ".js" "index.js"
    let build := (Task.build settings none (some root)).run (handle Denial.nothing) memory
    let hindered := Denial.nothing.alsoDeny .writeText (Path.ofString "build/en/index.js")
    let indexing := (Task.writeIndexes root settings.layout).run (handle hindered) memory
    build.result = .error (.badName ⟨"alpha", .latinCapital, "fr", "alpha.js"⟩) ∧
      memory.IsFirstBad root settings.layout "fr" ⟨"alpha", "alpha.js"⟩ .latinCapital ∧
      ∃ tree : BuildTree, StopsAtWrite hindered (tree.indexes "index.js") indexing := by
  intro memory root settings build hindered indexing
  have indexed : ((Task.writeIndexes root settings.layout).run
      (handle Denial.nothing) memory).result =
        .error (.badName ⟨"alpha", .latinCapital, "fr", "alpha.js"⟩) := by decide +kernel
  have hinderedBuild : ((Task.build settings none (some root)).run
      (handle hindered) memory).result =
        .error (.badName ⟨"alpha", .latinCapital, "fr", "alpha.js"⟩) := by decide +kernel
  have refused : indexing.result =
      .error (.refused .denied (Path.ofString "build/en/index.js")) := by decide +kernel
  obtain ⟨builds, -, reports⟩ :=
    build_and_indexes_report_alike Denial.nothing memory root "" ".js" "index.js" none
  obtain ⟨-, indexes, -⟩ :=
    build_and_indexes_report_alike hindered memory root "" ".js" "index.js" none
  obtain ⟨group, ⟨base, filename⟩, rule, same, first⟩ := reports _ (.inr indexed)
  cases same
  refine ⟨builds _ rfl indexed, first, ?_⟩
  rcases indexes _ rfl hinderedBuild with failed | ⟨tree, -, stops⟩
  · cases refused.symm.trans failed
  · exact ⟨tree, stops⟩

end Memory

end PageLinker
