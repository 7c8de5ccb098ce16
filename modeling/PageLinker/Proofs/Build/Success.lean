import PageLinker.Proofs.Build.Effects
import PageLinker.Proofs.Index.Placing
import PageLinker.Proofs.Tree.Reordering

/-!
# When a build succeeds

Where nothing is denied, a build comes to nothing because the tree cannot be read, because a page is
badly named, because a directory bears the name of a page, or because a directory takes the place of
an index.  In all other cases it succeeds.
-/

namespace PageLinker

namespace Memory

variable {memory left : Memory}

/-- A file, and not a directory, stands at the path. -/
def IsFile (memory : Memory) (path : Path) : Prop :=
  ∃ text, memory.find? path.steps = some (.leaf text)

theorem IsFile.of_sameShape {path : Path} (file : memory.IsFile path)
    (same : left.SameShape memory) : left.IsFile path := by
  obtain ⟨text, found⟩ := file
  have kind := same.kinds path.steps
  rw [found] at kind
  rw [IsFile]
  cases stands : left.find? path.steps with
  | none => simp [stands] at kind
  | some entry =>
      cases entry with
      | directory => simp [stands, Entry.isDirectory] at kind
      | leaf other => exact ⟨other, rfl⟩

theorem IsFile.textAt {path : Path} (file : memory.IsFile path) :
    memory.read path = .ok (memory.textAt path) := by
  obtain ⟨text, found⟩ := file
  have read := read_eq_ok_iff.mpr found
  rw [textAt_of_read read, read]

theorem isFile_of_read {path : Path} {text : String} (read : memory.read path = .ok text) :
    memory.IsFile path :=
  ⟨text, read_eq_ok_iff.mp read⟩

theorem completePage_succeeds {page : Path} (file : memory.IsFile page) :
    ∃ completed, ((Task.completePage page).run (handle Denial.nothing) memory).result =
      .ok completed := by
  obtain ⟨text, found⟩ := file
  have read := read_eq_ok_iff.mpr found
  cases present : ImportBlock.isPresent text with
  | true =>
      have run := run_completePage_of_present
        (rfl : Denial.nothing .readText page = false) read present
      exact ⟨false, congrArg Outcome.result run⟩
  | false =>
      have run := run_completePage_of_absent
        (rfl : Denial.nothing .readText page = false) read present
      have granted := Catalog.write_of_leaf found (ImportBlock.complete text)
      rw [guarded_eq_ok.mpr ⟨rfl, granted⟩] at run
      exact ⟨true, congrArg Outcome.result run⟩

theorem completePages_succeeds {pages : List Path} (files : ∀ page ∈ pages, memory.IsFile page) :
    ∃ answer, ((Task.completePages pages).run (handle Denial.nothing) memory).result =
      .ok answer := by
  induction pages generalizing memory with
  | nil => exact ⟨_, rfl⟩
  | cons page rest ih =>
      obtain ⟨first, others⟩ := List.forall_mem_cons.mp files
      obtain ⟨completed, result⟩ := completePage_succeeds first
      rw [Task.completePages_cons, Program.run_bind_of_ok result, Program.run_bind_pure]
      rcases run_completePage Denial.nothing memory page with
        ⟨refusal, refused, -⟩ | ⟨-, -, shape, -⟩
      · cases result.symm.trans refused
      · obtain ⟨answer, later⟩ := ih fun other listed => (others other listed).of_sameShape shape
        refine ⟨Task.withPage page completed answer, ?_⟩
        rw [Outcome.precededBy_result, Outcome.map_result, later]
        rfl

theorem blocks_eq_of_sameShape (same : left.SameShape memory) : left.blocks = memory.blocks :=
  funext fun file => same.isDirectory_eq file.path.steps

/-- A write that was carried out was not blocked by a directory. -/
theorem not_blocks_of_writeAll {writes : List (Path × String)} {file : IndexFile}
    (done : memory.writeAll writes = .ok left) (written : file.write ∈ writes) :
    memory.blocks file = false := by
  induction writes generalizing memory with
  | nil => cases written
  | cons write rest ih =>
      obtain ⟨between, granted, later⟩ := except_bind_eq_ok.mp done
      rcases List.mem_cons.mp written with rfl | inRest
      · exact Catalog.isDirectory_of_write granted
      · rw [← blocks_write granted]
        exact ih later inRest

section Builds

variable {root : Path} {extension indexFile : String}

/-- The tree can be built: its pages are well named files, and its indexes can be written. -/
structure CanBuild (memory : Memory) (indexFile : String) (tree : BuildTree) : Prop where
  wellNamed : ∀ group ∈ tree.groups, group.IsWellNamed
  files : ∀ page ∈ tree.memberPaths, memory.IsFile page
  unblocked : ∀ file ∈ tree.indexes indexFile, memory.blocks file = false

theorem buildTree_of_survey_error {failure : Failure}
    (failed : memory.survey root ⟨some extension, some indexFile⟩ = .error failure) :
    ((Task.buildTree root ⟨some extension, some indexFile⟩).run
      (handle Denial.nothing) memory).result = .error failure :=
  (run_buildTree_of_error ((run_readTree_result memory root _).trans failed)).1

section Found

variable {tree : BuildTree}
  (found : memory.survey root ⟨some extension, some indexFile⟩ = .ok tree)
include found

theorem buildTree_of_badName {violation : Naming.Violation}
    (refused : validateGroups tree.groups = .error violation) :
    ((Task.buildTree root ⟨some extension, some indexFile⟩).run
      (handle Denial.nothing) memory).result = .error (.badName violation) :=
  (run_buildTree_of_badName ((run_readTree_result memory root _).trans found) refused).1

theorem CanBuild.of_build {report : BuildReport}
    (succeeded : ((Task.buildTree root ⟨some extension, some indexFile⟩).run
      (handle Denial.nothing) memory).result = .ok report) : memory.CanBuild indexFile tree := by
  have read := (run_readTree_result memory root ⟨some extension, some indexFile⟩).trans found
  have wellNamed : ∀ group ∈ tree.groups, group.IsWellNamed := by
    cases checked : validateGroups tree.groups with
    | ok _ => exact validateGroups_eq_ok_iff.mp checked
    | error violation => cases succeeded.symm.trans (buildTree_of_badName found checked)
  rcases run_buildTree_of_wellNamed read wellNamed with
    ⟨refusal, path, refused⟩ | ⟨pages, -, writes⟩
  · cases succeeded.symm.trans refused
  · refine ⟨wellNamed, fun page listed => isFile_of_read (pages page listed), ?_⟩
    intro file listed
    have done := writeAll_run Denial.nothing
      (Task.buildTree root ⟨some extension, some indexFile⟩) memory
    refine not_blocks_of_writeAll done ?_
    rw [writes]
    exact List.mem_append_right _ (List.mem_map_of_mem listed)

theorem CanBuild.build (component : IsComponent indexFile)
    (canBuild : memory.CanBuild indexFile tree) :
    ∃ report, ((Task.buildTree root ⟨some extension, some indexFile⟩).run
      (handle Denial.nothing) memory).result = .ok report := by
  have read := (run_readTree_result memory root ⟨some extension, some indexFile⟩).trans found
  have accepted : Naming.asFailure (validateGroups tree.groups) = .ok () :=
    Naming.asFailure_eq_ok_iff.mpr (validateGroups_eq_ok_iff.mpr canBuild.wellNamed)
  obtain ⟨answer, completed⟩ := completePages_succeeds canBuild.files
  obtain ⟨-, -, -, -, shape, -⟩ := run_completePages
    (survey_isLaidOut found).memberPaths_nodup Denial.nothing memory
  simp only [(buildTree_onward_of_wellNamed read canBuild.wellNamed).1,
    Program.run_bind_of_ok completed, Outcome.precededBy_result]
  generalize (Task.completePages tree.memberPaths).run (handle Denial.nothing) memory = after
    at shape
  have foundAgain : after.state.survey root ⟨some extension, some indexFile⟩ = .ok tree :=
    (survey_eq_of_sameShape shape root _).trans found
  obtain ⟨-, indexed⟩ := run_writeIndexes_unhindered component foundAgain
  have unblocked : (tree.indexes indexFile).find? memory.blocks = none :=
    List.find?_eq_none.mpr fun file listed => by simp [canBuild.unblocked file listed]
  rw [BuildTree.indexesBeforeBad_of_wellNamed canBuild.wellNamed, blocks_eq_of_sameShape shape,
    unblocked, accepted] at indexed
  have noting := Task.note_onlySurveys .build .info
    s!"Added imports to {answer.1.length} page files ({answer.2.length} already done)"
  have noted := congrArg Outcome.result (run_note Denial.nothing after.state .build .info
    s!"Added imports to {answer.1.length} page files ({answer.2.length} already done)")
  rw [Task.indexAfter, noting.result_bind_of_ok noted, Program.run_bind_pure, Outcome.map_result,
    indexed]
  exact ⟨_, rfl⟩

end Found

/-- A build succeeds exactly when the tree can be read and be built. -/
theorem build_succeeds_iff (component : IsComponent indexFile) :
    (∃ report, ((Task.buildTree root ⟨some extension, some indexFile⟩).run
      (handle Denial.nothing) memory).result = .ok report) ↔
      ∃ tree, memory.survey root ⟨some extension, some indexFile⟩ = .ok tree ∧
        memory.CanBuild indexFile tree := by
  constructor
  · rintro ⟨report, succeeded⟩
    cases found : memory.survey root ⟨some extension, some indexFile⟩ with
    | error failure => cases succeeded.symm.trans (buildTree_of_survey_error found)
    | ok tree => exact ⟨tree, rfl, .of_build found succeeded⟩
  · rintro ⟨tree, found, canBuild⟩
    exact canBuild.build found component

/-- With the tree read, a build reports no clash, and it reports a bad name exactly when there is
one. -/
theorem build_verdict {tree : BuildTree}
    (found : memory.survey root ⟨some extension, some indexFile⟩ = .ok tree) :
    let result := ((Task.buildTree root ⟨some extension, some indexFile⟩).run
      (handle Denial.nothing) memory).result
    (¬ ∃ clash, result = .error (.clash clash)) ∧
      ((∃ violation, result = .error (.badName violation)) ↔
        ¬ ∀ group ∈ tree.groups, group.IsWellNamed) := by
  intro result
  cases checked : validateGroups tree.groups with
  | error violation =>
      have failed : result = _ := buildTree_of_badName found checked
      have badlyNamed : ¬ ∀ group ∈ tree.groups, group.IsWellNamed := by
        rw [← validateGroups_eq_ok_iff, checked]
        simp
      simp [failed, badlyNamed]
  | ok _ =>
      have wellNamed := validateGroups_eq_ok_iff.mp checked
      have read := (run_readTree_result memory root ⟨some extension, some indexFile⟩).trans found
      rcases run_buildTree_of_wellNamed read wellNamed with
        ⟨refusal, path, refused⟩ | ⟨-, succeeded, -⟩
      · have failed : result = _ := refused
        simpa [failed] using wellNamed
      · have finished : result = _ := succeeded
        simpa [finished] using wellNamed

theorem build_clash_iff :
    (∃ clash, ((Task.buildTree root ⟨some extension, some indexFile⟩).run
      (handle Denial.nothing) memory).result = .error (.clash clash)) ↔
      ∃ clash, memory.survey root ⟨some extension, some indexFile⟩ = .error (.clash clash) := by
  cases found : memory.survey root ⟨some extension, some indexFile⟩ with
  | error failure => simp [buildTree_of_survey_error found]
  | ok tree =>
      refine iff_of_false (build_verdict found).1 ?_
      rintro ⟨clash, ⟨⟩⟩

theorem build_badName_iff :
    (∃ violation, ((Task.buildTree root ⟨some extension, some indexFile⟩).run
      (handle Denial.nothing) memory).result = .error (.badName violation)) ↔
      ∃ tree, memory.survey root ⟨some extension, some indexFile⟩ = .ok tree ∧
        ¬ ∀ group ∈ tree.groups, group.IsWellNamed := by
  cases found : memory.survey root ⟨some extension, some indexFile⟩ with
  | ok tree => simpa using (build_verdict found).2
  | error failure =>
      have failed := buildTree_of_survey_error found
      have extensionSet : (⟨some extension, some indexFile⟩ : Layout).extension = some extension :=
        rfl
      rcases survey_cases extensionSet memory root with
        ⟨refusal, refused, -⟩ | ⟨-, ⟨tree, read⟩ | ⟨clash, clashes⟩⟩
      · cases found.symm.trans refused
        simp [failed]
      · cases found.symm.trans read
      · cases found.symm.trans clashes
        simp [failed]

end Builds

end Memory

end PageLinker
