import PageLinker.Proofs.Build.Steps
import PageLinker.Proofs.Build.Success
import PageLinker.Proofs.Memory.Reordering

/-!
# Pages that were completed beforehand

Pages can be completed one by one before a build.  Texts that are written over others at distinct
places can be written in any order, so it makes no difference whether a page was completed on its
own or by the build, which leaves the pages alone that are done.
-/

namespace PageLinker

namespace Catalog

variable {Allowed : Route → Prop} {α : Type}

/-- Leaves at two places can be refilled in either order. -/
theorem refill_comm (catalog : Catalog Allowed α) {first second : Route} (differ : first ≠ second)
    (content other : α) :
    (catalog.refill first content).refill second other =
      (catalog.refill second other).refill first content := by
  apply eq_of_entries_eq
  simp only [refill, List.map_map]
  refine List.map_congr_left fun entry _ => ?_
  by_cases atFirst : entry.1 = first
  · simp [atFirst, differ]
  · by_cases atSecond : entry.1 = second
    · simp [atSecond, differ.symm]
    · simp [atFirst, atSecond]

end Catalog

namespace Memory

variable {memory : Memory} {page : Path} {pages : List Path} {writes : List (Path × String)}

/-- The memory with texts in the place of others. -/
def overwriteAll (memory : Memory) (writes : List (Path × String)) : Memory :=
  writes.foldl (fun left write => left.refill write.1.steps write.2) memory

theorem overwriteAll_append (memory : Memory) (writes later : List (Path × String)) :
    memory.overwriteAll (writes ++ later) = (memory.overwriteAll writes).overwriteAll later :=
  List.foldl_append

theorem sameShape_overwriteAll (memory : Memory) (writes : List (Path × String)) :
    (memory.overwriteAll writes).SameShape memory := by
  induction writes generalizing memory with
  | nil => exact .refl memory
  | cons write rest ih =>
      exact (ih _).trans (Catalog.sameShape_refill memory write.1.steps write.2)

/-- Texts at distinct places can be overwritten in any order. -/
theorem overwriteAll_perm (memory : Memory) {others : List (Path × String)}
    (distinct : (writes.map (·.1)).Nodup) (same : writes.Perm others) :
    memory.overwriteAll writes = memory.overwriteAll others := by
  refine same.foldl_eq' (fun first firstListed second secondListed left => ?_) memory
  by_cases place : first.1 = second.1
  · rw [List.inj_on_of_nodup_map distinct firstListed secondListed place]
  · exact left.refill_comm (fun steps => place (Path.steps_injective steps)) _ _

/-- Writes over files are granted, and overwrite them. -/
theorem writeAll_of_files (files : ∀ write ∈ writes, memory.IsFile write.1) :
    memory.writeAll writes = .ok (memory.overwriteAll writes) := by
  induction writes generalizing memory with
  | nil => rfl
  | cons write rest ih =>
      obtain ⟨⟨old, found⟩, others⟩ := List.forall_mem_cons.mp files
      have shape := Catalog.sameShape_refill memory write.1.steps write.2
      have later := ih fun other listed => (others other listed).of_sameShape shape
      rw [writeAll, Catalog.write_of_leaf found, except_ok_bind, later]
      rfl

/-- The memory with the pages completed, whether they have a block already or not. -/
def withCompleted (memory : Memory) (pages : List Path) : Memory :=
  memory.overwriteAll (pages.map memory.completion)

theorem withCompleted_perm (memory : Memory) {others : List Path} (distinct : pages.Nodup)
    (same : pages.Perm others) : memory.withCompleted pages = memory.withCompleted others := by
  refine memory.overwriteAll_perm ?_ (same.map memory.completion)
  rw [map_fst_completion]
  exact distinct

theorem sameShape_withCompleted (memory : Memory) (pages : List Path) :
    (memory.withCompleted pages).SameShape memory :=
  sameShape_overwriteAll memory _

section Files

variable (files : ∀ page ∈ pages, memory.IsFile page)
include files

theorem writeAll_completions :
    memory.writeAll (pages.map memory.completion) = .ok (memory.withCompleted pages) := by
  refine writeAll_of_files fun write listed => ?_
  obtain ⟨page, inPages, rfl⟩ := List.mem_map.mp listed
  exact files page inPages

theorem textAt_withCompleted_of_not_mem {other : Path} (apart : other ∉ pages) :
    (memory.withCompleted pages).textAt other = memory.textAt other := by
  refine textAt_eq_of_find?_eq (find?_writeAll_of_untouched (writeAll_completions files) ?_)
  intro write listed steps
  obtain ⟨page, inPages, rfl⟩ := List.mem_map.mp listed
  exact apart (Path.steps_injective steps ▸ inPages)

/-- Pages can be completed in two goes. -/
theorem withCompleted_append {others : List Path} (apart : ∀ other ∈ others, other ∉ pages) :
    memory.withCompleted (pages ++ others) = (memory.withCompleted pages).withCompleted others := by
  have unchanged : others.map (memory.withCompleted pages).completion =
      others.map memory.completion := by
    refine List.map_congr_left fun other listed => ?_
    rw [completion, completion, textAt_withCompleted_of_not_mem files (apart other listed)]
  rw [withCompleted, List.map_append, overwriteAll_append, ← unchanged]
  rfl

variable (distinct : pages.Nodup)
include distinct

theorem textAt_withCompleted_of_mem (listed : page ∈ pages) :
    (memory.withCompleted pages).textAt page = ImportBlock.complete (memory.textAt page) := by
  have nodup : ((pages.map memory.completion).map (·.1)).Nodup := by
    rw [map_fst_completion]
    exact distinct
  have found := find?_writeAll_of_mem nodup (writeAll_completions files)
    (List.mem_map_of_mem listed)
  exact textAt_of_read (read_eq_ok_iff.mpr found)

/-- Of pages that were completed beforehand, none lacks its block, and the others are as before. -/
theorem lacksBlock_withCompleted (other : Path) :
    (memory.withCompleted pages).lacksBlock other = (memory.lacksBlock other && other ∉ pages) := by
  rw [lacksBlock, lacksBlock]
  by_cases listed : other ∈ pages
  · rw [textAt_withCompleted_of_mem files distinct listed, ImportBlock.isPresent_complete]
    simp [listed]
  · rw [textAt_withCompleted_of_not_mem files listed]
    simp [listed]

end Files

theorem completeFile_yields (file : memory.IsFile page) :
    (Task.completeFile page).Yields (handle Denial.nothing) memory
      (ImportBlock.complete (memory.textAt page)) (memory.withCompleted [page]) := by
  obtain ⟨old, found⟩ := file
  have granted := Catalog.write_of_leaf found (ImportBlock.complete (memory.textAt page))
  refine (Task.completeFile_yields_iff (handle_isStorage _)).mpr ⟨memory.textAt page, ?_, rfl, ?_⟩
  · have read := IsFile.textAt ⟨old, found⟩
    exact guarded_eq_ok.mpr ⟨rfl, by rw [read]; rfl⟩
  · exact guarded_eq_ok.mpr ⟨rfl, by rw [granted]; rfl⟩

/-- Distinct files are completed one by one, each with the block for its own text. -/
theorem completeFiles_yields (distinct : pages.Nodup) (files : ∀ page ∈ pages, memory.IsFile page) :
    (pages.mapM Task.completeFile).Yields (handle Denial.nothing) memory
      (pages.map fun page => ImportBlock.complete (memory.textAt page))
      (memory.withCompleted pages) := by
  induction pages generalizing memory with
  | nil => exact Program.yields_done.mpr ⟨rfl, rfl⟩
  | cons page rest ih =>
      obtain ⟨notLater, distinctRest⟩ := List.nodup_cons.mp distinct
      obtain ⟨file, others⟩ := List.forall_mem_cons.mp files
      have first : ∀ listed ∈ [page], memory.IsFile listed := by simpa using file
      have apart : ∀ other ∈ rest, other ∉ [page] := by
        intro other listed same
        exact notLater (List.mem_singleton.mp same ▸ listed)
      have later := ih distinctRest fun other listed =>
        (others other listed).of_sameShape (memory.sameShape_withCompleted [page])
      rw [← withCompleted_append first apart] at later
      have texts : (rest.map fun other =>
          ImportBlock.complete ((memory.withCompleted [page]).textAt other)) =
            rest.map fun other => ImportBlock.complete (memory.textAt other) := by
        refine List.map_congr_left fun other listed => ?_
        rw [textAt_withCompleted_of_not_mem first (apart other listed)]
      rw [texts] at later
      rw [List.mapM_cons, Program.yields_bind]
      exact ⟨_, _, completeFile_yields file, Program.yields_bind_pure.mpr ⟨_, later, rfl⟩⟩

/-- Over distinct files, a build completes the pages that lack their block and leaves the others. -/
theorem run_completePages_of_files (distinct : pages.Nodup)
    (files : ∀ page ∈ pages, memory.IsFile page) :
    let outcome := (Task.completePages pages).run (handle Denial.nothing) memory
    outcome.result = .ok (pages.filter memory.lacksBlock, pages.filter (!memory.lacksBlock ·)) ∧
      outcome.state = memory.withCompleted (pages.filter memory.lacksBlock) ∧
      outcome.writes = (pages.filter memory.lacksBlock).map memory.completion := by
  obtain ⟨answer, succeeded⟩ := completePages_succeeds files
  obtain ⟨treated, -, -, writes, -, ends⟩ := run_completePages distinct Denial.nothing memory
  rcases ends with ⟨refusal, path, refused⟩ | ⟨rfl, finished⟩
  · cases succeeded.symm.trans refused
  · have done := writeAll_run Denial.nothing (Task.completePages treated) memory
    have chosen : ∀ page ∈ treated.filter memory.lacksBlock, memory.IsFile page :=
      fun page listed => files page (List.mem_filter.mp listed).1
    rw [writes, writeAll_completions chosen] at done
    exact ⟨finished, (Except.ok.inj done).symm, writes⟩

theorem completePages_yields (distinct : pages.Nodup) (files : ∀ page ∈ pages, memory.IsFile page) :
    (Task.completePages pages).Yields (handle Denial.nothing) memory
      (pages.filter memory.lacksBlock, pages.filter (!memory.lacksBlock ·))
      (memory.withCompleted (pages.filter memory.lacksBlock)) := by
  obtain ⟨finished, state, -⟩ := run_completePages_of_files distinct files
  exact ⟨finished, state⟩

section Remaining

variable {all : List Path} (nodup : all.Nodup) (files : ∀ page ∈ all, memory.IsFile page)
  (distinct : pages.Nodup) (members : ∀ page ∈ pages, page ∈ all)
include files distinct members

theorem mem_remaining_iff :
    page ∈ all.filter (memory.withCompleted pages).lacksBlock ↔
      page ∈ all.filter memory.lacksBlock ∧ page ∉ pages := by
  have lacksBlock := lacksBlock_withCompleted (fun page listed => files page (members page listed))
    distinct
  simp only [List.mem_filter, lacksBlock, Bool.and_eq_true, decide_eq_true_eq, and_assoc]

include nodup

/-- Some pages that lack their block can be completed first, and the remaining ones after them. -/
theorem withCompleted_remaining (lacking : ∀ page ∈ pages, memory.lacksBlock page = true) :
    (memory.withCompleted pages).withCompleted
        (all.filter (memory.withCompleted pages).lacksBlock) =
      memory.withCompleted (all.filter memory.lacksBlock) := by
  have isRemaining {page : Path} :
      page ∈ all.filter (memory.withCompleted pages).lacksBlock ↔
        page ∈ all.filter memory.lacksBlock ∧ page ∉ pages :=
    mem_remaining_iff files distinct members
  have apart : ∀ page ∈ all.filter (memory.withCompleted pages).lacksBlock, page ∉ pages :=
    fun page listed => (isRemaining.mp listed).2
  have together : (pages ++ all.filter (memory.withCompleted pages).lacksBlock).Nodup :=
    List.nodup_append'.mpr ⟨distinct, nodup.filter _, fun page first later => apart page later first⟩
  rw [← withCompleted_append (fun page listed => files page (members page listed)) apart]
  refine memory.withCompleted_perm together ?_
  refine (List.perm_ext_iff_of_nodup together (nodup.filter _)).mpr fun page => ?_
  rw [List.mem_append, isRemaining]
  constructor
  · rintro (listed | ⟨listed, -⟩)
    · exact List.mem_filter.mpr ⟨members page listed, lacking page listed⟩
    · exact listed
  · intro listed
    by_cases before : page ∈ pages
    · exact .inl before
    · exact .inr ⟨listed, before⟩

end Remaining

section Builds

variable {root : Path} {extension indexFile directory : String} {environment : Option String}
  {given : Option Path} {report : BuildReport} {tree : BuildTree}

/-- Pages of a tree that lack their block can be completed before it is built.  The build then
leaves them alone, and otherwise does what it would have done. -/
theorem buildTree_yields_withCompleted {left : Memory}
    (found : ((Task.readTree root ⟨some extension, some indexFile⟩).run
      (handle Denial.nothing) memory).result = .ok tree)
    (succeeds : (Task.buildTree root ⟨some extension, some indexFile⟩).Yields
      (handle Denial.nothing) memory report left)
    (distinct : pages.Nodup) (members : ∀ page ∈ pages, page ∈ tree.memberPaths)
    (lacking : ∀ page ∈ pages, memory.lacksBlock page = true) :
    (Task.buildTree root ⟨some extension, some indexFile⟩).Yields (handle Denial.nothing)
      (memory.withCompleted pages)
      ⟨report.root, report.pageFiles.filter (· ∉ pages),
        tree.memberPaths.filter (fun page => page ∈ pages ∨ page ∈ report.skippedFiles),
        report.indexFiles⟩ left := by
  have isFile := (CanBuild.of_build (survey_of_read found) succeeds.1).files
  have nodup := (survey_isLaidOut (survey_of_read found)).memberPaths_nodup
  obtain ⟨again, foundAgain, wellNamed, answer, between, completes, indexes, indexing, rfl⟩ :=
    (Task.buildTree_yields_iff (handle_isStorage _)).mp succeeds
  obtain rfl : tree = again := Except.ok.inj (found.symm.trans foundAgain)
  obtain ⟨rfl, rfl⟩ := completes.unique (completePages_yields nodup isFile)
  have shape := memory.sameShape_withCompleted pages
  have isFileStill : ∀ page ∈ tree.memberPaths, (memory.withCompleted pages).IsFile page :=
    fun page listed => (isFile page listed).of_sameShape shape
  have completesRest := completePages_yields nodup isFileStill
  rw [withCompleted_remaining nodup isFile distinct members lacking] at completesRest
  have foundReady := ((Task.readTree_onlySurveys root ⟨some extension, some indexFile⟩).result_eq
    shape).symm.trans found
  refine (Task.buildTree_yields_iff (handle_isStorage _)).mpr
    ⟨tree, foundReady, wellNamed, _, _, completesRest, indexes, indexing, ?_⟩
  have lacksBlock := lacksBlock_withCompleted (fun page listed => isFile page (members page listed))
    distinct
  have completed : (tree.memberPaths.filter memory.lacksBlock).filter (· ∉ pages) =
      tree.memberPaths.filter (memory.withCompleted pages).lacksBlock := by
    rw [List.filter_filter]
    exact List.filter_congr fun page _ => by rw [lacksBlock, Bool.and_comm]
  have skipped : tree.memberPaths.filter (fun page => page ∈ pages ∨
        page ∈ tree.memberPaths.filter (!memory.lacksBlock ·)) =
      tree.memberPaths.filter (!(memory.withCompleted pages).lacksBlock ·) := by
    refine List.filter_congr fun page listed => ?_
    simp [lacksBlock, listed, Bool.or_comm]
  simp only [completed, skipped]

/-- Pages that lack their block can be completed one by one before a build, some or all of them and
in any order.  The build then leaves these pages alone, and ends in the same memory and with the
same indexes as on its own. -/
theorem build_after_completing
    (succeeded : ((Task.build (.ofTexts directory extension indexFile) environment given).run
      (handle Denial.nothing) memory).result = .ok report)
    (found : ((Task.readTree report.root ⟨some extension, some indexFile⟩).run
      (handle Denial.nothing) memory).result = .ok tree)
    (distinct : pages.Nodup) (members : ∀ page ∈ pages, page ∈ tree.memberPaths)
    (lacking : ∀ page ∈ pages, memory.lacksBlock page = true) :
    let task := Task.build (.ofTexts directory extension indexFile) environment given
    let alone := task.run (handle Denial.nothing) memory
    let prepared := (pages.mapM Task.completeFile).run (handle Denial.nothing) memory
    let following := task.run (handle Denial.nothing) prepared.state
    prepared.result = .ok (pages.map fun page => ImportBlock.complete (memory.textAt page)) ∧
      following.state = alone.state ∧
      ∃ later, following.result = .ok later ∧ later.root = report.root ∧
        later.indexFiles = report.indexFiles ∧
        later.pageFiles = report.pageFiles.filter (· ∉ pages) ∧
        later.skippedFiles =
          tree.memberPaths.filter (fun page => page ∈ pages ∨ page ∈ report.skippedFiles) ∧
        ∀ page ∈ pages, page ∈ later.skippedFiles := by
  intro task alone prepared following
  obtain ⟨root, resolved⟩ := Settings.exists_root_ofTexts directory extension indexFile
    environment given
  have same : task = Task.buildTree root ⟨some extension, some indexFile⟩ :=
    Task.build_eq_buildTree resolved
  have succeeds : task.Yields (handle Denial.nothing) memory report alone.state := ⟨succeeded, rfl⟩
  rw [same] at succeeds
  obtain ⟨_, -, -, _, _, -, _, -, isReport⟩ :=
    (Task.buildTree_yields_iff (handle_isStorage _)).mp succeeds
  obtain rfl : report.root = root := by rw [isReport]
  have isFile := (CanBuild.of_build (survey_of_read found) succeeds.1).files
  obtain ⟨completed, reached⟩ : (pages.mapM Task.completeFile).Yields _ memory _ _ :=
    completeFiles_yields distinct fun page listed => isFile page (members page listed)
  obtain ⟨result, state⟩ :=
    buildTree_yields_withCompleted found succeeds distinct members lacking
  rw [← same, ← reached] at result state
  refine ⟨completed, state, _, result, rfl, rfl, rfl, rfl, fun page listed => ?_⟩
  exact List.mem_filter.mpr ⟨members page listed, by simp [listed]⟩

theorem build_after_completing_two_of_three :
    let memory := ofFiles [("build/en/Intro.js", "<Note/>"),
      ("build/en/Note.js", "import React from 'react'\n<p/>"), ("build/fr/Intro.js", "<p/>"),
      ("build/fr/Note.js", "<Fragment/>")]
    let task := Task.build (.ofTexts "" ".js" "index.js") none none
    let pages := [Path.ofString "build/fr/Note.js", Path.ofString "build/en/Intro.js"]
    let prepared := (pages.mapM Task.completeFile).run (handle Denial.nothing) memory
    let following := task.run (handle Denial.nothing) prepared.state
    following.state = (task.run (handle Denial.nothing) memory).state ∧
      ∃ later, following.result = .ok later ∧
        later.pageFiles = [Path.ofString "build/fr/Intro.js"] ∧
        later.skippedFiles = [Path.ofString "build/en/Intro.js", Path.ofString "build/en/Note.js",
          Path.ofString "build/fr/Note.js"] := by
  intro memory task pages prepared following
  have told : (task.run (handle Denial.nothing) memory).result.map
      (fun report => (report.root, report.pageFiles, report.skippedFiles)) =
        .ok (Path.ofString "build", [Path.ofString "build/en/Intro.js",
          Path.ofString "build/fr/Intro.js", Path.ofString "build/fr/Note.js"],
          [Path.ofString "build/en/Note.js"]) := by
    decide +kernel
  have members : ((Task.readTree (Path.ofString "build") ⟨some ".js", some "index.js"⟩).run
      (handle Denial.nothing) memory).result.map (·.memberPaths) =
        .ok [Path.ofString "build/en/Intro.js", Path.ofString "build/en/Note.js",
          Path.ofString "build/fr/Intro.js", Path.ofString "build/fr/Note.js"] := by
    decide +kernel
  obtain ⟨report, succeeded, same⟩ := except_map_eq_ok.mp told
  obtain ⟨tree, found, memberPaths⟩ := except_map_eq_ok.mp members
  simp only [Prod.mk.injEq] at same
  obtain ⟨isRoot, pageFiles, skippedFiles⟩ := same
  rw [← isRoot] at found
  have listed : ∀ page ∈ pages, page ∈ tree.memberPaths := by
    rw [memberPaths]
    decide +kernel
  have lacking : ∀ page ∈ pages, memory.lacksBlock page = true := by decide +kernel
  obtain ⟨-, state, later, result, -, -, laterPages, laterSkipped, -⟩ :=
    build_after_completing succeeded found (by decide +kernel) listed lacking
  rw [pageFiles] at laterPages
  rw [memberPaths, skippedFiles] at laterSkipped
  refine ⟨state, later, result, laterPages.trans ?_, laterSkipped.trans ?_⟩
  · decide +kernel
  · decide +kernel

end Builds

end Memory

end PageLinker
