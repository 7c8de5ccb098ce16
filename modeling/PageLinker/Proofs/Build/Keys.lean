import PageLinker.Proofs.Build.Steps
import PageLinker.Proofs.Tree.Collecting

/-!
# Keys of the indexes

The index of the root exports the groups under distinct keys.  The keys of a group are its page
names in lower case, while only equal page names clash.  So the keys of a group are distinct exactly
when no two of its pages differ in case alone.  This holds over every storage.
-/

namespace PageLinker

open Workspace (Request)

def IndexFile.keys (file : IndexFile) : List String :=
  file.entries.map (·.key)

namespace Group

/-- No two page names of the group differ in case alone. -/
def IsCaseDistinct (group : Group) : Prop :=
  ∀ first ∈ group.memberNames, ∀ second ∈ group.memberNames,
    LetterCase.lower first = LetterCase.lower second → first = second

theorem index_keys (indexFile : String) (group : Group) :
    (group.index indexFile).keys = group.memberNames.map LetterCase.lower := by
  simp [index, IndexFile.keys, IndexEntry.ofMembers]

theorem index_keys_nodup_iff {group : Group} (distinct : group.memberNames.Nodup)
    (indexFile : String) : (group.index indexFile).keys.Nodup ↔ group.IsCaseDistinct := by
  rw [index_keys, List.nodup_map_iff_inj_on distinct]
  rfl

end Group

theorem BuildTree.rootIndex_keys (indexFile : String) (tree : BuildTree) :
    (tree.rootIndex indexFile).keys = tree.groupNames := by
  simp [rootIndex, IndexFile.keys, IndexEntry.ofGroups, Function.comp_def]

/-- What the request writes, if it writes, is one of the index files. -/
def Workspace.Request.WritesAmong (files : List IndexFile) (request : Request) : Prop :=
  ∀ write, request.written? = some write → ∃ file ∈ files, file.write = write

/-- What the request writes, if it writes, is a page with its import block. -/
def Workspace.Request.CompletesPage (request : Request) : Prop :=
  ∀ write, request.written? = some write → ∃ text, write.2 = ImportBlock.complete text

namespace Task

theorem writeIndexFiles_writesAmong (files : List IndexFile) :
    (writeIndexFiles files).Within (·.WritesAmong files) := by
  induction files with
  | nil => trivial
  | cons file rest ih =>
      have later : (writeIndexFiles rest).Within (·.WritesAmong (file :: rest)) := by
        refine ih.mono fun request among write written => ?_
        obtain ⟨other, listed, same⟩ := among write written
        exact ⟨other, List.mem_cons_of_mem file listed, same⟩
      have writing : (writeText file.path file.content).Within (·.WritesAmong (file :: rest)) := by
        refine .request ?_
        rintro write ⟨⟩
        exact ⟨file, List.mem_cons_self, rfl⟩
      have noting := note_onlySurveys .index .debug
        s!"Wrote {file.path} ({file.entries.length} entries)"
      have first : (writeIndex file).Within (·.WritesAmong (file :: rest)) := by
        refine writing.bind fun _ => .bind (noting.mono ?_) fun _ => trivial
        intro request survey write written
        cases survey.not_written.symm.trans written
      exact first.bind fun _ => later.bind fun _ => trivial

theorem completePages_completesPage (pages : List Path) :
    (completePages pages).Within (·.CompletesPage) := by
  induction pages with
  | nil => trivial
  | cons page rest ih =>
      have reading : (readText page).Within (·.CompletesPage) := by
        refine .request ?_
        rintro write ⟨⟩
      have first : (completePage page).Within (·.CompletesPage) := by
        refine reading.bind fun text => ?_
        split
        · trivial
        · refine .bind (.request ?_) fun _ => trivial
          rintro write ⟨⟩
          exact ⟨text, rfl⟩
      exact first.bind fun _ => ih.bind fun _ => trivial

variable {State : Type} {handle : Handler Request State} {state : State}

section Layouts

variable {root : Path} {extension indexFile : String}

/-- Over every storage the groups of a tree have distinct names, and so have the pages of each
group. -/
theorem names_nodup_of_read (storage : handle.IsStorage) {tree : BuildTree}
    (found : ((readTree root ⟨some extension, some indexFile⟩).run handle state).result =
      .ok tree) :
    tree.groupNames.Nodup ∧ ∀ group ∈ tree.groups, group.memberNames.Nodup := by
  obtain ⟨-, names, listed, -, groupNames, shown⟩ := (readTree_eq_ok_iff storage).mp found
  constructor
  · rw [listDir, Program.run_request] at listed
    cases answered : handle (.listDir root) state with
    | error failure => simp [answered] at listed
    | ok granted =>
        obtain ⟨answer, left⟩ := granted
        obtain rfl : answer = names := by simpa [answered] using listed
        rw [groupNames]
        exact (storage.names_nodup answered).filter _
  · intro group inTree
    obtain ⟨filenames, -, collected⟩ := (shown group inTree).collected
    exact ((Members.collect_eq_ok_iff rfl).mp collected).2.bases_nodup

theorem mem_writes_writeIndexes {write : Path × String}
    (written : write ∈
      ((writeIndexes root ⟨some extension, some indexFile⟩).run handle state).writes) :
    ∃ tree, ((readTree root ⟨some extension, some indexFile⟩).run handle state).result =
        .ok tree ∧ ∃ file ∈ tree.indexes indexFile, file.write = write := by
  rw [writeIndexes_eq] at written
  have reading := (readTree_onlySurveys root ⟨some extension, some indexFile⟩).isSilent
  obtain ⟨tree, found, later⟩ := reading.mem_writes_bind written
  refine ⟨tree, found, ?_⟩
  have noting := (note_onlySurveys .index .info
    s!"Indexing {tree.root}: {tree.groups.length} groups").isSilent
  obtain ⟨_, -, indexing⟩ := noting.mem_writes_bind later
  have among : Program.Within (·.WritesAmong (tree.indexesBeforeBad indexFile)) (do
      let files ← writeIndexFiles (tree.indexesBeforeBad indexFile)
      Program.ofExcept (Naming.asFailure (validateGroups tree.groups))
      pure files) :=
    (writeIndexFiles_writesAmong _).bind fun _ => .bind (.ofExcept _) fun _ => trivial
  obtain ⟨request, granted, isWrite⟩ := List.mem_filterMap.mp indexing
  obtain ⟨file, listed, same⟩ := among.granted_allowed handle _ request granted write isWrite
  exact ⟨file, (tree.indexesBeforeBad_prefix indexFile).subset listed, same⟩

/-- A build writes pages with their import blocks, and what writing the indexes writes. -/
theorem mem_writes_buildTree {layout : Layout} {write : Path × String}
    (written : write ∈ ((buildTree root layout).run handle state).writes) :
    (∃ text, write.2 = ImportBlock.complete text) ∨
      ∃ between, write ∈ ((writeIndexes root layout).run handle between).writes := by
  rw [buildTree_eq] at written
  have reading := (readTree_onlySurveys root layout).isSilent
  obtain ⟨tree, -, checking⟩ := reading.mem_writes_bind written
  have verdict : IsSilent (Program.ofExcept (Naming.asFailure (validateGroups tree.groups))) :=
    .ofExcept _
  obtain ⟨_, -, completing⟩ := verdict.mem_writes_bind checking
  rcases mem_writes_bind completing with completed | ⟨pages, -, later⟩
  · obtain ⟨request, granted, isWrite⟩ := List.mem_filterMap.mp completed
    have completes := completePages_completesPage tree.memberPaths
    exact .inl (completes.granted_allowed handle _ request granted write isWrite)
  · have noting := (note_onlySurveys .build .info
      s!"Added imports to {pages.1.length} page files ({pages.2.length} already done)").isSilent
    obtain ⟨_, -, indexing⟩ := noting.mem_writes_bind later
    rw [Program.run_bind_pure, Outcome.map_writes] at indexing
    exact .inr ⟨_, indexing⟩

end Layouts

end Task

section Keys

variable {State : Type} {handle : Handler Request State}

/-- Over every storage, the index files that are written, by a build or without one, are those of
trees that are read.  Of these the index of the root has distinct keys, and the index of a group has
distinct keys exactly when no two pages of the group differ in case alone. -/
theorem keys_of_written_indexes (storage : handle.IsStorage)
    (directory extension indexFile : String) (environment : Option String) (given : Option Path) :
    let settings := Settings.ofTexts directory extension indexFile
    (∀ root state tree,
      ((Task.readTree root settings.layout).run handle state).result = .ok tree →
        (tree.rootIndex indexFile).keys.Nodup ∧
          ∀ group ∈ tree.groups, (group.index indexFile).keys.Nodup ↔ group.IsCaseDistinct) ∧
      (∀ root state,
        let outcome := (Task.writeIndexes root settings.layout).run handle state
        (∀ write ∈ outcome.writes, ∃ tree,
          ((Task.readTree root settings.layout).run handle state).result = .ok tree ∧
            ∃ file ∈ tree.indexes indexFile, file.write = write) ∧
          ∀ files, outcome.result = .ok files → ∃ tree,
            ((Task.readTree root settings.layout).run handle state).result = .ok tree ∧
              files = tree.indexes indexFile) ∧
      ∃ root, settings.root environment given = .ok root ∧ ∀ state,
        let outcome := (Task.build settings environment given).run handle state
        (∀ write ∈ outcome.writes, (∃ text, write.2 = ImportBlock.complete text) ∨
          ∃ between, write ∈ ((Task.writeIndexes root settings.layout).run handle between).writes) ∧
          ∀ report, outcome.result = .ok report → ∃ between,
            ((Task.writeIndexes root settings.layout).run handle between).result =
              .ok report.indexFiles := by
  intro settings
  refine ⟨fun root state tree found => ?_, fun root state => ⟨fun write written => ?_,
    fun files succeeded => ?_⟩, ?_⟩
  · obtain ⟨groupNames, memberNames⟩ := Task.names_nodup_of_read storage found
    refine ⟨?_, fun group listed => ?_⟩
    · rw [BuildTree.rootIndex_keys]
      exact groupNames
    · exact Group.index_keys_nodup_iff (memberNames group listed) indexFile
  · exact Task.mem_writes_writeIndexes written
  · obtain ⟨tree, found, -, files, -⟩ :=
      (Task.writeIndexes_yields_iff storage).mp (Program.yields_of_result succeeded)
    exact ⟨tree, found, files⟩
  · obtain ⟨root, resolved⟩ := Settings.exists_root_ofTexts directory extension indexFile
      environment given
    refine ⟨root, resolved, fun state => ?_⟩
    rw [Task.build_eq_buildTree resolved]
    refine ⟨fun write => Task.mem_writes_buildTree, fun report succeeded => ?_⟩
    obtain ⟨-, -, -, -, between, -, files, written, rfl⟩ :=
      (Task.buildTree_yields_iff storage).mp (Program.yields_of_result succeeded)
    exact ⟨between, written.1⟩

end Keys

namespace Memory

theorem keys_of_indexes_of_two_cases :
    let memory := ofFiles [("build/en/Intro.js", ""), ("build/fr/INTRO.js", ""),
      ("build/fr/Intro.js", "")]
    (handle Denial.nothing).IsStorage ∧
      ∃ tree, ((Task.readTree (Path.ofString "build") ⟨some ".js", some "index.js"⟩).run
        (handle Denial.nothing) memory).result = .ok tree ∧
      tree.groups.map (fun group => (group.index "index.js").keys) =
        [["intro"], ["intro", "intro"]] ∧
      (tree.rootIndex "index.js").keys.Nodup ∧
      ∀ group ∈ tree.groups, (group.index "index.js").keys.Nodup ↔ group.IsCaseDistinct := by
  intro memory
  have storage := handle_isStorage Denial.nothing
  have keys : ((Task.readTree (Path.ofString "build") ⟨some ".js", some "index.js"⟩).run
      (handle Denial.nothing) memory).result.map
        (fun tree => tree.groups.map fun group => (group.index "index.js").keys) =
      .ok [["intro"], ["intro", "intro"]] := by
    decide +kernel
  obtain ⟨tree, found, groupKeys⟩ := except_map_eq_ok.mp keys
  obtain ⟨told, -⟩ := keys_of_written_indexes storage "" ".js" "index.js" none none
  exact ⟨storage, tree, found, groupKeys, told _ _ tree found⟩

/-- Two pages of a group that differ in case alone are exported under one key. -/
theorem keys_repeat_for_names_of_two_cases :
    let memory := ofFiles [("build/en/INTRO.js", "a"), ("build/en/Intro.js", "b")]
    let indexing := (Task.writeIndexes (Path.ofString "build") ⟨some ".js", some "index.js"⟩).run
      (handle Denial.nothing) memory
    let building := (Task.build (.ofTexts "" ".js" "index.js") none none).run
      (handle Denial.nothing) memory
    indexing.result.map (·.map IndexFile.keys) = .ok [["en"], ["intro", "intro"]] ∧
      building.result.map (·.indexFiles) = indexing.result ∧
      ¬ ∀ files, indexing.result = .ok files → ∀ file ∈ files, file.keys.Nodup := by
  intro memory indexing building
  have keys : indexing.result.map (·.map IndexFile.keys) =
      .ok [["en"], ["intro", "intro"]] := by decide +kernel
  have same : building.result.map (·.indexFiles) = indexing.result := by decide +kernel
  refine ⟨keys, same, fun distinct => ?_⟩
  obtain ⟨files, written, fileKeys⟩ := except_map_eq_ok.mp keys
  have repeated : ["intro", "intro"] ∈ files.map IndexFile.keys := by simp [fileKeys]
  obtain ⟨file, listed, here⟩ := List.mem_map.mp repeated
  have nodup := distinct files written file listed
  simp [here] at nodup

end Memory

end PageLinker
