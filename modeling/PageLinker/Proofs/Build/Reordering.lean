import PageLinker.Proofs.Build.Success

/-!
# Builds of reordered memories

The order in which directories enumerate their entries decides nothing but the order in which the
root index lists the groups.  Whether a build succeeds, whether its pages are at fault, and what it
leaves everywhere else are the same for memories with the same entries.
-/

namespace PageLinker

namespace BuildTree

variable {layout : Layout} {tree : BuildTree} {indexFile : String}

/-- A build writes no place twice. -/
theorem IsLaidOut.build_writes_nodup (laidOut : tree.IsLaidOut layout)
    (indexSet : layout.indexFile = some indexFile) (component : IsComponent indexFile)
    (memory : Memory) :
    (((tree.memberPaths.filter memory.lacksBlock).map memory.completion ++
      (tree.indexes indexFile).map IndexFile.write).map (·.1)).Nodup := by
  have places : ((tree.memberPaths.filter memory.lacksBlock).map memory.completion ++
      (tree.indexes indexFile).map IndexFile.write).map (·.1) =
      tree.memberPaths.filter memory.lacksBlock ++ (tree.indexes indexFile).map (·.path) := by
    rw [List.map_append, List.map_map, List.map_map]
    exact congrArg (· ++ _) (List.map_id _)
  rw [places, List.nodup_append]
  refine ⟨laidOut.memberPaths_nodup.filter _, ?_, ?_⟩
  · rw [map_path_indexes]
    exact laidOut.indexPaths_nodup component
  · rintro page listed index isIndex rfl
    obtain ⟨file, isFile, rfl⟩ := List.mem_map.mp isIndex
    exact laidOut.not_endsIn indexSet (List.mem_filter.mp listed).1
      (endsIn_of_mem_indexes component tree isFile)

theorem memberPaths_perm {reordered : BuildTree} (groups : tree.groups.Perm reordered.groups) :
    tree.memberPaths.Perm reordered.memberPaths :=
  groups.flatMap_right _

end BuildTree

namespace Memory

variable {memory other : Memory} {root : Path} {extension indexFile : String}

section Trees

variable {tree otherTree : BuildTree} (same : memory.SameEntries other)
  (groups : tree.groups.Perm otherTree.groups)
include same groups

theorem CanBuild.reordered (roots : otherTree.root = tree.root)
    (canBuild : memory.CanBuild indexFile tree) : other.CanBuild indexFile otherTree where
  wellNamed := fun group listed => canBuild.wellNamed group (groups.mem_iff.mpr listed)
  files := by
    intro page listed
    obtain ⟨text, found⟩ :=
      canBuild.files page ((BuildTree.memberPaths_perm groups).mem_iff.mpr listed)
    exact ⟨text, (same _).symm.trans found⟩
  unblocked := by
    have directories : other.blocks = memory.blocks :=
      funext fun file => (same.isDirectory_eq file.path.steps).symm
    rw [directories]
    refine List.forall_mem_cons.mpr ⟨?_, fun file listed => ?_⟩
    · have unblocked := canBuild.unblocked (tree.rootIndex indexFile) (by simp [BuildTree.indexes])
      simpa [blocks, BuildTree.rootIndex, roots] using unblocked
    · obtain ⟨group, inTree, rfl⟩ := List.mem_map.mp listed
      refine canBuild.unblocked _ (List.mem_cons_of_mem _ ?_)
      exact List.mem_map_of_mem (groups.mem_iff.mpr inTree)

/-- Apart from the root index, the same is written in both memories. -/
theorem mem_writes_reordered {write : Path × String}
    (apart : write.1.steps ≠ (tree.root.join indexFile).steps)
    (written : write ∈ (tree.memberPaths.filter memory.lacksBlock).map memory.completion ++
      (tree.indexes indexFile).map IndexFile.write) :
    write ∈ (otherTree.memberPaths.filter other.lacksBlock).map other.completion ++
      (otherTree.indexes indexFile).map IndexFile.write := by
  rcases List.mem_append.mp written with page | index
  · refine List.mem_append_left _ ?_
    have texts : ∀ page ∈ otherTree.memberPaths, memory.textAt page = other.textAt page :=
      fun page _ => textAt_eq_of_find?_eq (same _)
    rw [← completions_congr texts]
    have pages := (BuildTree.memberPaths_perm groups).filter memory.lacksBlock
    exact (pages.map _).mem_iff.mp page
  · refine List.mem_append_right _ ?_
    obtain ⟨file, listed, rfl⟩ := List.mem_map.mp index
    rcases List.mem_cons.mp listed with rfl | inGroups
    · exact absurd rfl apart
    · refine List.mem_map_of_mem (List.mem_cons_of_mem _ ?_)
      exact (groups.map _).mem_iff.mp inGroups

end Trees

section Results

variable (same : memory.SameEntries other)
include same

theorem build_succeeds_reordered (component : IsComponent indexFile)
    (succeeds : ∃ report, ((Task.buildTree root ⟨some extension, some indexFile⟩).run
      (handle Denial.nothing) memory).result = .ok report) :
    ∃ report, ((Task.buildTree root ⟨some extension, some indexFile⟩).run
      (handle Denial.nothing) other).result = .ok report := by
  obtain ⟨tree, found, canBuild⟩ := (build_succeeds_iff component).mp succeeds
  obtain ⟨otherTree, otherFound, groups⟩ := survey_reordered rfl same found
  have roots := (survey_root otherFound).trans (survey_root found).symm
  exact (canBuild.reordered same groups roots).build otherFound component

theorem build_badName_reordered
    (refused : ∃ violation, ((Task.buildTree root ⟨some extension, some indexFile⟩).run
      (handle Denial.nothing) memory).result = .error (.badName violation)) :
    ∃ violation, ((Task.buildTree root ⟨some extension, some indexFile⟩).run
      (handle Denial.nothing) other).result = .error (.badName violation) := by
  obtain ⟨tree, found, badlyNamed⟩ := build_badName_iff.mp refused
  obtain ⟨otherTree, otherFound, groups⟩ := survey_reordered rfl same found
  refine build_badName_iff.mpr ⟨otherTree, otherFound, fun wellNamed => ?_⟩
  exact badlyNamed fun group listed => wellNamed group (groups.mem_iff.mp listed)

end Results

/-- A root index that was written stands in the memory. -/
theorem find?_rootIndex_of_writeAll {left : Memory} {tree : BuildTree} {layout : Layout}
    (laidOut : tree.IsLaidOut layout) (indexSet : layout.indexFile = some indexFile)
    (component : IsComponent indexFile)
    (done : memory.writeAll ((tree.memberPaths.filter memory.lacksBlock).map memory.completion ++
      (tree.indexes indexFile).map IndexFile.write) = .ok left) :
    left.find? (tree.root.join indexFile).steps =
      some (.leaf (IndexEntry.render (tree.rootIndex indexFile).entries)) := by
  have distinct := laidOut.build_writes_nodup indexSet component memory
  have written : (tree.rootIndex indexFile).write ∈
      (tree.memberPaths.filter memory.lacksBlock).map memory.completion ++
        (tree.indexes indexFile).map IndexFile.write := by
    simp [BuildTree.indexes]
  exact find?_writeAll_of_mem distinct done written

/-- Successful builds of memories with the same entries leave the same everywhere but in the root
index, whose entries come in another order. -/
theorem buildTree_states_reordered (component : IsComponent indexFile)
    (same : memory.SameEntries other) {report otherReport : BuildReport}
    (succeeded : ((Task.buildTree root ⟨some extension, some indexFile⟩).run
      (handle Denial.nothing) memory).result = .ok report)
    (otherSucceeded : ((Task.buildTree root ⟨some extension, some indexFile⟩).run
      (handle Denial.nothing) other).result = .ok otherReport) :
    let left := ((Task.buildTree root ⟨some extension, some indexFile⟩).run
      (handle Denial.nothing) memory).state
    let otherLeft := ((Task.buildTree root ⟨some extension, some indexFile⟩).run
      (handle Denial.nothing) other).state
    ∃ index otherIndex, report.indexFiles.head? = some index ∧
      otherReport.indexFiles.head? = some otherIndex ∧
      index.path = report.root.join indexFile ∧ otherIndex.path = index.path ∧
      index.entries.Perm otherIndex.entries ∧
      left.find? index.path.steps = some (.leaf (IndexEntry.render index.entries)) ∧
      otherLeft.find? index.path.steps = some (.leaf (IndexEntry.render otherIndex.entries)) ∧
      ∀ route, route ≠ index.path.steps → left.find? route = otherLeft.find? route := by
  obtain ⟨tree, read, rfl, -, done⟩ := buildTree_effect succeeded
  obtain ⟨otherTree, otherRead, rfl, -, otherDone⟩ := buildTree_effect otherSucceeded
  have found := survey_of_read read
  have otherFound := survey_of_read otherRead
  obtain ⟨reordered, foundAgain, groups⟩ := survey_reordered rfl same found
  obtain rfl : otherTree = reordered := Except.ok.inj (otherFound.symm.trans foundAgain)
  have laidOut := survey_isLaidOut found
  have otherLaidOut := survey_isLaidOut otherFound
  have roots := (survey_root otherFound).trans (survey_root found).symm
  have index := find?_rootIndex_of_writeAll laidOut rfl component done
  have otherIndex := find?_rootIndex_of_writeAll otherLaidOut rfl component otherDone
  rw [roots] at otherIndex
  refine ⟨tree.rootIndex indexFile, otherTree.rootIndex indexFile, rfl, rfl,
    congrArg (Path.join · indexFile) (survey_root found), congrArg (Path.join · indexFile) roots,
    (groups.map _).map _, index, otherIndex, ?_⟩
  intro route apart
  refine find?_eq_of_writeAll same (laidOut.build_writes_nodup rfl component memory)
    (otherLaidOut.build_writes_nodup rfl component other) done otherDone ?_
  rintro write rfl
  refine ⟨mem_writes_reordered same groups apart, ?_⟩
  refine mem_writes_reordered same.symm groups.symm ?_
  rw [roots]
  exact apart

/-- Builds of memories that differ only in the order of entries succeed together, report a clash
together and report a bad name together.  Where they succeed, nothing but the order of the entries
in the root index tells what they leave apart. -/
theorem build_ignores_enumeration (component : IsComponent indexFile)
    (same : memory.SameEntries other) (directory extension : String)
    (environment : Option String) (given : Option Path) :
    let task := Task.build (.ofTexts directory extension indexFile) environment given
    let first := task.run (handle Denial.nothing) memory
    let second := task.run (handle Denial.nothing) other
    ((∃ report, first.result = .ok report) ↔ ∃ report, second.result = .ok report) ∧
      ((∃ clash, first.result = .error (.clash clash)) ↔
        ∃ clash, second.result = .error (.clash clash)) ∧
      ((∃ violation, first.result = .error (.badName violation)) ↔
        ∃ violation, second.result = .error (.badName violation)) ∧
      ∀ report otherReport, first.result = .ok report → second.result = .ok otherReport →
        (∀ directory, (first.state.names directory).Perm (second.state.names directory)) ∧
        ∃ index otherIndex, report.indexFiles.head? = some index ∧
          otherReport.indexFiles.head? = some otherIndex ∧
          index.path = report.root.join indexFile ∧ otherIndex.path = index.path ∧
          index.entries.Perm otherIndex.entries ∧
          first.state.find? index.path.steps = some (.leaf (IndexEntry.render index.entries)) ∧
          second.state.find? index.path.steps =
            some (.leaf (IndexEntry.render otherIndex.entries)) ∧
          ∀ route, route ≠ index.path.steps →
            first.state.find? route = second.state.find? route := by
  intro task first second
  obtain ⟨root, resolved⟩ := Settings.exists_root_ofTexts directory extension indexFile
    environment given
  have isBuild : task = Task.buildTree root ⟨some extension, some indexFile⟩ :=
    Task.build_eq_buildTree resolved
  simp only [first, second, isBuild]
  refine ⟨?_, ?_, ?_, fun report otherReport succeeded otherSucceeded => ?_⟩
  · exact ⟨build_succeeds_reordered same component, build_succeeds_reordered same.symm component⟩
  · rw [build_clash_iff, build_clash_iff]
    exact survey_clash_reordered_iff rfl same
  · exact ⟨build_badName_reordered same, build_badName_reordered same.symm⟩
  · obtain ⟨index, otherIndex, head, otherHead, place, samePlace, entries, written, otherWritten,
      elsewhere⟩ := buildTree_states_reordered component same succeeded otherSucceeded
    refine ⟨fun directory => ?_, index, otherIndex, head, otherHead, place, samePlace, entries,
      written, otherWritten, elsewhere⟩
    refine Catalog.names_perm_of_isSome_eq fun name => ?_
    by_cases isIndex : directory ++ [name] = index.path.steps
    · rw [isIndex, written, otherWritten]
      rfl
    · rw [elsewhere _ isIndex]

theorem build_ignores_enumeration_of_groups :
    let memory := ofFiles [("build/en/Intro.js", "<Note/>"), ("build/en/About.js", ""),
      ("build/fr/Intro.js", "<p/>")]
    let other := ofFiles [("build/fr/Intro.js", "<p/>"), ("build/en/About.js", ""),
      ("build/en/Intro.js", "<Note/>")]
    let task := Task.build (.ofTexts "" ".js" "index.js") none none
    let first := task.run (handle Denial.nothing) memory
    let second := task.run (handle Denial.nothing) other
    let place := (Path.ofString "build/index.js").steps
    first.state.find? place ≠ second.state.find? place ∧
      ∀ route, route ≠ place → first.state.find? route = second.state.find? route := by
  intro memory other task first second place
  have component : IsComponent "index.js" := by decide
  have same : memory.SameEntries other := Catalog.sameEntries_of_perm (by decide +kernel)
  have differ : first.state.find? place ≠ second.state.find? place := by decide +kernel
  have built : first.result.map (·.root) = .ok (Path.ofString "build") := by decide +kernel
  obtain ⟨report, succeeded, root⟩ := except_map_eq_ok.mp built
  obtain ⟨together, -, -, effect⟩ := build_ignores_enumeration component same "" ".js" none none
  obtain ⟨otherReport, otherSucceeded⟩ := together.mp ⟨report, succeeded⟩
  obtain ⟨-, index, otherIndex, -, -, path, -, -, -, -, elsewhere⟩ :=
    effect report otherReport succeeded otherSucceeded
  have isPlace : index.path.steps = place := by
    rw [path, root]
    decide +kernel
  rw [isPlace] at elsewhere
  exact ⟨differ, elsewhere⟩

end Memory

end PageLinker
