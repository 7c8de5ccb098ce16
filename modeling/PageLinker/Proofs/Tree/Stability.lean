import PageLinker.Proofs.Tree.Places

/-!
# Trees that writing leaves alone

A build tree that was found in a memory is found there again after its pages have been written over
and after files with the name of the index have come up, wherever they stand.
-/

namespace PageLinker

namespace Memory

variable {memory left : Memory} {root : Path} {layout : Layout} {tree : BuildTree}

section Found

variable (found : memory.survey root layout = .ok tree)
include found

theorem survey_root : tree.root = root :=
  (survey_eq_ok_iff.mp found).1

theorem listed_of_mem_groups {group : Group} (listed : group ∈ tree.groups) :
    group.name ∈ memory.names root.steps := by
  have names := (survey_eq_ok_iff.mp found).2.2.1
  have member : group.name ∈ tree.groupNames := List.mem_map_of_mem listed
  rw [names] at member
  exact (List.mem_filter.mp member).1

theorem files_of_mem_groups {group : Group} (listed : group ∈ tree.groups) :
    ∃ kept, kept.Sublist (memory.names group.path.steps) ∧
      (∀ filename ∈ kept, layout.isIndex filename = false) ∧
      (group.members.map (·.filename)).Perm kept := by
  have surveyed := (survey_eq_ok_iff.mp found).2.2.2 group listed
  obtain ⟨-, path, -, collected⟩ := surveyGroup_eq_ok_iff.mp surveyed
  rw [path]
  exact Members.collect_files collected

theorem listed_of_mem_members {group : Group} (listed : group ∈ tree.groups) {member : Member}
    (inGroup : member ∈ group.members) : member.filename ∈ memory.names group.path.steps := by
  obtain ⟨kept, sublist, -, files⟩ := files_of_mem_groups found listed
  exact sublist.subset (files.mem_iff.mp (List.mem_map_of_mem inGroup))

/-- A tree that stands in a memory is laid out as it should be. -/
theorem survey_isLaidOut : tree.IsLaidOut layout where
  group_steps := by
    intro group listed
    have surveyed := (survey_eq_ok_iff.mp found).2.2.2 group listed
    obtain ⟨-, path, -, -⟩ := surveyGroup_eq_ok_iff.mp surveyed
    rw [path, survey_root found]
    exact steps_join_of_mem_names (listed_of_mem_groups found listed)
  member_steps := by
    intro group listed member inGroup
    exact steps_join_of_mem_names (listed_of_mem_members found listed inGroup)
  groupNames_nodup := by
    rw [(survey_eq_ok_iff.mp found).2.2.1]
    exact (memory.names_nodup root.steps).filter _
  filenames_nodup := by
    intro group listed
    obtain ⟨kept, sublist, -, files⟩ := files_of_mem_groups found listed
    exact files.nodup_iff.mpr ((memory.names_nodup _).sublist sublist)
  not_index := by
    intro group listed member inGroup
    obtain ⟨kept, -, apart, files⟩ := files_of_mem_groups found listed
    exact apart _ (files.mem_iff.mp (List.mem_map_of_mem inGroup))

theorem find?_isSome_of_mem_memberPaths {page : Path} (listed : page ∈ tree.memberPaths) :
    (memory.find? page.steps).isSome := by
  obtain ⟨group, groupListed, inGroup⟩ := List.mem_flatMap.mp listed
  obtain ⟨member, memberListed, rfl⟩ := List.mem_map.mp inGroup
  have inDirectory := listed_of_mem_members found groupListed memberListed
  rw [steps_join_of_mem_names inDirectory]
  exact memory.mem_names_iff.mp inDirectory

end Found

theorem survey_eq_of_sameShape (same : left.SameShape memory) (root : Path) (layout : Layout) :
    left.survey root layout = memory.survey root layout := by
  rw [← run_readTree_result, ← run_readTree_result]
  exact ((Task.readTree_onlySurveys root layout).result_eq same).symm

/-- A file with the name of the index makes no difference to the tree that is found. -/
theorem survey_write_index {route above : Route} {content indexFile : String}
    (granted : memory.write route content = .ok left)
    (indexSet : layout.indexFile = some indexFile) (ends : route = above ++ [indexFile])
    (found : memory.survey root layout = .ok tree) : left.survey root layout = .ok tree := by
  have laidOut := survey_isLaidOut found
  obtain ⟨isRoot, rootDirectory, groupNames, all⟩ := survey_eq_ok_iff.mp found
  have stillDirectory := Catalog.find?_directory_write granted rootDirectory
  refine survey_eq_ok_iff.mpr ⟨isRoot, stillDirectory, ?_, ?_⟩
  · simp only [Catalog.isDirectory_write granted]
    rcases Catalog.names_write granted root.steps with same | ⟨name, place, names⟩
    · rw [same]
      exact groupNames
    · -- The new name below the root is that of a file, so it makes no group.
      have listed : name ∈ left.names root.steps := by simp [names]
      have file : memory.isDirectory (root.join name).steps = false := by
        rw [steps_join_of_mem_names listed, ← place, Catalog.isDirectory_of_write granted]
      simp [names, List.filter_append, file, groupNames]
  · intro group listed
    obtain ⟨named, path, directory, collected⟩ :=
      surveyGroup_eq_ok_iff.mp (all group listed)
    refine surveyGroup_eq_ok_iff.mpr
      ⟨rfl, path, Catalog.find?_directory_write granted directory, ?_⟩
    rcases Catalog.names_write granted (root.join group.name).steps with same | ⟨name, place, names⟩
    · rw [same]
      exact collected
    · -- The new name in the group is that of the index, which is not collected.
      obtain ⟨-, same⟩ := List.append_inj' (ends.symm.trans place) rfl
      obtain rfl : indexFile = name := by simpa using same
      rw [names, Members.collect_append_index (by simp [Layout.isIndex, indexSet])]
      exact collected

/-- A task that writes over pages and makes indexes passes no memory where the tree is another. -/
theorem survey_kept {α : Type} {denied : Denial} {indexFile : String} {task : Task α}
    (indexSet : layout.indexFile = some indexFile)
    (writes : task.WritesInto fun path => path ∈ tree.memberPaths ∨ path.EndsIn indexFile)
    (found : memory.survey root layout = .ok tree)
    (passes : task.Passes (handle denied) memory left) : left.survey root layout = .ok tree := by
  refine writes.keeps (fun state => state.survey root layout = .ok tree) ?_ found passes
  intro request state granted may same answered
  have effect := handle_eq_ok answered
  cases written : request.written? with
  | none =>
      rw [written] at effect
      rw [effect]
      exact same
  | some write =>
      rw [written] at effect
      rcases may write written with page | ⟨above, ends⟩
      · have present := find?_isSome_of_mem_memberPaths same page
        obtain ⟨entry, standing⟩ := Option.isSome_iff_exists.mp present
        have shape := Catalog.sameShape_write standing effect
        exact (survey_eq_of_sameShape shape root layout).trans same
      · exact survey_write_index effect indexSet ends same

theorem readTree_settledAt (found : memory.survey root layout = .ok tree) :
    (Task.readTree root layout).SettledAt (handle Denial.nothing) Eq tree memory := by
  have surveys := Task.readTree_onlySurveys root layout
  exact ⟨tree, (run_readTree_result memory root layout).trans found,
    surveys.state_eq Denial.nothing memory, rfl⟩

end Memory

end PageLinker
