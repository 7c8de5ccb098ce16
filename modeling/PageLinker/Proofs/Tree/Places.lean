import Mathlib.Data.List.Nodup
import PageLinker.Proofs.Index.Sequence
import PageLinker.Proofs.Tree.Members
import PageLinker.Proofs.Tree.Survey

/-!
# Places of pages and indexes

In a build tree that was read from a memory every page has a place of its own.  When the index file
is named by a proper name, so has every index, and no index stands where a page does.
-/

namespace PageLinker

namespace Path

/-- The last step of the path is the name. -/
def EndsIn (name : String) (path : Path) : Prop :=
  ∃ above, path.steps = above ++ [name]

theorem join_endsIn {name : String} (component : IsComponent name) (path : Path) :
    (path.join name).EndsIn name :=
  ⟨path.steps, path.steps_join component⟩

end Path

namespace BuildTree

/-- Where the indexes of a tree stand, the one of the root first. -/
def indexPaths (tree : BuildTree) (indexFile : String) : List Path :=
  tree.root.join indexFile :: tree.groups.map (·.path.join indexFile)

theorem map_path_indexes (tree : BuildTree) (indexFile : String) :
    (tree.indexes indexFile).map (·.path) = tree.indexPaths indexFile := by
  rw [indexes, indexPaths, List.map_cons, List.map_map]
  rfl

theorem endsIn_of_mem_indexes {indexFile : String} (component : IsComponent indexFile)
    (tree : BuildTree) {file : IndexFile} (listed : file ∈ tree.indexes indexFile) :
    file.path.EndsIn indexFile := by
  rcases List.mem_cons.mp listed with rfl | inGroups
  · exact Path.join_endsIn component tree.root
  · obtain ⟨group, -, rfl⟩ := List.mem_map.mp inGroups
    exact Path.join_endsIn component group.path

/-- Groups stand one step below the root and pages one step below their group, all under names of
their own, and no page is called like an index. -/
structure IsLaidOut (layout : Layout) (tree : BuildTree) : Prop where
  group_steps : ∀ group ∈ tree.groups, group.path.steps = tree.root.steps ++ [group.name]
  member_steps : ∀ group ∈ tree.groups, ∀ member ∈ group.members,
    (group.path.join member.filename).steps = group.path.steps ++ [member.filename]
  groupNames_nodup : tree.groupNames.Nodup
  filenames_nodup : ∀ group ∈ tree.groups, (group.members.map (·.filename)).Nodup
  not_index : ∀ group ∈ tree.groups, ∀ member ∈ group.members,
    layout.isIndex member.filename = false

namespace IsLaidOut

variable {layout : Layout} {tree : BuildTree} (laidOut : tree.IsLaidOut layout)
include laidOut

theorem steps_of_mem_memberPaths {page : Path} (listed : page ∈ tree.memberPaths) :
    ∃ group ∈ tree.groups, ∃ member ∈ group.members,
      page.steps = tree.root.steps ++ [group.name, member.filename] := by
  obtain ⟨group, groupMember, inGroup⟩ := List.mem_flatMap.mp listed
  obtain ⟨member, listedMember, rfl⟩ := List.mem_map.mp inGroup
  refine ⟨group, groupMember, member, listedMember, ?_⟩
  rw [laidOut.member_steps group groupMember member listedMember,
    laidOut.group_steps group groupMember, List.append_assoc]
  rfl

theorem memberPaths_nodup : tree.memberPaths.Nodup := by
  -- Pages of one group differ in the last step, those of two groups in the step before.
  refine List.nodup_flatMap.mpr ⟨fun group groupMember => ?_, ?_⟩
  · refine List.Nodup.of_map Path.steps ?_
    have steps : (group.memberPaths.map Path.steps) =
        (group.members.map (·.filename)).map fun filename => group.path.steps ++ [filename] := by
      rw [Group.memberPaths, List.map_map, List.map_map]
      exact List.map_congr_left (laidOut.member_steps group groupMember)
    rw [steps]
    refine (laidOut.filenames_nodup group groupMember).map fun first second same => ?_
    simpa using same
  · have names : tree.groups.Pairwise fun first second => first.name ≠ second.name :=
      List.pairwise_map.mp laidOut.groupNames_nodup
    refine names.imp_of_mem ?_
    intro first second firstMember secondMember differ page inFirst inSecond
    obtain ⟨member, listed, rfl⟩ := List.mem_map.mp inFirst
    obtain ⟨other, otherListed, same⟩ := List.mem_map.mp inSecond
    have sameSteps := congrArg Path.steps same
    rw [laidOut.member_steps first firstMember member listed,
      laidOut.member_steps second secondMember other otherListed,
      laidOut.group_steps first firstMember, laidOut.group_steps second secondMember] at sameSteps
    simp only [List.append_assoc, List.append_cancel_left_eq] at sameSteps
    exact differ (by simpa using (congrArg List.head? sameSteps).symm)

variable {indexFile : String}

/-- No page of a tree is called like an index. -/
theorem not_endsIn (indexSet : layout.indexFile = some indexFile) {page : Path}
    (listed : page ∈ tree.memberPaths) : ¬ page.EndsIn indexFile := by
  rintro ⟨above, ends⟩
  obtain ⟨group, groupListed, member, memberListed, steps⟩ :=
    laidOut.steps_of_mem_memberPaths listed
  have apart := laidOut.not_index group groupListed member memberListed
  have differ : indexFile ≠ member.filename := by
    simpa [Layout.isIndex, indexSet] using apart
  have last := congrArg List.getLast? (ends.symm.trans steps)
  exact differ (by simpa using last)

section Component

variable (component : IsComponent indexFile)
include component

theorem groupIndex_steps {group : Group} (listed : group ∈ tree.groups) :
    (group.path.join indexFile).steps = tree.root.steps ++ [group.name, indexFile] := by
  rw [Path.steps_join _ component, laidOut.group_steps group listed, List.append_assoc]
  rfl

theorem indexPaths_nodup : (tree.indexPaths indexFile).Nodup := by
  refine List.nodup_cons.mpr ⟨?_, ?_⟩
  · intro member
    obtain ⟨group, listed, same⟩ := List.mem_map.mp member
    have sameSteps := congrArg Path.steps same
    rw [laidOut.groupIndex_steps component listed, Path.steps_join _ component] at sameSteps
    simpa using congrArg List.length sameSteps
  · refine List.Nodup.of_map Path.steps ?_
    have steps : (tree.groups.map (·.path.join indexFile)).map Path.steps =
        tree.groupNames.map fun name => tree.root.steps ++ [name, indexFile] := by
      rw [BuildTree.groupNames, List.map_map, List.map_map]
      exact List.map_congr_left fun group listed => laidOut.groupIndex_steps component listed
    rw [steps]
    refine laidOut.groupNames_nodup.map fun first second same => ?_
    simpa using same

end Component

end IsLaidOut

end BuildTree

namespace Memory

variable {memory left : Memory} {root : Path} {layout : Layout} {tree : BuildTree}

theorem surveyGroup_eq_ok_iff {name : String} {group : Group} :
    memory.surveyGroup root layout name = .ok group ↔
      group.name = name ∧ group.path = root.join name ∧
        memory.find? (root.join name).steps = some .directory ∧
        Members.collect layout (root.join name).name (memory.names (root.join name).steps) =
          .ok group.members := by
  obtain ⟨groupName, path, members⟩ := group
  simp only [surveyGroup, except_bind_eq_ok, Failure.about_eq_ok, list_eq_ok_iff]
  constructor
  · rintro ⟨filenames, ⟨directory, rfl⟩, found, collected, same⟩
    cases same
    exact ⟨rfl, rfl, directory, collected⟩
  · rintro ⟨rfl, rfl, directory, collected⟩
    exact ⟨_, ⟨directory, rfl⟩, members, collected, rfl⟩

theorem surveyGroups_eq_ok_iff {names : List String} {groups : List Group} :
    memory.surveyGroups root layout names = .ok groups ↔
      groups.map (·.name) = names ∧
        ∀ group ∈ groups, memory.surveyGroup root layout group.name = .ok group := by
  induction names generalizing groups with
  | nil =>
      rw [surveyGroups, List.map_eq_nil_iff]
      constructor
      · rintro ⟨⟩
        simp
      · rintro ⟨rfl, -⟩
        rfl
  | cons name rest ih =>
      simp only [surveyGroups, except_bind_eq_ok, ih]
      constructor
      · rintro ⟨group, first, later, ⟨names, others⟩, same⟩
        cases same
        have named := (surveyGroup_eq_ok_iff.mp first).1
        refine ⟨by rw [List.map_cons, named, names], ?_⟩
        exact List.forall_mem_cons.mpr ⟨named.symm ▸ first, others⟩
      · rintro ⟨names, all⟩
        cases groups with
        | nil => simp at names
        | cons group later =>
            obtain ⟨rfl, rfl⟩ := List.cons.inj names
            obtain ⟨first, others⟩ := List.forall_mem_cons.mp all
            exact ⟨group, first, later, ⟨rfl, others⟩, rfl⟩

/-- A tree stands in a memory when its groups are the directories below its root, in their order,
and every group is as it stands there. -/
theorem survey_eq_ok_iff :
    memory.survey root layout = .ok tree ↔
      tree.root = root ∧ memory.find? root.steps = some .directory ∧
        tree.groupNames = (memory.names root.steps).filter
          (fun name => memory.isDirectory (root.join name).steps) ∧
        ∀ group ∈ tree.groups, memory.surveyGroup root layout group.name = .ok group := by
  obtain ⟨treeRoot, groups⟩ := tree
  simp only [survey, except_bind_eq_ok, Failure.about_eq_ok, list_eq_ok_iff, surveyGroups_eq_ok_iff]
  constructor
  · rintro ⟨names, ⟨directory, rfl⟩, found, ⟨groupNames, all⟩, same⟩
    cases same
    exact ⟨rfl, directory, groupNames, all⟩
  · rintro ⟨rfl, directory, groupNames, all⟩
    exact ⟨_, ⟨directory, rfl⟩, groups, ⟨groupNames, all⟩, rfl⟩

end Memory

end PageLinker
