import PageLinker.Proofs.Memory.Reordering
import PageLinker.Proofs.Tree.Collecting
import PageLinker.Proofs.Tree.Stability

/-!
# Trees in reordered memories

The pages of a group are ordered by name, whatever the order of the listing; only the groups of a
tree come in the order in which the root enumerates them.  So memories with the same entries hold
the same tree up to the order of its groups, or both hold pages that clash.
-/

namespace PageLinker

namespace Memory

variable {memory other : Memory} {root : Path} {layout : Layout} {tree : BuildTree}

theorem mem_groups_iff (found : memory.survey root layout = .ok tree) {group : Group} :
    group ∈ tree.groups ↔
      group.name ∈ tree.groupNames ∧ memory.surveyGroup root layout group.name = .ok group := by
  have all := (survey_eq_ok_iff.mp found).2.2.2
  constructor
  · intro listed
    exact ⟨List.mem_map_of_mem listed, all group listed⟩
  · rintro ⟨named, surveyed⟩
    obtain ⟨listed, inTree, sameName⟩ := List.mem_map.mp named
    have surveyedAgain := all listed inTree
    rw [sameName] at surveyedAgain
    cases surveyed.symm.trans surveyedAgain
    exact inTree

theorem exists_surveyGroups {names : List String}
    (each : ∀ name ∈ names, ∃ group, memory.surveyGroup root layout name = .ok group) :
    ∃ groups, memory.surveyGroups root layout names = .ok groups := by
  induction names with
  | nil => exact ⟨[], rfl⟩
  | cons name rest ih =>
      obtain ⟨⟨group, first⟩, others⟩ := List.forall_mem_cons.mp each
      obtain ⟨groups, later⟩ := ih others
      exact ⟨group :: groups, by rw [surveyGroups, first, later]; rfl⟩

section Extension

variable {extension : String} (extensionSet : layout.extension = some extension)
include extensionSet

/-- A group whose directory is there can be read unless its pages clash. -/
theorem surveyGroup_cases {name : String} (directory : memory.isDirectory (root.join name).steps) :
    (∃ group, memory.surveyGroup root layout name = .ok group) ∨
      ∃ clash, memory.surveyGroup root layout name = .error (.clash clash) := by
  have listed : memory.list (root.join name) = .ok (memory.names (root.join name).steps) :=
    list_eq_ok_iff.mpr ⟨memory.isDirectory_eq_true_iff.mp directory, rfl⟩
  rw [surveyGroup, listed]
  simp only [Failure.about, except_ok_bind]
  cases collected : Members.collect layout (root.join name).name
      (memory.names (root.join name).steps) with
  | ok members => exact .inl ⟨_, rfl⟩
  | error failure =>
      obtain ⟨earlier, page, others, -, -, rfl⟩ := Members.collect_eq_error extensionSet collected
      exact .inr ⟨_, rfl⟩

theorem surveyGroups_cases (memory : Memory) (root : Path) {names : List String}
    (directories : ∀ name ∈ names, memory.isDirectory (root.join name).steps) :
    (∃ groups, memory.surveyGroups root layout names = .ok groups) ∨
      ∃ clash, memory.surveyGroups root layout names = .error (.clash clash) := by
  induction names with
  | nil => exact .inl ⟨[], rfl⟩
  | cons name rest ih =>
      obtain ⟨first, others⟩ := List.forall_mem_cons.mp directories
      rw [surveyGroups]
      rcases surveyGroup_cases extensionSet first with ⟨group, surveyed⟩ | ⟨clash, clashes⟩
      · rw [surveyed]
        rcases ih others with ⟨groups, later⟩ | ⟨clash, clashes⟩
        · exact .inl ⟨group :: groups, by rw [later]; rfl⟩
        · exact .inr ⟨clash, by rw [clashes]; rfl⟩
      · exact .inr ⟨clash, by rw [clashes]; rfl⟩

/-- A tree can be read unless its root is not a directory or pages of a group clash. -/
theorem survey_cases (memory : Memory) (root : Path) :
    (∃ refusal, memory.survey root layout = .error (.refused refusal root) ∧
        memory.find? root.steps ≠ some .directory) ∨
      memory.find? root.steps = some .directory ∧
        ((∃ tree, memory.survey root layout = .ok tree) ∨
          ∃ clash, memory.survey root layout = .error (.clash clash)) := by
  rw [survey]
  cases listed : memory.list root with
  | error refusal =>
      refine .inl ⟨refusal, rfl, fun directory => ?_⟩
      cases listed.symm.trans (list_eq_ok_iff.mpr ⟨directory, rfl⟩)
  | ok names =>
      refine .inr ⟨(list_eq_ok_iff.mp listed).1, ?_⟩
      simp only [Failure.about, except_ok_bind]
      rcases surveyGroups_cases extensionSet memory root
          fun name kept => (List.mem_filter.mp kept).2 with ⟨groups, read⟩ | ⟨clash, clashes⟩
      · exact .inl ⟨⟨root, groups⟩, by rw [read]; rfl⟩
      · exact .inr ⟨clash, by rw [clashes]; rfl⟩

variable (same : memory.SameEntries other)
include same

/-- What a group holds does not depend on the order of its directory. -/
theorem surveyGroup_reordered {name : String} {group : Group}
    (surveyed : memory.surveyGroup root layout name = .ok group) :
    other.surveyGroup root layout name = .ok group := by
  obtain ⟨named, path, directory, collected⟩ := surveyGroup_eq_ok_iff.mp surveyed
  refine surveyGroup_eq_ok_iff.mpr ⟨named, path, (same _).symm.trans directory, ?_⟩
  rw [Members.collect_eq_ok_iff extensionSet] at collected ⊢
  obtain ⟨all, ascending⟩ := collected
  exact ⟨all.trans (Members.pagesAmong_perm (same.names_perm _)), ascending⟩

/-- Memories with the same entries hold the same tree up to the order of its groups. -/
theorem survey_reordered (found : memory.survey root layout = .ok tree) :
    ∃ reordered, other.survey root layout = .ok reordered ∧
      tree.groups.Perm reordered.groups := by
  obtain ⟨-, rootDirectory, groupNames, all⟩ := survey_eq_ok_iff.mp found
  have names : tree.groupNames.Perm ((other.names root.steps).filter
      fun name => other.isDirectory (root.join name).steps) := by
    rw [groupNames]
    simp only [same.isDirectory_eq]
    exact (same.names_perm root.steps).filter _
  have each : ∀ name ∈ (other.names root.steps).filter
      (fun name => other.isDirectory (root.join name).steps),
      ∃ group, other.surveyGroup root layout name = .ok group := by
    intro name listed
    obtain ⟨group, inTree, rfl⟩ := List.mem_map.mp (names.mem_iff.mpr listed)
    exact ⟨group, surveyGroup_reordered extensionSet same (all group inTree)⟩
  obtain ⟨groups, read⟩ := exists_surveyGroups each
  obtain ⟨otherNames, otherAll⟩ := surveyGroups_eq_ok_iff.mp read
  have otherFound : other.survey root layout = .ok ⟨root, groups⟩ :=
    survey_eq_ok_iff.mpr ⟨rfl, (same _).symm.trans rootDirectory, otherNames, otherAll⟩
  refine ⟨⟨root, groups⟩, otherFound, ?_⟩
  generalize (⟨root, groups⟩ : BuildTree) = reordered at otherFound
  have otherNames := (survey_eq_ok_iff.mp otherFound).2.2.1
  have distinct : tree.groups.Nodup := (survey_isLaidOut found).groupNames_nodup.of_map
  have otherDistinct : reordered.groups.Nodup :=
    (survey_isLaidOut otherFound).groupNames_nodup.of_map
  refine (List.perm_ext_iff_of_nodup distinct otherDistinct).mpr fun group => ?_
  rw [mem_groups_iff found, mem_groups_iff otherFound, otherNames, names.mem_iff]
  refine and_congr_right fun _ => ⟨surveyGroup_reordered extensionSet same, ?_⟩
  exact surveyGroup_reordered extensionSet same.symm

theorem exists_survey_reordered_iff :
    (∃ tree, memory.survey root layout = .ok tree) ↔
      ∃ tree, other.survey root layout = .ok tree := by
  constructor
  · rintro ⟨tree, found⟩
    obtain ⟨reordered, otherFound, -⟩ := survey_reordered extensionSet same found
    exact ⟨reordered, otherFound⟩
  · rintro ⟨tree, found⟩
    obtain ⟨reordered, otherFound, -⟩ := survey_reordered extensionSet same.symm found
    exact ⟨reordered, otherFound⟩

/-- Pages clash in both memories or in none. -/
theorem survey_clash_reordered_iff :
    (∃ clash, memory.survey root layout = .error (.clash clash)) ↔
      ∃ clash, other.survey root layout = .error (.clash clash) := by
  have clashes (memory : Memory) : (∃ clash, memory.survey root layout = .error (.clash clash)) ↔
      memory.find? root.steps = some .directory ∧
        ¬ ∃ tree, memory.survey root layout = .ok tree := by
    rcases survey_cases extensionSet memory root with
      ⟨refusal, refused, missing⟩ | ⟨directory, ⟨tree, read⟩ | ⟨clash, failed⟩⟩
    · simp [refused, missing]
    · simp [read]
    · simp [failed, directory]
  rw [clashes, clashes, same, exists_survey_reordered_iff extensionSet same]

end Extension

end Memory

end PageLinker
