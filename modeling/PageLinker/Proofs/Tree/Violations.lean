import PageLinker.Proofs.Page.Names
import PageLinker.Proofs.Tree.Collecting
import PageLinker.Proofs.Tree.Stability

/-!
# The first badly named page

The groups of a tree are checked as they are enumerated and the pages of a group as they are
ordered.  So the verdict on the names of a tree can be told from the directories alone: it is about
the first group with a bad name, and about the least bad name there.
-/

namespace PageLinker

namespace Naming

theorem validate_eq_error_iff {name : String} {group filename : Option String}
    {violation : Violation} :
    validate name group filename = .error violation ↔
      ∃ rule, check name = some rule ∧ violation = ⟨name, rule, group, filename⟩ := by
  rw [validate]
  cases check name <;> simp [eq_comm]

end Naming

namespace Group

/-- A refused list of pages has a first one that is badly named. -/
theorem exists_first_of_validateMembers {group : String} {members : List Member}
    {violation : Naming.Violation} (refused : validateMembers group members = .error violation) :
    ∃ before page after rule, members = before ++ page :: after ∧
      (∀ earlier ∈ before, Naming.check earlier.base = none) ∧
      Naming.check page.base = some rule ∧
      violation = ⟨page.base, rule, some group, some page.filename⟩ := by
  rw [validateMembers_eq_forM] at refused
  obtain ⟨before, page, after, same, accepted, verdict⟩ := except_forM_eq_error refused
  obtain ⟨rule, broken, told⟩ := Naming.validate_eq_error_iff.mp verdict
  exact ⟨before, page, after, rule, same,
    fun earlier listed => Naming.validate_eq_ok_iff.mp (accepted earlier listed), broken, told⟩

end Group

/-- Of pages that are ordered by their names, the first badly named one has the least bad name. -/
theorem Members.Ascending.base_le_of_first {before after : List Member} {page other : Member}
    (ascending : Ascending (before ++ page :: after))
    (accepted : ∀ earlier ∈ before, Naming.check earlier.base = none)
    (listed : other ∈ before ++ page :: after) {rule : Naming.Rule}
    (broken : rule.IsBrokenBy other.base) : page.base ≤ other.base := by
  rcases List.mem_append.mp listed with earlier | later
  · exact absurd broken (Naming.check_eq_none_iff.mp (accepted other earlier) rule)
  · rcases List.mem_cons.mp later with rfl | after
    · exact String.le_refl _
    · obtain ⟨-, ordered, -⟩ := List.pairwise_append.mp ascending
      exact String.not_lt.mp (String.lt_asymm ((List.pairwise_cons.mp ordered).1 other after))

namespace Memory

variable {memory : Memory} {root : Path} {layout : Layout} {tree : BuildTree}

/-- The directories immediately below a root, as they are enumerated. -/
def groupNames (memory : Memory) (root : Path) : List String :=
  (memory.names root.steps).filter fun name => memory.isDirectory (root.join name).steps

/-- The page is an entry of the directory of the group, with the base name that its file has. -/
def HasPage (memory : Memory) (root : Path) (layout : Layout) (group : String) (page : Member) :
    Prop :=
  page.filename ∈ memory.names (root.join group).steps ∧
    layout.isIndex page.filename = false ∧ layout.base? page.filename = .ok (some page.base)

/-- In the first group with a bad name the page has the least one, and this is the first rule that
it breaks. -/
structure IsFirstBad (memory : Memory) (root : Path) (layout : Layout) (group : String)
    (page : Member) (rule : Naming.Rule) : Prop where
  firstGroup : ∃ before after, memory.groupNames root = before ++ group :: after ∧
    ∀ earlier ∈ before, ∀ other, memory.HasPage root layout earlier other →
      ∀ broken : Naming.Rule, ¬ broken.IsBrokenBy other.base
  isPage : memory.HasPage root layout group page
  leastName : ∀ other, memory.HasPage root layout group other →
    ∀ broken : Naming.Rule, broken.IsBrokenBy other.base → page.base ≤ other.base
  firstRule : Naming.Rule.inOrder.find? (·.IsBrokenBy page.base) = some rule

section Found

variable {extension : String} (extensionSet : layout.extension = some extension)
  (found : memory.survey root layout = .ok tree)
include extensionSet found

theorem members_of_mem_groups {group : Group} (listed : group ∈ tree.groups) :
    group.members.Perm (Members.pagesAmong layout (memory.names (root.join group.name).steps)) ∧
      Members.Ascending group.members := by
  have surveyed := (survey_eq_ok_iff.mp found).2.2.2 group listed
  obtain ⟨-, -, -, collected⟩ := surveyGroup_eq_ok_iff.mp surveyed
  exact (Members.collect_eq_ok_iff extensionSet).mp collected

theorem hasPage_iff {group : Group} (listed : group ∈ tree.groups) {page : Member} :
    memory.HasPage root layout group.name page ↔ page ∈ group.members := by
  rw [(members_of_mem_groups extensionSet found listed).1.mem_iff]
  exact (Members.mem_pagesAmong_iff extensionSet).symm

/-- The verdict on a tree that stands in a memory is about the first badly named page there. -/
theorem isFirstBad_of_validateGroups {violation : Naming.Violation}
    (refused : validateGroups tree.groups = .error violation) :
    ∃ group page rule, violation = ⟨page.base, rule, some group, some page.filename⟩ ∧
      memory.IsFirstBad root layout group page rule := by
  obtain ⟨before, bad, after, groups, wellNamed, verdict⟩ := exists_first_of_validateGroups refused
  obtain ⟨earlier, page, later, rule, members, accepted, broken, rfl⟩ :=
    Group.exists_first_of_validateMembers verdict
  have inTree : ∀ group ∈ before ++ bad :: after, group ∈ tree.groups := by simp [groups]
  have isBad : bad ∈ tree.groups := inTree bad (by simp)
  refine ⟨bad.name, page, rule, rfl, ⟨before.map (·.name), after.map (·.name), ?_, ?_⟩, ?_, ?_, ?_⟩
  · have names : tree.groupNames = memory.groupNames root := (survey_eq_ok_iff.mp found).2.2.1
    rw [← names, BuildTree.groupNames, groups, List.map_append, List.map_cons]
  · intro name named other isPage
    obtain ⟨group, listed, rfl⟩ := List.mem_map.mp named
    have inGroup := (hasPage_iff extensionSet found (inTree group (by simp [listed]))).mp isPage
    exact Naming.check_eq_none_iff.mp (wellNamed group listed other inGroup)
  · exact (hasPage_iff extensionSet found isBad).mpr (by simp [members])
  · intro other isPage rule broken
    have inGroup := (hasPage_iff extensionSet found isBad).mp isPage
    have ascending := (members_of_mem_groups extensionSet found isBad).2
    rw [members] at inGroup ascending
    exact ascending.base_le_of_first accepted inGroup broken
  · rw [← Naming.check_eq_find?, broken]

end Found

end Memory

end PageLinker
