import Mathlib.Data.List.TakeWhile
import PageLinker.Index.Writing
import PageLinker.Proofs.Program.Running

/-!
# The indexes of a tree, one after the other

A tree determines its indexes: where each one stands and what it says.  Writing the indexes of a
tree is writing the root index and those of the groups before the first badly named page, and then
giving the verdict on the names.
-/

namespace PageLinker

namespace Group

/-- Every page of the group follows the naming policy. -/
def IsWellNamed (group : Group) : Prop :=
  ∀ member ∈ group.members, Naming.check member.base = none

instance (group : Group) : Decidable group.IsWellNamed :=
  inferInstanceAs (Decidable (∀ member ∈ group.members, Naming.check member.base = none))

def index (indexFile : String) (group : Group) : IndexFile where
  path := group.path.join indexFile
  content := IndexEntry.render (IndexEntry.ofMembers group.memberNames)
  entries := IndexEntry.ofMembers group.memberNames

end Group

namespace BuildTree

def rootIndex (indexFile : String) (tree : BuildTree) : IndexFile where
  path := tree.root.join indexFile
  content := IndexEntry.renderGroups tree.groupNames
  entries := IndexEntry.ofGroups tree.groupNames

/-- All indexes of a tree: that of the root, then those of the groups in their order. -/
def indexes (tree : BuildTree) (indexFile : String) : List IndexFile :=
  tree.rootIndex indexFile :: tree.groups.map (·.index indexFile)

/-- The indexes of a tree up to the first group with a badly named page. -/
def indexesBeforeBad (tree : BuildTree) (indexFile : String) : List IndexFile :=
  tree.rootIndex indexFile ::
    (tree.groups.takeWhile (·.IsWellNamed)).map (·.index indexFile)

variable {tree : BuildTree} {indexFile : String}

theorem indexesBeforeBad_prefix (tree : BuildTree) (indexFile : String) :
    tree.indexesBeforeBad indexFile <+: tree.indexes indexFile := by
  rw [indexesBeforeBad, indexes, List.cons_prefix_cons]
  exact ⟨rfl, (List.takeWhile_prefix _).map _⟩

theorem indexesBeforeBad_of_first {before after : List Group} {bad : Group}
    (groups : tree.groups = before ++ bad :: after)
    (wellNamed : ∀ group ∈ before, group.IsWellNamed) (badlyNamed : ¬ bad.IsWellNamed) :
    tree.indexesBeforeBad indexFile =
      tree.rootIndex indexFile :: before.map (·.index indexFile) := by
  have accepted : ∀ group ∈ before, decide group.IsWellNamed = true := by
    intro group listed
    simpa using wellNamed group listed
  have stops : (bad :: after).takeWhile (·.IsWellNamed) = [] :=
    List.takeWhile_cons_of_neg (by simpa using badlyNamed)
  rw [indexesBeforeBad, groups, List.takeWhile_append_of_pos accepted, stops, List.append_nil]

theorem indexesBeforeBad_of_wellNamed (wellNamed : ∀ group ∈ tree.groups, group.IsWellNamed) :
    tree.indexesBeforeBad indexFile = tree.indexes indexFile := by
  have accepted : ∀ group ∈ tree.groups, decide group.IsWellNamed = true := by
    intro group listed
    simpa using wellNamed group listed
  have all : tree.groups.takeWhile (·.IsWellNamed) = tree.groups :=
    List.takeWhile_eq_self_iff.mpr accepted
  rw [indexesBeforeBad, indexes, all]

end BuildTree

/-- The write that makes an index file. -/
def IndexFile.write (file : IndexFile) : Path × String :=
  (file.path, file.content)

namespace Naming

section Verdicts

variable {α : Type} {verdict : Except Violation α}

theorem asFailure_eq_ok_iff {value : α} : asFailure verdict = .ok value ↔ verdict = .ok value := by
  cases verdict <;> simp [asFailure]

theorem asFailure_eq_error_iff {failure : Failure} :
    asFailure verdict = .error failure ↔
      ∃ violation, verdict = .error violation ∧ failure = .badName violation := by
  cases verdict <;> simp [asFailure, eq_comm]

end Verdicts

theorem validate_eq_ok_iff {name : String} {group filename : Option String} :
    validate name group filename = .ok () ↔ check name = none := by
  rw [validate]
  cases check name <;> simp

theorem validateAll_eq_forM (group : Option String) (names : List String) :
    validateAll group names = forM names (validate · group none) := by
  induction names with
  | nil => rfl
  | cons name rest ih => rw [validateAll, ih, List.forM_cons]

theorem validateAll_eq_ok_iff {group : Option String} {names : List String} :
    validateAll group names = .ok () ↔ ∀ name ∈ names, check name = none := by
  rw [validateAll_eq_forM, except_forM_eq_ok]
  simp only [validate_eq_ok_iff]

end Naming

namespace Group

theorem validateMembers_eq_forM (group : String) (members : List Member) :
    validateMembers group members = forM members fun member =>
      Naming.validate member.base (some group) (some member.filename) := by
  induction members with
  | nil => rfl
  | cons member rest ih => rw [validateMembers, ih, List.forM_cons]

theorem validateMembers_eq_ok_iff {group : String} {members : List Member} :
    validateMembers group members = .ok () ↔
      ∀ member ∈ members, Naming.check member.base = none := by
  rw [validateMembers_eq_forM, except_forM_eq_ok]
  simp only [Naming.validate_eq_ok_iff]

theorem validate_eq_ok_iff {group : Group} : group.validate = .ok () ↔ group.IsWellNamed :=
  validateMembers_eq_ok_iff

end Group

theorem validateGroups_eq_forM (groups : List Group) :
    validateGroups groups = forM groups Group.validate := by
  induction groups with
  | nil => rfl
  | cons group rest ih => rw [validateGroups, ih, List.forM_cons]

theorem validateGroups_eq_ok_iff {groups : List Group} :
    validateGroups groups = .ok () ↔ ∀ group ∈ groups, group.IsWellNamed := by
  rw [validateGroups_eq_forM, except_forM_eq_ok]
  simp only [Group.validate_eq_ok_iff]

/-- A refused list of groups has a first one with a badly named page. -/
theorem exists_first_of_validateGroups {groups : List Group} {violation : Naming.Violation}
    (refused : validateGroups groups = .error violation) :
    ∃ before bad after, groups = before ++ bad :: after ∧
      (∀ group ∈ before, group.IsWellNamed) ∧ bad.validate = .error violation := by
  rw [validateGroups_eq_forM] at refused
  obtain ⟨before, bad, after, same, accepted, verdict⟩ := except_forM_eq_error refused
  exact ⟨before, bad, after, same,
    fun group listed => Group.validate_eq_ok_iff.mp (accepted group listed), verdict⟩

namespace Task

def writeIndexFiles : List IndexFile → Task (List IndexFile)
  | [] => pure []
  | file :: rest => do
      let written ← writeIndex file
      let later ← writeIndexFiles rest
      pure (written :: later)

variable {extension indexFile : String}

theorem writeGroupIndex_of_isWellNamed {group : Group} (wellNamed : group.IsWellNamed) :
    writeGroupIndex group ⟨some extension, some indexFile⟩ =
      writeIndex (group.index indexFile) := by
  have names : Naming.validateAll (some group.name) group.memberNames = .ok () := by
    rw [Naming.validateAll_eq_ok_iff, Group.memberNames, List.forall_mem_map]
    exact wellNamed
  rw [writeGroupIndex, Group.validate_eq_ok_iff.mpr wellNamed, IndexEntry.renderMembers, names]
  rfl

/-- Writing the indexes of groups is writing those before the first badly named page, and giving
the verdict. -/
theorem writeGroupIndexes_eq (groups : List Group) :
    writeGroupIndexes ⟨some extension, some indexFile⟩ groups = (do
      let files ← writeIndexFiles ((groups.takeWhile (·.IsWellNamed)).map (·.index indexFile))
      Program.ofExcept (Naming.asFailure (validateGroups groups))
      pure files) := by
  induction groups with
  | nil => rfl
  | cons group rest ih =>
      rw [writeGroupIndexes, validateGroups]
      cases verdict : group.validate with
      | ok _ =>
          have wellNamed := Group.validate_eq_ok_iff.mp verdict
          rw [writeGroupIndex_of_isWellNamed wellNamed, ih,
            List.takeWhile_cons_of_pos (by simpa using wellNamed), List.map_cons, writeIndexFiles]
          simp only [bind_assoc, pure_bind]
          rfl
      | error violation =>
          have badlyNamed : ¬ group.IsWellNamed := by
            rw [← Group.validate_eq_ok_iff, verdict]
            simp
          rw [writeGroupIndex, verdict,
            List.takeWhile_cons_of_neg (by simpa using badlyNamed)]
          rfl

/-- Write the indexes of a tree up to the first badly named page, and give the verdict. -/
def writeTreeIndexes (indexFile : String) (tree : BuildTree) : Task (List IndexFile) := do
  note .index .info s!"Indexing {tree.root}: {tree.groups.length} groups"
  let files ← writeIndexFiles (tree.indexesBeforeBad indexFile)
  Program.ofExcept (Naming.asFailure (validateGroups tree.groups))
  pure files

theorem writeIndexes_eq (root : Path) :
    writeIndexes root ⟨some extension, some indexFile⟩ =
      readTree root ⟨some extension, some indexFile⟩ >>= writeTreeIndexes indexFile := by
  have rest (tree : BuildTree) :
      (do
        let rootFile ← writeRootIndex tree.root tree.groupNames ⟨some extension, some indexFile⟩
        let groupFiles ← writeGroupIndexes ⟨some extension, some indexFile⟩ tree.groups
        pure (rootFile :: groupFiles)) = (do
        let files ← writeIndexFiles (tree.indexesBeforeBad indexFile)
        Program.ofExcept (Naming.asFailure (validateGroups tree.groups))
        pure files) := by
    rw [writeGroupIndexes_eq, BuildTree.indexesBeforeBad, writeIndexFiles]
    simp only [bind_assoc, pure_bind]
    rfl
  simp only [writeIndexes, rest]
  rfl

end Task

end PageLinker
