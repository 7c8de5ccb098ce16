import PageLinker.Proofs.Program.Storage
import PageLinker.Tree.Reading

/-!
# Reading a build tree from a storage

Reading a build tree only looks at it: directories are listed, and entries are told apart.  So the
tree is put together from answers that the storage gives in one and the same state.
-/

namespace PageLinker

namespace Workspace

/-- The request looks at the tree and touches no file. -/
def Request.IsSurvey : Request → Prop
  | .listDir _ | .isDir _ | .note _ => True
  | .readText _ | .writeText _ _ => False

theorem Request.IsSurvey.not_written {request : Request} (survey : request.IsSurvey) :
    request.written? = none := by
  cases request with
  | writeText path content => exact survey.elim
  | listDir path | isDir path | readText path | note record => rfl

end Workspace

open Workspace (Request)

namespace Task

/-- The task only looks at the tree. -/
abbrev OnlySurveys {α : Type} (task : Task α) : Prop :=
  task.Within Request.IsSurvey

theorem OnlySurveys.isSilent {α : Type} {task : Task α} (surveys : task.OnlySurveys) :
    task.IsSilent :=
  surveys.mono fun _ survey => survey.not_written

theorem listDir_onlySurveys (path : Path) : (listDir path).OnlySurveys :=
  .request trivial

theorem isDir_onlySurveys (path : Path) : (isDir path).OnlySurveys :=
  .request trivial

theorem note_onlySurveys (origin : Origin) (level : Level) (message : String) :
    (note origin level message).OnlySurveys :=
  .request trivial

theorem keepDirectories_onlySurveys (root : Path) (names : List String) :
    (keepDirectories root names).OnlySurveys := by
  induction names with
  | nil => trivial
  | cons name rest ih =>
      exact (isDir_onlySurveys _).bind fun _ => ih.bind fun _ => trivial

theorem memberFiles_onlySurveys (directory : Path) (layout : Layout) :
    (memberFiles directory layout).OnlySurveys :=
  (listDir_onlySurveys directory).bind fun _ => .ofExcept _

theorem readGroups_onlySurveys (root : Path) (layout : Layout) (names : List String) :
    (readGroups root layout names).OnlySurveys := by
  induction names with
  | nil => trivial
  | cons name rest ih =>
      exact (memberFiles_onlySurveys _ layout).bind fun _ => ih.bind fun _ => trivial

theorem readTree_onlySurveys (root : Path) (layout : Layout) :
    (readTree root layout).OnlySurveys := by
  refine .bind ((listDir_onlySurveys root).bind fun names => ?_) fun names => ?_
  · exact keepDirectories_onlySurveys root names
  · exact (readGroups_onlySurveys root layout names).bind fun _ => trivial

end Task

variable {State : Type} {handle : Handler Request State} {state : State}

/-- The storage says that a directory stands at the path. -/
def Handler.tellsDirectory (handle : Handler Request State) (state : State) (path : Path) :
    Bool :=
  match ((Task.isDir path).run handle state).result with
  | .ok directory => directory
  | .error _ => false

/-- The group is as a storage shows it. -/
structure Group.IsShown (handle : Handler Request State) (state : State) (root : Path)
    (layout : Layout) (group : Group) : Prop where
  path : group.path = root.join group.name
  collected : ∃ filenames, ((Task.listDir group.path).run handle state).result = .ok filenames ∧
    Members.collect layout group.path.name filenames = .ok group.members

namespace Task

variable (storage : handle.IsStorage) {root : Path} {layout : Layout}

theorem isDir_eq_ok_iff {path : Path} :
    (∃ directory, ((isDir path).run handle state).result = .ok directory) ↔
      ((isDir path).run handle state).result = .ok (handle.tellsDirectory state path) := by
  rw [Handler.tellsDirectory]
  cases ((isDir path).run handle state).result <;> simp

include storage

theorem keepDirectories_eq_ok_iff {names kept : List String} :
    ((keepDirectories root names).run handle state).result = .ok kept ↔
      (∀ name ∈ names, ∃ directory,
        ((isDir (root.join name)).run handle state).result = .ok directory) ∧
        kept = names.filter fun name => handle.tellsDirectory state (root.join name) := by
  induction names generalizing kept with
  | nil => simp [keepDirectories, eq_comm]
  | cons name rest ih =>
      have asking := (isDir_onlySurveys (root.join name)).isSilent
      have later := (keepDirectories_onlySurveys root rest).isSilent
      simp only [keepDirectories, asking.result_bind storage, later.result_bind storage,
        except_bind_eq_ok, ih, List.forall_mem_cons, isDir_eq_ok_iff, List.filter_cons]
      constructor
      · rintro ⟨directory, told, others, ⟨found, rfl⟩, same⟩
        cases told.symm.trans (isDir_eq_ok_iff.mp ⟨_, told⟩)
        exact ⟨⟨told, found⟩, (Except.ok.inj same).symm⟩
      · rintro ⟨⟨told, found⟩, rfl⟩
        exact ⟨_, told, _, ⟨found, rfl⟩, rfl⟩

theorem memberFiles_eq_ok_iff {directory : Path} {members : List Member} :
    ((memberFiles directory layout).run handle state).result = .ok members ↔
      ∃ filenames, ((listDir directory).run handle state).result = .ok filenames ∧
        Members.collect layout directory.name filenames = .ok members := by
  have listing := (listDir_onlySurveys directory).isSilent
  simp only [memberFiles, listing.result_bind storage, except_bind_eq_ok, Program.run_ofExcept]

theorem readGroups_eq_ok_iff {names : List String} {groups : List Group} :
    ((readGroups root layout names).run handle state).result = .ok groups ↔
      groups.map (·.name) = names ∧ ∀ group ∈ groups, group.IsShown handle state root layout := by
  induction names generalizing groups with
  | nil =>
      rw [List.map_eq_nil_iff]
      constructor
      · rintro ⟨⟩
        simp
      · rintro ⟨rfl, -⟩
        rfl
  | cons name rest ih =>
      have reading := (memberFiles_onlySurveys (root.join name) layout).isSilent
      have later := (readGroups_onlySurveys root layout rest).isSilent
      simp only [readGroups, reading.result_bind storage, later.result_bind storage,
        except_bind_eq_ok, memberFiles_eq_ok_iff storage, ih]
      constructor
      · rintro ⟨members, collected, others, ⟨names, shown⟩, same⟩
        cases same
        exact ⟨by rw [List.map_cons, names], List.forall_mem_cons.mpr ⟨⟨rfl, collected⟩, shown⟩⟩
      · rintro ⟨names, shown⟩
        cases groups with
        | nil => cases names
        | cons group others =>
            obtain ⟨rfl, rfl⟩ := List.cons.inj names
            obtain ⟨⟨path, collected⟩, shownOthers⟩ := List.forall_mem_cons.mp shown
            refine ⟨group.members, path ▸ collected, others, ⟨rfl, shownOthers⟩, ?_⟩
            rw [← path]
            rfl

/-- A tree is read when the root lists its groups, among other entries that are no directories, and
every group is shown as it is in the tree. -/
theorem readTree_eq_ok_iff {tree : BuildTree} :
    ((readTree root layout).run handle state).result = .ok tree ↔
      tree.root = root ∧ ∃ names, ((listDir root).run handle state).result = .ok names ∧
        (∀ name ∈ names, ∃ directory,
          ((isDir (root.join name)).run handle state).result = .ok directory) ∧
        tree.groupNames = names.filter
          (fun name => handle.tellsDirectory state (root.join name)) ∧
        ∀ group ∈ tree.groups, group.IsShown handle state root layout := by
  obtain ⟨treeRoot, groups⟩ := tree
  have listing := (listDir_onlySurveys root).isSilent
  have keeping (names : List String) := (keepDirectories_onlySurveys root names).isSilent
  have reading (names : List String) := (readGroups_onlySurveys root layout names).isSilent
  have first : listGroups root = listDir root >>= keepDirectories root := rfl
  simp only [readTree, first, bind_assoc, listing.result_bind storage,
    (keeping _).result_bind storage, (reading _).result_bind storage, except_bind_eq_ok,
    keepDirectories_eq_ok_iff storage, readGroups_eq_ok_iff storage]
  constructor
  · rintro ⟨names, listed, kept, ⟨found, rfl⟩, later, ⟨groupNames, shown⟩, same⟩
    cases same
    exact ⟨rfl, names, listed, found, groupNames, shown⟩
  · rintro ⟨rfl, names, listed, found, groupNames, shown⟩
    exact ⟨names, listed, _, ⟨found, rfl⟩, groups, ⟨groupNames, shown⟩, rfl⟩

end Task

end PageLinker
