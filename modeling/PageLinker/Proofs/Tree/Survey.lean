import PageLinker.Proofs.Memory.Effects
import PageLinker.Proofs.Program.Resumption
import PageLinker.Proofs.Tree.Reading

/-!
# Surveying a build tree

Reading a build tree only looks at it: directories are listed, and entries are told apart.  Such a
survey writes nothing, and it comes out the same on memories of one shape.  Where nothing is denied
its result is a function of the memory, given here.
-/

namespace PageLinker

namespace Path

/-- A name that leads on from a path is one more step of it.  From the empty path it may lead to an
anchor. -/
theorem steps_join_of_areSteps {path : Path} {name : String}
    (leads : AreSteps (path.steps ++ [name])) : (path.join name).steps = path.steps ++ [name] := by
  rw [AreSteps] at leads
  generalize ofSteps (path.steps ++ [name]) = reached at leads
  cases last : reached.components.getLast? with
  | some final =>
      obtain ⟨above, components⟩ := List.getLast?_eq_some_iff.mp last
      have ends : (reached.anchor.steps ++ above) ++ [final] = path.steps ++ [name] := by
        rw [← leads, steps, components, List.append_assoc]
      obtain ⟨-, same⟩ := List.append_inj' ends rfl
      obtain rfl : final = name := by simpa using same
      exact path.steps_join (reached.proper final (by simp [components]))
  | none =>
      -- Without components the route is an anchor, so the path in front of the name is empty.
      have anchored : reached.anchor.steps = path.steps ++ [name] := by
        rw [← leads, steps, List.getLast?_eq_none_iff.mp last, List.append_nil]
      have bound : reached.anchor.steps.length ≤ 1 := by
        cases reached.anchor <;> simp [Anchor.steps]
      have top : path.steps = here.steps := by
        rw [anchored, List.length_append, List.length_singleton] at bound
        exact List.eq_nil_of_length_eq_zero (by omega)
      obtain rfl := steps_injective top
      cases anchor : reached.anchor <;> simp [anchor, Anchor.steps, here, steps] at anchored
      · subst anchored
        rfl
      · subst anchored
        rfl

end Path

open Workspace (Request)

namespace Task

variable {α β : Type} {denied : Denial} {memory other : Memory}

namespace OnlySurveys

theorem writes_eq_nil {task : Task α} (surveys : task.OnlySurveys) (denied : Denial)
    (memory : Memory) : (task.run (Memory.handle denied) memory).writes = [] :=
  surveys.isSilent.writes_eq_nil _ memory

theorem state_eq {task : Task α} (surveys : task.OnlySurveys) (denied : Denial)
    (memory : Memory) : (task.run (Memory.handle denied) memory).state = memory :=
  surveys.isSilent.state_eq (Memory.handle_isStorage denied) memory

theorem passes_eq {task : Task α} (surveys : task.OnlySurveys) {reached : Memory}
    (passes : task.Passes (Memory.handle denied) memory reached) : reached = memory :=
  Memory.passes_eq_of_silent surveys.isSilent passes

theorem resumesFrom {task : Task α} (surveys : task.OnlySurveys) (denied : Denial)
    (memory : Memory) : task.ResumesFrom (Memory.handle denied) Eq memory :=
  .of_still (fun _ => rfl) fun _ passes => surveys.passes_eq passes

theorem handle_eq {request : Request} (survey : request.IsSurvey)
    (same : memory.SameShape other) :
    Memory.handle denied request other =
      (Memory.handle denied request memory).map fun granted => (granted.1, other) := by
  have guarded {γ : Type} (access : Access) (path : Path) (answer : Except Refusal γ) :
      denied.guarded access path (answer.map (·, other)) =
        (denied.guarded access path (answer.map (·, memory))).map
          fun granted => (granted.1, other) := by
    simp only [Denial.guarded]
    cases denied access path <;> cases answer <;> rfl
  cases request with
  | listDir path =>
      rw [Memory.handle, Memory.handle, ← Memory.list_eq_of_sameShape same]
      exact guarded .listDir path _
  | isDir path =>
      rw [Memory.handle, Memory.handle, ← Memory.holdsDirectory_eq_of_sameShape same]
      exact guarded .isDir path _
  | note record => rfl
  | readText path | writeText path content => exact survey.elim

/-- A survey comes out the same on memories of one shape. -/
theorem result_eq {task : Task α} (surveys : task.OnlySurveys)
    (same : memory.SameShape other) :
    (task.run (Memory.handle denied) other).result =
      (task.run (Memory.handle denied) memory).result := by
  induction task with
  | done value => rfl
  | fail failure => rfl
  | ask request answered ih =>
      have unchanged := @Memory.handle_eq_ok denied memory request
      rw [Program.run, Program.run, handle_eq surveys.1 same]
      cases handled : Memory.handle denied request memory with
      | error failure => rfl
      | ok granted =>
          have stays := unchanged handled
          rw [surveys.1.not_written] at stays
          simp only [Except.map]
          rw [stays]
          exact ih granted.1 (surveys.2 granted.1)

theorem result_bind {task : Task α} (surveys : task.OnlySurveys) (next : α → Task β)
    (denied : Denial) (memory : Memory) :
    ((task >>= next).run (Memory.handle denied) memory).result =
      (task.run (Memory.handle denied) memory).result >>= fun value =>
        ((next value).run (Memory.handle denied) memory).result :=
  surveys.isSilent.result_bind (Memory.handle_isStorage denied) next memory

theorem run_bind_of_ok {task : Task α} (surveys : task.OnlySurveys) {value : α}
    (found : (task.run (Memory.handle denied) memory).result = .ok value) (next : α → Task β) :
    (task >>= next).run (Memory.handle denied) memory =
      ((next value).run (Memory.handle denied) memory).precededBy
        (task.run (Memory.handle denied) memory).granted :=
  surveys.isSilent.run_bind_of_ok (Memory.handle_isStorage denied) found next

theorem writes_bind_of_ok {task : Task α} (surveys : task.OnlySurveys) {value : α}
    (found : (task.run (Memory.handle denied) memory).result = .ok value) (next : α → Task β) :
    ((task >>= next).run (Memory.handle denied) memory).writes =
      ((next value).run (Memory.handle denied) memory).writes := by
  rw [surveys.run_bind_of_ok found, Outcome.precededBy_writes, surveys.writes_eq_nil,
    List.nil_append]

theorem result_bind_of_ok {task : Task α} (surveys : task.OnlySurveys) {value : α}
    (found : (task.run (Memory.handle denied) memory).result = .ok value) (next : α → Task β) :
    ((task >>= next).run (Memory.handle denied) memory).result =
      ((next value).run (Memory.handle denied) memory).result := by
  rw [surveys.run_bind_of_ok found, Outcome.precededBy_result]

end OnlySurveys

end Task

namespace Memory

variable {memory : Memory}

/-- A group as it stands in a memory. -/
def surveyGroup (memory : Memory) (root : Path) (layout : Layout) (name : String) :
    Except Failure Group := do
  let filenames ← Failure.about (root.join name) (memory.list (root.join name))
  let members ← Members.collect layout (root.join name).name filenames
  pure ⟨name, root.join name, members⟩

/-- Groups as they stand in a memory, up to the first one that cannot be read. -/
def surveyGroups (memory : Memory) (root : Path) (layout : Layout) :
    List String → Except Failure (List Group)
  | [] => .ok []
  | name :: rest => do
      let group ← memory.surveyGroup root layout name
      let later ← surveyGroups memory root layout rest
      pure (group :: later)

/-- The build tree as it stands in a memory. -/
def survey (memory : Memory) (root : Path) (layout : Layout) : Except Failure BuildTree := do
  let names ← Failure.about root (memory.list root)
  let groups ← memory.surveyGroups root layout
    (names.filter fun name => memory.isDirectory (root.join name).steps)
  pure ⟨root, groups⟩

theorem run_listDir_result (memory : Memory) (path : Path) :
    ((Task.listDir path).run (handle Denial.nothing) memory).result =
      Failure.about path (memory.list path) := by
  rw [Task.listDir, Program.run_request, handle, Denial.guarded]
  cases memory.list path <;> rfl

theorem run_isDir_result {path : Path} (found : (memory.find? path.steps).isSome) :
    ((Task.isDir path).run (handle Denial.nothing) memory).result =
      .ok (memory.isDirectory path.steps) := by
  obtain ⟨entry, present⟩ := Option.isSome_iff_exists.mp found
  rw [Task.isDir, Program.run_request, handle, Denial.guarded, holdsDirectory,
    Catalog.isDirectory, present]
  rfl

theorem run_keepDirectories_result {root : Path} {names : List String}
    (found : ∀ name ∈ names, (memory.find? (root.join name).steps).isSome) :
    ((Task.keepDirectories root names).run (handle Denial.nothing) memory).result =
      .ok (names.filter fun name => memory.isDirectory (root.join name).steps) := by
  induction names with
  | nil => rfl
  | cons name rest ih =>
      have later := ih fun other member => found other (by simp [member])
      rw [Task.keepDirectories, (Task.isDir_onlySurveys _).result_bind,
        run_isDir_result (found name (by simp))]
      have surveys := Task.keepDirectories_onlySurveys root rest
      have continued := surveys.result_bind (fun later => pure
        (if memory.isDirectory (root.join name).steps then name :: later else later))
        Denial.nothing memory
      rw [later] at continued
      rw [except_ok_bind, continued]
      simp [List.filter_cons]

theorem run_memberFiles_result (memory : Memory) (directory : Path) (layout : Layout) :
    ((Task.memberFiles directory layout).run (handle Denial.nothing) memory).result =
      (Failure.about directory (memory.list directory) >>= fun filenames =>
        Members.collect layout directory.name filenames) := by
  rw [Task.memberFiles, (Task.listDir_onlySurveys directory).result_bind, run_listDir_result]
  congr 1
  funext filenames
  cases Members.collect layout directory.name filenames <;> rfl

theorem run_readGroups_result (memory : Memory) (root : Path) (layout : Layout)
    (names : List String) :
    ((Task.readGroups root layout names).run (handle Denial.nothing) memory).result =
      memory.surveyGroups root layout names := by
  induction names with
  | nil => rfl
  | cons name rest ih =>
      simp only [Task.readGroups, (Task.memberFiles_onlySurveys _ layout).result_bind,
        (Task.readGroups_onlySurveys root layout rest).result_bind, run_memberFiles_result, ih,
        surveyGroups, surveyGroup, bind_assoc, pure_bind]
      rfl

/-- What a directory lists stands one step below it. -/
theorem steps_join_of_mem_names {directory : Path} {name : String}
    (listed : name ∈ memory.names directory.steps) :
    (directory.join name).steps = directory.steps ++ [name] := by
  obtain ⟨entry, found⟩ := Option.isSome_iff_exists.mp ((memory.mem_names_iff).mp listed)
  have member := Catalog.mem_of_find?_eq_some (by simp) found
  exact Path.steps_join_of_areSteps (memory.allowed _ member).2

/-- Where nothing is denied, reading a build tree yields the tree as it stands. -/
theorem run_readTree_result (memory : Memory) (root : Path) (layout : Layout) :
    ((Task.readTree root layout).run (handle Denial.nothing) memory).result =
      memory.survey root layout := by
  have groups : Task.listGroups root = Task.listDir root >>= Task.keepDirectories root := rfl
  rw [Task.readTree, groups, bind_assoc, (Task.listDir_onlySurveys root).result_bind,
    run_listDir_result, survey]
  cases listed : memory.list root with
  | error refusal => rfl
  | ok names =>
      obtain ⟨-, rfl⟩ := list_eq_ok_iff.mp listed
      have found : ∀ name ∈ memory.names root.steps,
          (memory.find? (root.join name).steps).isSome := by
        intro name member
        rw [steps_join_of_mem_names member]
        exact memory.mem_names_iff.mp member
      simp only [Failure.about, except_ok_bind,
        (Task.keepDirectories_onlySurveys root _).result_bind, run_keepDirectories_result found,
        (Task.readGroups_onlySurveys root layout _).result_bind, run_readGroups_result]
      rfl

/-- A tree that was read in spite of denials is the tree as it stands. -/
theorem survey_of_read {denied : Denial} {root : Path} {layout : Layout} {tree : BuildTree}
    (found : ((Task.readTree root layout).run (handle denied) memory).result = .ok tree) :
    memory.survey root layout = .ok tree := by
  rw [← run_readTree_result, Program.run_of_curbs (handle_curbs denied) found]
  exact found

end Memory

end PageLinker
