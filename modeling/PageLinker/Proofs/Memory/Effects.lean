import PageLinker.Path.Joining
import PageLinker.Proofs.Memory.Shape
import PageLinker.Proofs.Program.Storage

/-!
# What a run does to a memory

The state that a run leaves is the memory with the writes of the run carried out in order, whatever
was denied.  So where a run did not write, everything stands as before.
-/

namespace PageLinker

/-- Deny every write as well. -/
def Denial.readOnly (denied : Denial) : Denial :=
  fun access path => access == .writeText || denied access path

namespace Memory

variable {denied : Denial} {memory left : Memory} {α : Type}

theorem handle_isStorage (denied : Denial) : (handle denied).IsStorage where
  unchanged := by
    intro request memory granted unwritten answered
    have effect := handle_eq_ok answered
    rw [unwritten] at effect
    exact effect
  names_nodup := by
    intro path memory left names answered
    obtain ⟨listed, found, same⟩ := except_map_eq_ok.mp (guarded_eq_ok.mp answered).2
    obtain ⟨rfl, -⟩ := Prod.mk.inj same
    rw [← (list_eq_ok_iff.mp found).2]
    exact memory.names_nodup path.steps
  noted := fun _ _ => rfl

/-- A memory with these files.  A file that cannot be made is left out. -/
def ofFiles (files : List (String × String)) : Memory :=
  files.foldl (fun memory file =>
    (memory.makeFile (Path.ofString file.1) file.2).toOption.getD memory) Catalog.empty

/-- Carry out writes one after the other. -/
def writeAll (memory : Memory) : List (Path × String) → Except Refusal Memory
  | [] => .ok memory
  | (path, content) :: rest => do
      let written ← memory.write path.steps content
      writeAll written rest

/-- A run leaves the memory with the writes of the run carried out. -/
theorem writeAll_run (denied : Denial) (task : Task α) (memory : Memory) :
    memory.writeAll (task.run (handle denied) memory).writes =
      .ok (task.run (handle denied) memory).state := by
  induction task generalizing memory with
  | done value => rfl
  | fail failure => rfl
  | ask request answered ih =>
      rw [Program.run]
      cases handled : handle denied request memory with
      | error failure => rfl
      | ok granted =>
          have rest := ih granted.1 granted.2
          have effect := handle_eq_ok handled
          simp only
          generalize (answered granted.1).run (handle denied) granted.2 = outcome at rest
          have writes := request.writes_cons outcome
          rw [Outcome.precededBy, List.singleton_append] at writes
          rw [writes]
          cases written : request.written? with
          | none =>
              rw [written] at effect
              rw [← effect]
              exact rest
          | some write =>
              rw [written] at effect
              rw [Option.toList_some, List.singleton_append, writeAll, effect]
              exact rest

theorem find?_writeAll_of_untouched {writes : List (Path × String)}
    (done : memory.writeAll writes = .ok left) {route : Route}
    (untouched : ∀ write ∈ writes, write.1.steps ≠ route) :
    left.find? route = memory.find? route := by
  induction writes generalizing memory with
  | nil =>
      cases done
      rfl
  | cons write rest ih =>
      obtain ⟨written, granted, later⟩ := except_bind_eq_ok.mp done
      have elsewhere : route ≠ write.1.steps := (untouched write (by simp)).symm
      rw [ih later fun other member => untouched other (by simp [member]),
        Catalog.find?_write granted, if_neg elsewhere]

theorem find?_run_of_not_written (denied : Denial) (task : Task α) (memory : Memory) {path : Path}
    (untouched : path ∉ (task.run (handle denied) memory).writes.map (·.1)) :
    (task.run (handle denied) memory).state.find? path.steps = memory.find? path.steps := by
  apply find?_writeAll_of_untouched (writeAll_run denied task memory)
  intro write member same
  exact untouched (List.mem_map.mpr ⟨write, member, Path.steps_injective same⟩)

theorem state_eq_of_writes_eq_nil {task : Task α}
    (silent : (task.run (handle denied) memory).writes = []) :
    (task.run (handle denied) memory).state = memory := by
  have done := writeAll_run denied task memory
  rw [silent] at done
  exact (Except.ok.inj done).symm

theorem passes_eq_of_silent {task : Task α} (silent : task.IsSilent)
    (passes : task.Passes (handle denied) memory left) : left = memory := by
  refine silent.keeps (· = memory) ?_ rfl passes
  intro request state granted unwritten same answered
  have unchanged := handle_eq_ok answered
  rw [unwritten] at unchanged
  exact unchanged.trans same

theorem handle_readOnly (denied : Denial) {request : Workspace.Request}
    (unwritten : request.written? = none) (memory : Memory) :
    handle denied.readOnly request memory = handle denied request memory := by
  cases request with
  | writeText path content => cases unwritten
  | listDir path | isDir path | readText path | note record => rfl

/-- A run that fails by its own verdict, with nothing written before, did not even try to write. -/
theorem run_readOnly {task : Task α} {failure : Failure}
    (failed : (task.run (handle denied) memory).result = .error failure)
    (verdict : ∀ refusal path, failure ≠ .refused refusal path)
    (silent : (task.run (handle denied) memory).writes = []) :
    task.run (handle denied.readOnly) memory = task.run (handle denied) memory := by
  induction task generalizing memory with
  | done value => rfl
  | fail own => rfl
  | ask request answered ih =>
      rw [Program.run] at failed silent
      cases handled : handle denied request memory with
      | error refused =>
          rw [handled] at failed
          cases failed
          obtain ⟨refusal, path, rfl⟩ := handle_eq_error handled
          exact absurd rfl (verdict refusal path)
      | ok granted =>
          simp only [handled] at failed silent
          have writes := request.writes_cons ((answered granted.1).run (handle denied) granted.2)
          rw [Outcome.precededBy, List.singleton_append, silent] at writes
          obtain ⟨unwritten, later⟩ := List.append_eq_nil_iff.mp writes.symm
          have same := handle_readOnly denied (Option.toList_eq_nil_iff.mp unwritten) memory
          rw [Program.run, Program.run, same, handled]
          simp only [ih granted.1 failed later]

/-- A task leaves those places alone that it may not write. -/
theorem find?_passed {task : Task α} {places : Path → Prop} (writes : task.WritesInto places)
    (passes : task.Passes (handle denied) memory left) {path : Path} (apart : ¬ places path) :
    left.find? path.steps = memory.find? path.steps := by
  refine writes.keeps (fun state => state.find? path.steps = memory.find? path.steps) ?_ rfl passes
  intro request state granted may same answered
  have effect := handle_eq_ok answered
  cases written : request.written? with
  | none =>
      rw [written] at effect
      rw [effect]
      exact same
  | some write =>
      rw [written] at effect
      rw [Catalog.find?_write effect, if_neg]
      · exact same
      · intro place
        exact apart (Path.steps_injective place ▸ may write written)

/-- A task that goes on from a write without writing passes two states at most. -/
theorem passes_writeText_bind {path : Path} {content : String} {next : Unit → Task α}
    (silent : (next ()).IsSilent)
    (passes : (Task.writeText path content >>= next).Passes (handle denied) memory left) :
    left = memory ∨ memory.write path.steps content = .ok left := by
  rcases passes with rfl | ⟨granted, handled, later⟩
  · exact .inl rfl
  · rw [passes_eq_of_silent silent later]
    exact .inr (handle_eq_ok handled)

section Requests

variable (denied : Denial) (memory : Memory) (path : Path)

theorem run_readText :
    (Task.readText path).run (handle denied) memory =
      match denied.guarded .readText path (memory.read path) with
      | .ok text => ⟨.ok text, memory, [.readText path]⟩
      | .error failure => ⟨.error failure, memory, []⟩ := by
  rw [Task.readText, Program.run_request, handle, guarded_map]
  cases denied.guarded .readText path (memory.read path) <;> rfl

theorem run_writeText (content : String) :
    (Task.writeText path content).run (handle denied) memory =
      match denied.guarded .writeText path (memory.write path.steps content) with
      | .ok written => ⟨.ok (), written, [.writeText path content]⟩
      | .error failure => ⟨.error failure, memory, []⟩ := by
  rw [Task.writeText, Program.run_request, handle, guarded_map]
  cases denied.guarded .writeText path (memory.write path.steps content) <;> rfl

theorem run_note (origin : Origin) (level : Level) (message : String) :
    (Task.note origin level message).run (handle denied) memory =
      ⟨.ok (), memory, [.note ⟨origin, level, message⟩]⟩ :=
  rfl

end Requests

end Memory

end PageLinker
