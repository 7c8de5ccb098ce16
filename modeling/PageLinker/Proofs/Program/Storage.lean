import PageLinker.Proofs.Program.Running

/-!
# Tasks over a storage

Wherever a build tree is kept, writing alone changes it, and no listing repeats a name.  So a task
that writes nothing can be taken for the answer that it gives, and what follows it runs as from the
same state.
-/

namespace PageLinker

theorem Workspace.Request.writes_cons {α State : Type} (request : Workspace.Request)
    (outcome : Outcome Workspace.Request State α) :
    (outcome.precededBy [request]).writes = request.written?.toList ++ outcome.writes := by
  cases written : request.written? <;> simp [Outcome.writes, Outcome.precededBy, written]

/-- Whatever the request writes, it writes at one of the places. -/
def Workspace.Request.WritesInto (places : Path → Prop) (request : Workspace.Request) : Prop :=
  ∀ write, request.written? = some write → places write.1

/-- The task writes nothing. -/
abbrev Task.IsSilent {α : Type} (task : Task α) : Prop :=
  task.Within fun request => request.written? = none

/-- The task writes at these places only. -/
abbrev Task.WritesInto {α : Type} (places : Path → Prop) (task : Task α) : Prop :=
  task.Within (·.WritesInto places)

theorem Task.IsSilent.writesInto {α : Type} {task : Task α} (silent : task.IsSilent)
    (places : Path → Prop) : task.WritesInto places := by
  refine silent.mono fun request unwritten write written => ?_
  cases unwritten.symm.trans written

theorem Task.readText_isSilent (path : Path) : (readText path).IsSilent :=
  .request rfl

theorem Task.writeText_writesInto {places : Path → Prop} {path : Path} (allowed : places path)
    (content : String) : (writeText path content).WritesInto places := by
  refine .request ?_
  rintro write ⟨⟩
  exact allowed

/-- What storages have in common: writing alone changes them, no listing repeats a name, and records
are always taken. -/
structure Handler.IsStorage {State : Type} (handle : Handler Workspace.Request State) :
    Prop where
  unchanged : ∀ {request : Workspace.Request} {state : State}
    {granted : Interface.Answer request × State},
    request.written? = none → handle request state = .ok granted → granted.2 = state
  names_nodup : ∀ {path : Path} {state left : State} {names : List String},
    handle (.listDir path) state = .ok (names, left) → names.Nodup
  noted : ∀ (record : Record) (state : State), handle (.note record) state = .ok ((), state)

namespace Task

variable {State α β : Type} {handle : Handler Workspace.Request State} {state : State}

/-- Each write of a sequence is one of its first part, or one of its second part after the first
has succeeded. -/
theorem mem_writes_bind {task : Task α} {next : α → Task β} {write : Path × String}
    (written : write ∈ ((task >>= next).run handle state).writes) :
    write ∈ (task.run handle state).writes ∨
      ∃ value, (task.run handle state).result = .ok value ∧
        write ∈ ((next value).run handle (task.run handle state).state).writes := by
  cases results : (task.run handle state).result with
  | error failure =>
      rw [Program.writes_bind_of_error results] at written
      exact .inl written
  | ok value =>
      rw [Program.run_bind_of_ok results, Outcome.precededBy_writes, List.mem_append] at written
      exact written.imp_right fun later => ⟨value, rfl, later⟩

namespace IsSilent

variable {task : Task α} (silent : task.IsSilent)
include silent

theorem writes_eq_nil (handle : Handler Workspace.Request State) (state : State) :
    (task.run handle state).writes = [] := by
  rw [Outcome.writes, List.filterMap_eq_nil_iff]
  exact silent.granted_allowed handle state

theorem mem_writes_bind {next : α → Task β} {write : Path × String}
    (written : write ∈ ((task >>= next).run handle state).writes) :
    ∃ value, (task.run handle state).result = .ok value ∧
      write ∈ ((next value).run handle (task.run handle state).state).writes := by
  rcases Task.mem_writes_bind written with nothing | later
  · rw [silent.writes_eq_nil] at nothing
    cases nothing
  · exact later

section Storage

variable (storage : handle.IsStorage)
include storage

theorem state_eq (state : State) : (task.run handle state).state = state :=
  Program.Within.state_eq silent storage.unchanged state

theorem run_bind_of_ok {value : α} (found : (task.run handle state).result = .ok value)
    (next : α → Task β) :
    (task >>= next).run handle state =
      ((next value).run handle state).precededBy (task.run handle state).granted := by
  rw [Program.run_bind_of_ok found, silent.state_eq storage]

theorem result_bind (next : α → Task β) (state : State) :
    ((task >>= next).run handle state).result =
      (task.run handle state).result >>= fun value => ((next value).run handle state).result := by
  cases results : (task.run handle state).result with
  | ok value =>
      rw [silent.run_bind_of_ok storage results, Outcome.precededBy_result, except_ok_bind]
  | error failure => rw [Program.result_bind_of_error results, except_error_bind]

end Storage

end IsSilent

end Task

end PageLinker
