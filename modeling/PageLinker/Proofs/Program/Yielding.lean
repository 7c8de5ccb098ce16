import PageLinker.Proofs.Program.Storage

/-!
# Programs that succeed

A program that succeeds leads from one state to another and yields a value.  A sequence succeeds
when its parts do, one after the other, so what a program can yield is told part by part.
-/

namespace PageLinker

namespace Program

variable {Request : Type} [Interface Request] {State α β : Type}

/-- The program succeeds with this value and leads from the first state to the second. -/
def Yields (handle : Handler Request State) (program : Program Request α) (state : State)
    (value : α) (left : State) : Prop :=
  (program.run handle state).result = .ok value ∧ (program.run handle state).state = left

variable {handle : Handler Request State} {program : Program Request α} {state left : State}

theorem yields_of_result {value : α} (succeeded : (program.run handle state).result = .ok value) :
    program.Yields handle state value (program.run handle state).state :=
  ⟨succeeded, rfl⟩

/-- A program yields one value at most, and leads to one state. -/
theorem Yields.unique {value other : α} {reached : State}
    (yields : program.Yields handle state value left)
    (also : program.Yields handle state other reached) : value = other ∧ left = reached :=
  ⟨Except.ok.inj (yields.1.symm.trans also.1), yields.2.symm.trans also.2⟩

@[simp]
theorem yields_done {found value : α} :
    (Program.done found).Yields handle state value left ↔ found = value ∧ state = left := by
  simp [Yields]

@[simp]
theorem yields_ofExcept {result : Except Failure α} {value : α} :
    (ofExcept result).Yields handle state value left ↔ result = .ok value ∧ state = left := by
  simp [Yields, run_ofExcept]

theorem yields_request {wanted : Request} {answer : Interface.Answer wanted} :
    (request wanted).Yields handle state answer left ↔
      handle wanted state = .ok (answer, left) := by
  rw [Yields, run_request]
  cases handle wanted state with
  | error failure => simp
  | ok granted =>
      obtain ⟨given, next⟩ := granted
      simp

/-- A sequence yields what its second part does, from the state that its first part leads to. -/
theorem yields_bind {next : α → Program Request β} {value : β} :
    (program >>= next).Yields handle state value left ↔
      ∃ first between, program.Yields handle state first between ∧
        (next first).Yields handle between value left := by
  simp only [Yields]
  cases results : (program.run handle state).result with
  | error failure => simp [result_bind_of_error results]
  | ok found =>
      rw [run_bind_of_ok results]
      constructor
      · intro yielded
        exact ⟨found, _, ⟨rfl, rfl⟩, yielded⟩
      · rintro ⟨first, between, ⟨same, rfl⟩, later⟩
        cases same
        exact later

theorem yields_bind_pure {change : α → β} {value : β} :
    (program >>= fun found => pure (change found)).Yields handle state value left ↔
      ∃ found, program.Yields handle state found left ∧ change found = value := by
  simp only [yields_bind, pure_eq, yields_done]
  constructor
  · rintro ⟨found, _, first, rfl, rfl⟩
    exact ⟨found, first, rfl⟩
  · rintro ⟨found, first, rfl⟩
    exact ⟨found, left, first, rfl, rfl⟩

end Program

namespace Task

variable {State α : Type} {handle : Handler Workspace.Request State} {task : Task α}
  {state left : State}

theorem readText_yields_iff {path : Path} {text : String} :
    (readText path).Yields handle state text left ↔
      handle (.readText path) state = .ok (text, left) :=
  Program.yields_request

theorem writeText_yields_iff {path : Path} {content : String} {answer : Unit} :
    (writeText path content).Yields handle state answer left ↔
      handle (.writeText path content) state = .ok (answer, left) :=
  Program.yields_request

theorem note_yields_iff (storage : handle.IsStorage) {origin : Origin} {level : Level}
    {message : String} {answer : Unit} :
    (note origin level message).Yields handle state answer left ↔ state = left := by
  rw [note, Program.yields_request, storage.noted]
  simp

theorem IsSilent.yields_iff (silent : task.IsSilent) (storage : handle.IsStorage) {value : α} :
    task.Yields handle state value left ↔
      (task.run handle state).result = .ok value ∧ state = left := by
  rw [Program.Yields, silent.state_eq storage]

end Task

end PageLinker
