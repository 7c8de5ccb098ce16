import PageLinker.Workspace

/-!
# Runs of composed programs

A run of two programs in sequence stops where the first one stops, or goes on with the second one
from the state that the first has left.  What a program may ask for is read off its text, and every
run keeps within it.
-/

namespace PageLinker

section Results

variable {ε α β : Type}

@[simp]
theorem except_ok_bind (found : α) (next : α → Except ε β) :
    (Except.ok found >>= next) = next found :=
  rfl

@[simp]
theorem except_error_bind (failure : ε) (next : α → Except ε β) :
    (Except.error failure >>= next) = .error failure :=
  rfl

theorem except_map_eq_ok {result : Except ε α} {change : α → β} {value : β} :
    result.map change = .ok value ↔ ∃ found, result = .ok found ∧ change found = value := by
  cases result <;> simp [Except.map]

theorem except_map_eq_error {result : Except ε α} {change : α → β} {failure : ε} :
    result.map change = .error failure ↔ result = .error failure := by
  cases result <;> simp [Except.map]

theorem except_bind_eq_ok {result : Except ε α} {next : α → Except ε β} {value : β} :
    (result >>= next) = .ok value ↔ ∃ found, result = .ok found ∧ next found = .ok value := by
  cases result <;> simp

theorem except_then_eq_ok {first : Except ε Unit} {result : Except ε α} {value : α} :
    (first >>= fun _ => result) = .ok value ↔ first = .ok () ∧ result = .ok value := by
  cases first <;> simp

theorem except_pair_eq_ok {result : Except ε α} {state left : β} {value : α} :
    result.map (·, state) = .ok (value, left) ↔ result = .ok value ∧ state = left := by
  cases result <;> simp [Except.map]

theorem except_forM_eq_ok {check : α → Except ε Unit} {items : List α} :
    forM items check = .ok () ↔ ∀ item ∈ items, check item = .ok () := by
  induction items with
  | nil => exact iff_of_true rfl (by simp)
  | cons item rest ih => rw [List.forM_cons, except_then_eq_ok, ih, List.forall_mem_cons]

/-- Checks that fail, one after the other, fail as the first item does that is not accepted. -/
theorem except_forM_eq_error {check : α → Except ε Unit} {items : List α} {failure : ε}
    (failed : forM items check = .error failure) :
    ∃ before item after, items = before ++ item :: after ∧
      (∀ earlier ∈ before, check earlier = .ok ()) ∧ check item = .error failure := by
  induction items with
  | nil => cases failed
  | cons item rest ih =>
      rw [List.forM_cons] at failed
      cases checked : check item with
      | error own =>
          rw [checked] at failed
          exact ⟨[], item, rest, rfl, by simp, checked.trans failed⟩
      | ok _ =>
          rw [checked] at failed
          obtain ⟨before, bad, after, rfl, accepted, refused⟩ := ih failed
          exact ⟨item :: before, bad, after, rfl, List.forall_mem_cons.mpr ⟨checked, accepted⟩,
            refused⟩

theorem Failure.about_eq_error {path : Path} {answer : Except Refusal α} {failure : Failure} :
    Failure.about path answer = .error failure ↔
      ∃ refusal, answer = .error refusal ∧ failure = .refused refusal path := by
  cases answer <;> simp [Failure.about, eq_comm]

theorem Failure.about_eq_ok {path : Path} {answer : Except Refusal α} {value : α} :
    Failure.about path answer = .ok value ↔ answer = .ok value := by
  cases answer <;> simp [Failure.about]

end Results

namespace Outcome

variable {Request State α β : Type}

/-- The outcome of a run that goes on after other requests were granted. -/
def precededBy (granted : List Request) (outcome : Outcome Request State α) :
    Outcome Request State α :=
  { outcome with granted := granted ++ outcome.granted }

/-- The outcome with another value in the place of its own. -/
def map (change : α → β) (outcome : Outcome Request State α) : Outcome Request State β :=
  ⟨outcome.result.map change, outcome.state, outcome.granted⟩

@[simp]
theorem precededBy_result (granted : List Request) (outcome : Outcome Request State α) :
    (outcome.precededBy granted).result = outcome.result :=
  rfl

@[simp]
theorem precededBy_state (granted : List Request) (outcome : Outcome Request State α) :
    (outcome.precededBy granted).state = outcome.state :=
  rfl

@[simp]
theorem map_result (change : α → β) (outcome : Outcome Request State α) :
    (outcome.map change).result = outcome.result.map change :=
  rfl

@[simp]
theorem map_state (change : α → β) (outcome : Outcome Request State α) :
    (outcome.map change).state = outcome.state :=
  rfl

@[simp]
theorem map_writes (change : α → β) (outcome : Outcome Workspace.Request State α) :
    (outcome.map change).writes = outcome.writes :=
  rfl

@[simp]
theorem writes_of_granted_nil (result : Except Failure α) (state : State) :
    (⟨result, state, []⟩ : Outcome Workspace.Request State α).writes = [] :=
  rfl

@[simp]
theorem precededBy_writes (first : Outcome Workspace.Request State α)
    (second : Outcome Workspace.Request State β) :
    (second.precededBy first.granted).writes = first.writes ++ second.writes := by
  simp [writes, precededBy]

end Outcome

namespace Program

variable {Request : Type} [Interface Request] {State α β : Type}

@[simp]
theorem run_done (handle : Handler Request State) (value : α) (state : State) :
    (Program.done value).run handle state = ⟨.ok value, state, []⟩ :=
  rfl

@[simp]
theorem run_fail (handle : Handler Request State) (failure : Failure) (state : State) :
    (Program.fail failure : Program Request α).run handle state = ⟨.error failure, state, []⟩ :=
  rfl

theorem run_ofExcept (handle : Handler Request State) (result : Except Failure α)
    (state : State) : (ofExcept result).run handle state = ⟨result, state, []⟩ := by
  cases result <;> rfl

@[simp]
theorem ofExcept_ok (value : α) :
    (ofExcept (.ok value) : Program Request α) = .done value :=
  rfl

@[simp]
theorem ofExcept_error (failure : Failure) :
    (ofExcept (.error failure) : Program Request α) = .fail failure :=
  rfl

section Sequences

variable {handle : Handler Request State} {program : Program Request α} {state : State}

theorem run_bind_of_ok {value : α} (succeeded : (program.run handle state).result = .ok value)
    (next : α → Program Request β) :
    (program >>= next).run handle state =
      ((next value).run handle (program.run handle state).state).precededBy
        (program.run handle state).granted := by
  rw [run_bind]
  generalize program.run handle state = outcome at succeeded
  obtain ⟨result, left, granted⟩ := outcome
  simp only at succeeded
  subst succeeded
  rfl

theorem run_bind_of_error {failure : Failure}
    (failed : (program.run handle state).result = .error failure)
    (next : α → Program Request β) :
    (program >>= next).run handle state =
      ⟨.error failure, (program.run handle state).state,
        (program.run handle state).granted⟩ := by
  rw [run_bind]
  generalize program.run handle state = outcome at failed
  obtain ⟨result, left, granted⟩ := outcome
  simp only at failed
  subst failed
  rfl

theorem result_bind_of_error {failure : Failure}
    (failed : (program.run handle state).result = .error failure)
    (next : α → Program Request β) :
    ((program >>= next).run handle state).result = .error failure := by
  rw [run_bind_of_error failed]

theorem state_bind_of_error {failure : Failure}
    (failed : (program.run handle state).result = .error failure)
    (next : α → Program Request β) :
    ((program >>= next).run handle state).state = (program.run handle state).state := by
  rw [run_bind_of_error failed]

theorem result_bind_eq_ok {next : α → Program Request β} {value : β} :
    ((program >>= next).run handle state).result = .ok value ↔
      ∃ first, (program.run handle state).result = .ok first ∧
        ((next first).run handle (program.run handle state).state).result = .ok value := by
  cases results : (program.run handle state).result with
  | ok first =>
      rw [run_bind_of_ok results, Outcome.precededBy_result]
      simp
  | error failure =>
      rw [result_bind_of_error results]
      simp

theorem run_bind_pure (change : α → β) :
    (program >>= fun value => pure (change value)).run handle state =
      (program.run handle state).map change := by
  rw [run_bind]
  obtain ⟨result, left, granted⟩ := program.run handle state
  cases result <;> simp [Outcome.map, Except.map]

end Sequences

theorem writes_bind_of_error {handle : Handler Workspace.Request State} {task : Task α}
    {state : State} {failure : Failure} (failed : (task.run handle state).result = .error failure)
    (next : α → Task β) :
    ((task >>= next).run handle state).writes = (task.run handle state).writes := by
  rw [run_bind_of_error failed]
  rfl

/-- Every request that the program may make is allowed. -/
def Within (allowed : Request → Prop) : Program Request α → Prop
  | .done _ | .fail _ => True
  | .ask request answered => allowed request ∧ ∀ answer, (answered answer).Within allowed

namespace Within

variable {allowed : Request → Prop}

theorem bind {program : Program Request α} {next : α → Program Request β}
    (first : program.Within allowed) (rest : ∀ value, (next value).Within allowed) :
    (program >>= next).Within allowed := by
  induction program with
  | done value => exact rest value
  | fail failure => trivial
  | ask request answered ih => exact ⟨first.1, fun answer => ih answer (first.2 answer)⟩

theorem mono {wider : Request → Prop} {program : Program Request α}
    (within : program.Within allowed) (implies : ∀ request, allowed request → wider request) :
    program.Within wider := by
  induction program with
  | done value => trivial
  | fail failure => trivial
  | ask request answered ih =>
      exact ⟨implies request within.1, fun answer => ih answer (within.2 answer)⟩

theorem request {wanted : Request} (may : allowed wanted) :
    (Program.request wanted).Within allowed :=
  ⟨may, fun _ => trivial⟩

theorem ofExcept (result : Except Failure α) :
    (Program.ofExcept result : Program Request α).Within allowed := by
  cases result <;> trivial

theorem granted_allowed {program : Program Request α} (within : program.Within allowed)
    (handle : Handler Request State) (state : State) :
    ∀ request ∈ (program.run handle state).granted, allowed request := by
  induction program generalizing state with
  | done value => simp
  | fail failure => simp
  | ask request answered ih =>
      rw [run]
      cases handle request state with
      | error failure => simp
      | ok granted =>
          intro other member
          rcases List.mem_cons.mp member with rfl | later
          · exact within.1
          · exact ih granted.1 (within.2 granted.1) granted.2 other later

/-- A program whose requests all keep the state keeps it. -/
theorem state_eq {program : Program Request α} (within : program.Within allowed)
    {handle : Handler Request State}
    (keeps : ∀ {request : Request} {state : State} {granted : Interface.Answer request × State},
      allowed request → handle request state = .ok granted → granted.2 = state) (state : State) :
    (program.run handle state).state = state := by
  induction program generalizing state with
  | done value => rfl
  | fail failure => rfl
  | ask request answered ih =>
      rw [run]
      cases handled : handle request state with
      | error failure => rfl
      | ok granted =>
          have later := ih granted.1 (within.2 granted.1) granted.2
          exact later.trans (keeps within.1 handled)

/-- Handlers that answer the allowed requests alike run the program alike. -/
theorem run_eq {program : Program Request α} (within : program.Within allowed)
    {first second : Handler Request State}
    (alike : ∀ request, allowed request → first request = second request) (state : State) :
    program.run first state = program.run second state := by
  induction program generalizing state with
  | done value => rfl
  | fail failure => rfl
  | ask request answered ih =>
      rw [run, run, alike request within.1]
      cases second request state with
      | error failure => rfl
      | ok granted => simp only [ih granted.1 (within.2 granted.1)]

end Within

section Recovery

variable {recover : Failure → Program Request α} {program : Program Request α}
  {handle : Handler Request State} {state : State}

theorem run_rescue_of_ok {value : α} (succeeded : (program.run handle state).result = .ok value) :
    (program.rescue recover).run handle state = program.run handle state := by
  induction program generalizing state with
  | done found => rfl
  | fail failure => cases succeeded
  | ask request answered ih =>
      rw [run] at succeeded
      rw [rescue, run, run]
      cases handled : handle request state with
      | error failure => rfl
      | ok granted =>
          rw [handled] at succeeded
          simp only [ih granted.1 succeeded]

/-- Where no refusal is one to recover from, a failed run goes on with the recovery from its
failure. -/
theorem run_rescue_of_error
    (refusals : ∀ (request : Request) (state : State) (failure : Failure),
      handle request state = .error failure → recover failure = .fail failure)
    {failure : Failure} (failed : (program.run handle state).result = .error failure) :
    (program.rescue recover).run handle state =
      ((recover failure).run handle (program.run handle state).state).precededBy
        (program.run handle state).granted := by
  induction program generalizing state with
  | done value => cases failed
  | fail own =>
      cases failed
      rfl
  | ask request answered ih =>
      rw [run] at failed
      rw [rescue, run, run]
      cases handled : handle request state with
      | error refusal =>
          rw [handled] at failed
          cases failed
          rw [refusals _ _ _ handled]
          rfl
      | ok granted =>
          rw [handled] at failed
          simp only [ih granted.1 failed]
          rfl

end Recovery

end Program

end PageLinker
