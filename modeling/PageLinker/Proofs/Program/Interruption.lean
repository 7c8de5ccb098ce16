import PageLinker.Proofs.Program.Running

/-!
# Interrupted runs

A run can be cut short at any of its requests.  The state that it then leaves is one that the
unhindered run passes, whatever cut it short, so it is enough to know what holds in all states
that an unhindered run passes.
-/

namespace PageLinker

namespace Handler

variable {Request State : Type} [Interface Request]

/-- The first handler grants nothing that the second one would not grant in the same way. -/
def Curbs (first second : Handler Request State) : Prop :=
  ∀ request state granted, first request state = .ok granted → second request state = .ok granted

/-- A handler that may behave differently at each request.  It counts the requests that it has
granted. -/
def inTurn (handles : Nat → Handler Request State) : Handler Request (Nat × State) :=
  fun request state =>
    (handles state.1 request state.2).map fun granted =>
      (granted.1, state.1 + 1, granted.2)

theorem inTurn_eq_ok {handles : Nat → Handler Request State} {request : Request}
    {state next : Nat × State} {answer : Interface.Answer request}
    (granted : inTurn handles request state = .ok (answer, next)) :
    handles state.1 request state.2 = .ok (answer, next.2) := by
  rw [inTurn] at granted
  cases handled : handles state.1 request state.2 with
  | error failure => simp [handled, Except.map] at granted
  | ok found =>
      simp only [handled, Except.map, Except.ok.injEq, Prod.mk.injEq] at granted
      obtain ⟨rfl, rfl⟩ := granted
      rfl

end Handler

namespace Program

variable {Request : Type} [Interface Request] {State α β : Type}

section Curbing

variable {strict loose : Handler Request State}

/-- A run under a stricter handler ends at a request that this one refuses, or goes the same way
under a looser one. -/
theorem refused_or_run_eq (curbs : strict.Curbs loose) (program : Program Request α)
    (state : State) :
    (∃ request reached failure, strict request reached = .error failure ∧
        (program.run strict state).result = .error failure) ∨
      program.run loose state = program.run strict state := by
  induction program generalizing state with
  | done value => exact .inr rfl
  | fail failure => exact .inr rfl
  | ask request answered ih =>
      rw [run, run]
      cases handled : strict request state with
      | error failure => exact .inl ⟨request, state, failure, handled, rfl⟩
      | ok granted =>
          rw [curbs _ _ _ handled]
          exact (ih granted.1 granted.2).imp_right fun same => by simp only [same]

/-- What succeeds under a stricter handler goes the same way under a looser one. -/
theorem run_of_curbs (curbs : strict.Curbs loose) {program : Program Request α} {state : State}
    {value : α} (succeeded : (program.run strict state).result = .ok value) :
    program.run loose state = program.run strict state := by
  rcases refused_or_run_eq curbs program state with ⟨_, _, _, -, failed⟩ | same
  · cases succeeded.symm.trans failed
  · exact same

end Curbing

/-- The states that a run passes, the first and the last one included. -/
def Passes (handle : Handler Request State) : Program Request α → State → State → Prop
  | .done _, state, reached => reached = state
  | .fail _, state, reached => reached = state
  | .ask request answered, state, reached =>
      reached = state ∨ ∃ granted, handle request state = .ok granted ∧
        (answered granted.1).Passes handle granted.2 reached

section Passing

variable {handle : Handler Request State} {program : Program Request α}

theorem passes_end (handle : Handler Request State) (program : Program Request α)
    (state : State) : program.Passes handle state (program.run handle state).state := by
  induction program generalizing state with
  | done value => rfl
  | fail failure => rfl
  | ask request answered ih =>
      rw [run]
      cases handled : handle request state with
      | error failure => exact .inl rfl
      | ok granted => exact .inr ⟨granted, handled, ih granted.1 granted.2⟩

/-- A sequence passes the states of its first part, then those of its second part. -/
theorem passes_bind {next : α → Program Request β} {state reached : State}
    (passes : (program >>= next).Passes handle state reached) :
    program.Passes handle state reached ∨
      ∃ value, (program.run handle state).result = .ok value ∧
        (next value).Passes handle (program.run handle state).state reached := by
  induction program generalizing state with
  | done value => exact .inr ⟨value, rfl, passes⟩
  | fail failure => exact .inl passes
  | ask request answered ih =>
      rcases passes with rfl | ⟨granted, handled, later⟩
      · exact .inl (.inl rfl)
      · rw [run, handled]
        rcases ih granted.1 later with early | late
        · exact .inl (.inr ⟨granted, handled, early⟩)
        · exact .inr late

theorem passes_of_bind_pure {change : α → β} {state reached : State}
    (passes : (program >>= fun value => pure (change value)).Passes handle state reached) :
    program.Passes handle state reached := by
  rcases passes_bind passes with early | ⟨value, -, late⟩
  · exact early
  · obtain rfl : reached = (program.run handle state).state := late
    exact passes_end handle program state

/-- What every allowed request keeps, holds in every state that is passed. -/
theorem Within.keeps {allowed : Request → Prop}
    (within : program.Within allowed) (invariant : State → Prop)
    (kept : ∀ request state granted, allowed request → invariant state →
      handle request state = .ok granted → invariant granted.2)
    {state reached : State} (holds : invariant state)
    (passes : program.Passes handle state reached) : invariant reached := by
  induction program generalizing state with
  | done value => exact passes ▸ holds
  | fail failure => exact passes ▸ holds
  | ask request answered ih =>
      rcases passes with rfl | ⟨granted, handled, later⟩
      · exact holds
      · exact ih granted.1 (within.2 granted.1)
          (kept request state granted within.1 holds handled) later

/-- However requests are refused in the course of a run, it leaves a state that the unhindered run
passes. -/
theorem passes_interrupted {handles : Nat → Handler Request State}
    (curb : ∀ turn, (handles turn).Curbs handle) (turn : Nat) (state : State) :
    program.Passes handle state
      (program.run (Handler.inTurn handles) (turn, state)).state.2 := by
  induction program generalizing turn state with
  | done value => rfl
  | fail failure => rfl
  | ask request answered ih =>
      rw [run]
      cases handled : Handler.inTurn handles request (turn, state) with
      | error failure => exact .inl rfl
      | ok granted =>
          have unhindered := curb turn _ _ _ (Handler.inTurn_eq_ok handled)
          exact .inr ⟨_, unhindered, ih granted.1 granted.2.1 granted.2.2⟩

end Passing

end Program

end PageLinker
