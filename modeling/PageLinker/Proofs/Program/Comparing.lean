import PageLinker.Proofs.Program.Running

/-!
# Two runs of one program

A program is run from two states that differ in what should make no difference to it.  Both runs
come to the same and are seen to do the same when this holds of every part of the program.  Requests
that are not seen may differ between the two runs; they change nothing.
-/

namespace PageLinker

/-- How two runs are compared: which requests are seen, and which states the runs may be in side by
side. -/
structure Comparison (Request : Type) [Interface Request] (State : Type) where
  handle : Handler Request State
  seen : Request → Bool
  related : State → State → Prop
  unseen_keeps : ∀ {request : Request} {state : State}
    {granted : Interface.Answer request × State},
    seen request = false → handle request state = .ok granted → granted.2 = state

namespace Comparison

variable {Request : Type} [Interface Request] {State α β : Type}

/-- The second run comes to the same as the first and is seen to do the same.  A value that they
come to is as promised. -/
structure Agree (comparison : Comparison Request State) (promised : α → Prop)
    (first second : Outcome Request State α) : Prop where
  result : second.result = first.result
  seen : second.granted.filter comparison.seen = first.granted.filter comparison.seen
  related : comparison.related first.state second.state
  kept : ∀ value, first.result = .ok value → promised value

/-- Runs of the program side by side agree. -/
def Alike (comparison : Comparison Request State) (program : Program Request α)
    (promised : α → Prop) : Prop :=
  ∀ first second, comparison.related first second →
    comparison.Agree promised (program.run comparison.handle first)
      (program.run comparison.handle second)

namespace Alike

variable {comparison : Comparison Request State} {promised : α → Prop} {expected : β → Prop}
  {program : Program Request α}

theorem done {value : α} (holds : promised value) : comparison.Alike (.done value) promised := by
  intro first second related
  refine ⟨rfl, rfl, related, ?_⟩
  rintro _ ⟨⟩
  exact holds

theorem fail (failure : Failure) : comparison.Alike (.fail failure) promised := by
  intro first second related
  refine ⟨rfl, rfl, related, ?_⟩
  rintro _ ⟨⟩

theorem ofExcept (result : Except Failure α) :
    comparison.Alike (.ofExcept result) fun _ => True := by
  cases result with
  | ok value => exact done trivial
  | error failure => exact fail failure

theorem bind {next : α → Program Request β} (begins : comparison.Alike program promised)
    (rest : ∀ value, promised value → comparison.Alike (next value) expected) :
    comparison.Alike (program >>= next) expected := by
  intro first second related
  have agree := begins first second related
  cases found : (program.run comparison.handle first).result with
  | error failure =>
      rw [Program.run_bind_of_error found, Program.run_bind_of_error (agree.result.trans found)]
      refine ⟨rfl, agree.seen, agree.related, ?_⟩
      rintro _ ⟨⟩
  | ok value =>
      have later := rest value (agree.kept value found) _ _ agree.related
      rw [Program.run_bind_of_ok found, Program.run_bind_of_ok (agree.result.trans found)]
      refine ⟨later.result, ?_, later.related, later.kept⟩
      simp only [Outcome.precededBy, List.filter_append, agree.seen, later.seen]

/-- A request is refused in both runs for the same reason, or granted in both with the same
answer. -/
theorem request {wanted : Request} {promised : Interface.Answer wanted → Prop}
    (answered : ∀ first second, comparison.related first second →
      (∃ failure, comparison.handle wanted first = .error failure ∧
        comparison.handle wanted second = .error failure) ∨
      ∃ answer left other, comparison.handle wanted first = .ok (answer, left) ∧
        comparison.handle wanted second = .ok (answer, other) ∧ comparison.related left other ∧
        promised answer) :
    comparison.Alike (.request wanted) promised := by
  intro first second related
  rw [Program.run_request, Program.run_request]
  rcases answered first second related with
    ⟨failure, refused, alsoRefused⟩ | ⟨answer, left, other, granted, alsoGranted, stays, holds⟩
  · rw [refused, alsoRefused]
    refine ⟨rfl, rfl, related, ?_⟩
    rintro _ ⟨⟩
  · rw [granted, alsoGranted]
    refine ⟨rfl, rfl, stays, ?_⟩
    rintro _ ⟨⟩
    exact holds

/-- Of a program that does nothing that is seen, only the results are compared. -/
theorem of_unseen (unseen : program.Within fun request => comparison.seen request = false)
    (told : ∀ first second, comparison.related first second →
      (program.run comparison.handle second).result =
          (program.run comparison.handle first).result ∧
        ∀ value, (program.run comparison.handle first).result = .ok value → promised value) :
    comparison.Alike program promised := by
  intro first second related
  obtain ⟨result, kept⟩ := told first second related
  have nothing (state : State) :
      (program.run comparison.handle state).granted.filter comparison.seen = [] := by
    rw [List.filter_eq_nil_iff]
    intro request granted
    simp [unseen.granted_allowed comparison.handle state request granted]
  refine ⟨result, by rw [nothing, nothing], ?_, kept⟩
  rw [unseen.state_eq comparison.unseen_keeps, unseen.state_eq comparison.unseen_keeps]
  exact related

/-- Where no refusal is one to recover from, recovering is compared failure by failure. -/
theorem rescue {recover : Failure → Program Request α}
    (refusals : ∀ (request : Request) (state : State) (failure : Failure),
      comparison.handle request state = .error failure → recover failure = .fail failure)
    (alike : comparison.Alike program promised)
    (recovers : ∀ failure, comparison.Alike (recover failure) promised) :
    comparison.Alike (program.rescue recover) promised := by
  intro first second related
  have agree := alike first second related
  cases found : (program.run comparison.handle first).result with
  | ok value =>
      rw [Program.run_rescue_of_ok found, Program.run_rescue_of_ok (agree.result.trans found)]
      exact agree
  | error failure =>
      have later := recovers failure _ _ agree.related
      rw [Program.run_rescue_of_error refusals found,
        Program.run_rescue_of_error refusals (agree.result.trans found)]
      refine ⟨later.result, ?_, later.related, later.kept⟩
      simp only [Outcome.precededBy, List.filter_append, agree.seen, later.seen]

end Alike

end Comparison

end PageLinker
