import PageLinker.Proofs.Program.Interruption

/-!
# Resumed runs

A program resumes from a state when a second run, started from any state that its run passes, ends
like that run.  A sequence of programs resumes when each part does and the later part keeps what
the earlier part has settled: run once more, the earlier part finds nothing left to do.
-/

namespace PageLinker

/-- Both runs failed with the same failure, or both succeeded with values that are alike. -/
inductive ResultsAgree {α : Type} (alike : α → α → Prop) :
    Except Failure α → Except Failure α → Prop where
  | ok {value other : α} : alike value other → ResultsAgree alike (.ok value) (.ok other)
  | error (failure : Failure) : ResultsAgree alike (.error failure) (.error failure)

/-- The runs left the same state, and their results agree. -/
structure Outcome.Agrees {Request State α : Type} (alike : α → α → Prop)
    (first second : Outcome Request State α) : Prop where
  state : first.state = second.state
  result : ResultsAgree alike first.result second.result

section Agreement

variable {Request State α : Type} {alike : α → α → Prop}

theorem ResultsAgree.refl (reflexive : ∀ value, alike value value) (result : Except Failure α) :
    ResultsAgree alike result result := by
  cases result with
  | ok value => exact .ok (reflexive value)
  | error failure => exact .error failure

theorem ResultsAgree.trans
    (transitive : ∀ value other last, alike value other → alike other last → alike value last)
    {first second third : Except Failure α} (agree : ResultsAgree alike first second)
    (later : ResultsAgree alike second third) : ResultsAgree alike first third := by
  cases agree with
  | ok likeOther =>
      cases later with
      | ok likeLast => exact .ok (transitive _ _ _ likeOther likeLast)
  | error failure => exact later

theorem ResultsAgree.ok_of_ok {first second : Except Failure α}
    (agree : ResultsAgree alike first second) {value : α} (succeeded : first = .ok value) :
    ∃ other, second = .ok other ∧ alike value other := by
  cases agree with
  | ok likeOther =>
      cases succeeded
      exact ⟨_, rfl, likeOther⟩
  | error failure => cases succeeded

theorem Outcome.Agrees.refl (reflexive : ∀ value, alike value value)
    (outcome : Outcome Request State α) : outcome.Agrees alike outcome :=
  ⟨rfl, .refl reflexive _⟩

theorem Outcome.Agrees.trans
    (transitive : ∀ value other last, alike value other → alike other last → alike value last)
    {first second third : Outcome Request State α} (agrees : first.Agrees alike second)
    (later : second.Agrees alike third) : first.Agrees alike third :=
  ⟨agrees.state.trans later.state, agrees.result.trans transitive later.result⟩

end Agreement

namespace Program

variable {Request : Type} [Interface Request] {State α β : Type} {handle : Handler Request State}
variable {alike : α → α → Prop} {alikeAfter : β → β → Prop}
variable {program : Program Request α} {next : α → Program Request β} {state : State}

/-- A run from any state that the run from `state` passes ends like that run. -/
def ResumesFrom (handle : Handler Request State) (alike : α → α → Prop)
    (program : Program Request α) (state : State) : Prop :=
  ∀ reached, program.Passes handle state reached →
    (program.run handle state).Agrees alike (program.run handle reached)

/-- The program finds nothing left to do, and its value is like the given one. -/
def SettledAt (handle : Handler Request State) (alike : α → α → Prop)
    (program : Program Request α) (value : α) (state : State) : Prop :=
  ∃ other, (program.run handle state).result = .ok other ∧
    (program.run handle state).state = state ∧ alike value other

theorem ResumesFrom.of_still (reflexive : ∀ value, alike value value)
    (still : ∀ reached, program.Passes handle state reached → reached = state) :
    program.ResumesFrom handle alike state := by
  intro reached passes
  rw [still reached passes]
  exact .refl reflexive _

/-- Run again from where it ended, a program that resumes has nothing left to do. -/
theorem ResumesFrom.settledAt_end (resumes : program.ResumesFrom handle alike state) {value : α}
    (succeeded : (program.run handle state).result = .ok value) :
    program.SettledAt handle alike value (program.run handle state).state := by
  have again := resumes _ (passes_end handle program state)
  obtain ⟨other, found, like⟩ := again.result.ok_of_ok succeeded
  exact ⟨other, found, again.state.symm, like⟩

/-- Agreeing first parts make agreeing sequences, if alike values are gone on with alike. -/
theorem agrees_bind {reached : State} {otherProgram : Program Request α}
    {otherNext : α → Program Request β}
    (agrees : (program.run handle state).Agrees alike (otherProgram.run handle reached))
    (respected : ∀ value other left, alike value other →
      ((next value).run handle left).Agrees alikeAfter ((otherNext other).run handle left)) :
    ((program >>= next).run handle state).Agrees alikeAfter
      ((otherProgram >>= otherNext).run handle reached) := by
  cases results : (program.run handle state).result with
  | ok value =>
      obtain ⟨other, found, like⟩ := agrees.result.ok_of_ok results
      rw [run_bind_of_ok results, run_bind_of_ok found, agrees.state]
      have rest := respected value other (otherProgram.run handle reached).state like
      exact ⟨rest.state, rest.result⟩
  | error failure =>
      have failed := agrees.result
      rw [results] at failed
      have found : (otherProgram.run handle reached).result = .error failure := by
        generalize (otherProgram.run handle reached).result = result at failed
        cases failed
        rfl
      rw [run_bind_of_error results, run_bind_of_error found]
      exact ⟨agrees.state, .error failure⟩

theorem agrees_bind_self {otherNext : α → Program Request β}
    (respected : ∀ value left,
      ((next value).run handle left).Agrees alikeAfter ((otherNext value).run handle left)) :
    ((program >>= next).run handle state).Agrees alikeAfter
      ((program >>= otherNext).run handle state) := by
  have same : (program.run handle state).Agrees Eq (program.run handle state) :=
    .refl (fun _ => rfl) _
  refine agrees_bind same ?_
  rintro value _ left rfl
  exact respected value left

/-- A sequence resumes when its parts do, and what its second part passes leaves its first part
settled. -/
theorem ResumesFrom.bind
    (transitive : ∀ value other last,
      alikeAfter value other → alikeAfter other last → alikeAfter value last)
    (first : program.ResumesFrom handle alike state)
    (respected : ∀ value other left, alike value other →
      ((next value).run handle left).Agrees alikeAfter ((next other).run handle left))
    (settled : ∀ value reached, (program.run handle state).result = .ok value →
      (next value).Passes handle (program.run handle state).state reached →
        program.SettledAt handle alike value reached)
    (rest : ∀ value, (program.run handle state).result = .ok value →
      (next value).ResumesFrom handle alikeAfter (program.run handle state).state) :
    (program >>= next).ResumesFrom handle alikeAfter state := by
  intro reached passes
  -- A state of the first part is left to that part; a later one finds it settled.
  rcases passes_bind passes with early | ⟨value, succeeded, late⟩
  · exact agrees_bind (first reached early) respected
  · obtain ⟨other, found, unchanged, like⟩ := settled value reached succeeded late
    have resumed := rest value succeeded reached late
    have continued := resumed.trans transitive (respected value other reached like)
    rw [run_bind_of_ok succeeded, run_bind_of_ok found, unchanged]
    exact ⟨continued.state, continued.result⟩

theorem ResumesFrom.bind_eq
    (transitive : ∀ value other last,
      alikeAfter value other → alikeAfter other last → alikeAfter value last)
    (reflexive : ∀ value, alikeAfter value value)
    (first : program.ResumesFrom handle Eq state)
    (settled : ∀ value reached, (program.run handle state).result = .ok value →
      (next value).Passes handle (program.run handle state).state reached →
        program.SettledAt handle Eq value reached)
    (rest : ∀ value, (program.run handle state).result = .ok value →
      (next value).ResumesFrom handle alikeAfter (program.run handle state).state) :
    (program >>= next).ResumesFrom handle alikeAfter state := by
  refine ResumesFrom.bind transitive first ?_ settled rest
  rintro value _ left rfl
  exact .refl reflexive _

theorem ResumesFrom.map {change : α → β}
    (transitive : ∀ value other last,
      alikeAfter value other → alikeAfter other last → alikeAfter value last)
    (reflexive : ∀ value, alikeAfter value value)
    (resumes : program.ResumesFrom handle alike state)
    (respected : ∀ value other, alike value other → alikeAfter (change value) (change other)) :
    (program >>= fun value => pure (change value)).ResumesFrom handle alikeAfter state := by
  refine ResumesFrom.bind transitive resumes
    (fun value other left like => ⟨rfl, .ok (respected value other like)⟩) ?_ ?_
  · intro value reached succeeded passes
    obtain rfl : reached = (program.run handle state).state := passes
    exact resumes.settledAt_end succeeded
  · exact fun value _ => .of_still reflexive fun reached passes => passes

end Program

end PageLinker
