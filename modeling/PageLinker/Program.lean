import PageLinker.Failure

/-!
# Programs that ask for what they need

A program is a tree of requests.  It is done, has failed, or asks for something and goes on with
the answer.  A handler grants requests or refuses them; a refused request stops the program, and
what was granted before stays done.  So one program serves every storage, and what it did can be
read off the requests that were granted to it.
-/

namespace PageLinker

/-- A kind of requests, with the answers that each request has. -/
class Interface (Request : Type) where
  Answer : Request → Type

/-- A computation that asks for what it needs. -/
inductive Program (Request : Type) [Interface Request] (α : Type) : Type where
  | done (value : α)
  | fail (failure : Failure)
  | ask (request : Request) (next : Interface.Answer request → Program Request α)

/-- A way to grant requests over a state.  A refused request leaves the state as it was. -/
abbrev Handler (Request : Type) [Interface Request] (State : Type) : Type :=
  (request : Request) → State → Except Failure (Interface.Answer request × State)

/-- What a run of a program came to: its result, the state it left, and the granted requests. -/
structure Outcome (Request State α : Type) where
  result : Except Failure α
  state : State
  granted : List Request

namespace Program

variable {Request Wider : Type} [Interface Request] [Interface Wider] {State α β : Type}

/-- Go on with the value of a program. -/
def andThen : Program Request α → (α → Program Request β) → Program Request β
  | .done value, next => next value
  | .fail failure, _ => .fail failure
  | .ask request answered, next => .ask request fun answer => (answered answer).andThen next

instance : Monad (Program Request) where
  pure := .done
  bind := andThen

@[simp]
theorem pure_eq (value : α) : (pure value : Program Request α) = .done value :=
  rfl

@[simp]
theorem done_bind (value : α) (next : α → Program Request β) :
    (Program.done value >>= next) = next value :=
  rfl

@[simp]
theorem fail_bind (failure : Failure) (next : α → Program Request β) :
    (Program.fail failure >>= next) = .fail failure :=
  rfl

@[simp]
theorem ask_bind (request : Request) (answered : Interface.Answer request → Program Request α)
    (next : α → Program Request β) :
    (Program.ask request answered >>= next) = .ask request fun answer => answered answer >>= next :=
  rfl

theorem bind_done (program : Program Request α) : (program >>= Program.done) = program := by
  induction program with
  | done value => rfl
  | fail failure => rfl
  | ask request answered ih =>
      rw [ask_bind]
      exact congrArg _ (funext ih)

theorem andThen_assoc {γ : Type} (program : Program Request α) (first : α → Program Request β)
    (second : β → Program Request γ) :
    (program >>= first >>= second) = program >>= fun value => first value >>= second := by
  induction program with
  | done value => rfl
  | fail failure => rfl
  | ask request answered ih =>
      simp only [ask_bind]
      exact congrArg _ (funext ih)

instance : LawfulMonad (Program Request) :=
  LawfulMonad.mk' (Program Request) bind_done (fun _ _ => rfl) andThen_assoc

/-- Ask and return the answer. -/
def request (wanted : Request) : Program Request (Interface.Answer wanted) :=
  .ask wanted .done

/-- The value of a computation that needs nothing, or its failure. -/
def ofExcept : Except Failure α → Program Request α
  | .ok value => .done value
  | .error failure => .fail failure

/-- Replace the failures that the program itself declares.  A refused request is not one. -/
def rescue (recover : Failure → Program Request α) : Program Request α → Program Request α
  | .done value => .done value
  | .fail failure => recover failure
  | .ask request answered => .ask request fun answer => (answered answer).rescue recover

/-- The same program with its requests among those of a wider kind. -/
def lift (widen : Request → Wider)
    (narrow : (request : Request) → Interface.Answer (widen request) → Interface.Answer request) :
    Program Request α → Program Wider α
  | .done value => .done value
  | .fail failure => .fail failure
  | .ask request answered =>
      .ask (widen request) fun answer => (answered (narrow request answer)).lift widen narrow

/-- Run a program over a state. -/
def run (handle : Handler Request State) : Program Request α → State → Outcome Request State α
  | .done value, state => ⟨.ok value, state, []⟩
  | .fail failure, state => ⟨.error failure, state, []⟩
  | .ask request answered, state =>
      match handle request state with
      | .error failure => ⟨.error failure, state, []⟩
      | .ok (answer, nextState) =>
          let rest := (answered answer).run handle nextState
          { rest with granted := request :: rest.granted }

/-- A run of a single request hands on what the handler says. -/
theorem run_request (handle : Handler Request State) (wanted : Request) (state : State) :
    (request wanted).run handle state =
      match handle wanted state with
      | .error failure => ⟨.error failure, state, []⟩
      | .ok (answer, nextState) => ⟨.ok answer, nextState, [wanted]⟩ := by
  rw [request, run]
  cases handle wanted state <;> rfl

/-- A run of two programs in sequence is a run of the first, then one of the second. -/
theorem run_bind (handle : Handler Request State) (program : Program Request α)
    (next : α → Program Request β) (state : State) :
    (program >>= next).run handle state =
      match program.run handle state with
      | ⟨.error failure, left, granted⟩ => ⟨.error failure, left, granted⟩
      | ⟨.ok value, left, granted⟩ =>
          let rest := (next value).run handle left
          { rest with granted := granted ++ rest.granted } := by
  induction program generalizing state with
  | done value => rfl
  | fail failure => rfl
  | ask request answered ih =>
      simp only [ask_bind, run]
      cases handle request state with
      | error failure => rfl
      | ok granted =>
          simp only [ih]
          cases run handle (answered granted.1) granted.2 with
          | mk result left granted => cases result <;> simp

end Program

end PageLinker
