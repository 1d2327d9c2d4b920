import TrackedMemory.Event
import TrackedMemory.Backend.Request

/-!
# Outcomes of an action

An action may log, call a backend, change a state and break off. Breaking off keeps what was changed
and logged before, so an `Outcome` holds the state and the trace beside the result. `Act` is the
monad of such actions.
-/

namespace TrackedMemory

inductive Fault where
  /-- A contract does not hold. -/
  | violated (violation : Violation)
  | overflow
  /-- A backend or a client breaks off on its own account. -/
  | raised (reason : String)
  /-- A turn is awaited that nobody can pass on. -/
  | stalled
  deriving DecidableEq

def Fault.text (write : AddressText) : Fault → String
  | .violated violation => violation.text write
  | .overflow => "attempt to add with overflow"
  | .raised reason => reason
  | .stalled => "turn awaited forever"

/-- Effect that an action leaves in its trace. -/
inductive Deed where
  | logged (event : Event)
  /-- A backend call and its answer; the value is the block that was handed out, if any. -/
  | called (request : Request) (reply : Reply (Option Ptr))
  deriving DecidableEq

/-- Effects in the order in which they happened. -/
abbrev Trace := List Deed

def Trace.events (trace : Trace) : List Event :=
  trace.filterMap fun
    | .logged event => some event
    | .called .. => none

def Trace.requests (trace : Trace) : List Request :=
  trace.filterMap fun
    | .logged _ => none
    | .called request _ => some request

/-- What an action comes to. -/
@[ext] structure Outcome (σ α : Type) where
  result : Except Fault α
  state : σ
  trace : Trace

def Act (σ α : Type) : Type :=
  σ → Outcome σ α

namespace Act

variable {σ τ α γ : Type}

instance : Monad (Act σ) where
  pure value := fun state => ⟨.ok value, state, []⟩
  bind act next := fun state =>
    let first := act state
    match first.result with
    | .error fault => ⟨.error fault, first.state, first.trace⟩
    | .ok value =>
        let second := next value first.state
        ⟨second.result, second.state, first.trace ++ second.trace⟩

def read : Act σ σ :=
  fun state => ⟨.ok state, state, []⟩

def update (change : σ → σ) : Act σ Unit :=
  fun state => ⟨.ok (), change state, []⟩

def log (event : Event) : Act σ Unit :=
  fun state => ⟨.ok (), state, [.logged event]⟩

/-- Records a backend call and its answer. -/
def call (request : Request) (reply : Reply (Option Ptr)) : Act σ Unit :=
  fun state => ⟨.ok (), state, [.called request reply]⟩

def fail (fault : Fault) : Act σ α :=
  fun state => ⟨.error fault, state, []⟩

/-- Runs an action, and then changes the state even if the action breaks off. -/
def after (act : Act σ α) (change : σ → σ) : Act σ α := fun state =>
  let first := act state
  { first with state := change first.state }

/-- Runs an action, and turns a break-off into a value. -/
def attempt (act : Act σ α) : Act σ (Except Fault α) := fun state =>
  let first := act state
  ⟨.ok first.result, first.state, first.trace⟩

def within (part : τ → σ) (put : σ → τ → τ) (act : Act σ α) : Act τ α := fun whole =>
  let first := act (part whole)
  ⟨first.result, put first.state whole, first.trace⟩

@[simp] theorem pure_apply (value : α) (state : σ) :
    (pure value : Act σ α) state = ⟨.ok value, state, []⟩ := rfl

/-- An action goes on with the value, the state and behind the trace of the one before it. -/
theorem bind_apply_ok {act : Act σ α} {next : α → Act σ γ} {state : σ} {value : α}
    (done : (act state).result = .ok value) :
    (act >>= next) state =
      ⟨(next value (act state).state).result, (next value (act state).state).state,
        (act state).trace ++ (next value (act state).state).trace⟩ := by
  simp only [bind, done]

/-- Nothing comes after an action that breaks off. -/
theorem bind_apply_error {act : Act σ α} {next : α → Act σ γ} {state : σ} {fault : Fault}
    (broken : (act state).result = .error fault) :
    (act >>= next) state = ⟨.error fault, (act state).state, (act state).trace⟩ := by
  simp only [bind, broken]

private theorem bind_pure (act : Act σ α) : act >>= pure = act := by
  funext state
  cases result : (act state).result with
  | error fault => exact (bind_apply_error result).trans (Outcome.ext result.symm rfl rfl)
  | ok value =>
    exact (bind_apply_ok result).trans (Outcome.ext result.symm rfl (List.append_nil _))

instance : LawfulMonad (Act σ) :=
  LawfulMonad.mk' _ bind_pure (fun _ _ => rfl) fun act next last => by
    funext state
    cases result : (act state).result with
    | error fault => simp only [bind, result]
    | ok value =>
      cases second : (next value (act state).state).result with
      | error fault => simp only [bind, result, second]
      | ok value' => simp only [bind, result, second, List.append_assoc]

end Act

end TrackedMemory
