import TrackedMemory.Registry.Guarded

/-!
# Running an action

What an action does after one of the primitive actions. With these equations an action is run step
by step on a state, and no proof opens the monad. A contract that holds is no step at all.
-/

namespace TrackedMemory

namespace Act

variable {σ τ α γ : Type}

@[simp] theorem read_bind_apply (next : σ → Act σ γ) (state : σ) :
    ((Act.read : Act σ σ) >>= next) state = next state state := rfl

@[simp] theorem update_bind_apply (change : σ → σ) (next : Unit → Act σ γ) (state : σ) :
    (Act.update change >>= next) state = next () (change state) := rfl

@[simp] theorem update_apply (change : σ → σ) (state : σ) :
    Act.update change state = ⟨.ok (), change state, []⟩ := rfl

@[simp] theorem log_bind_apply (event : Event) (next : Unit → Act σ γ) (state : σ) :
    (Act.log event >>= next) state =
      ⟨(next () state).result, (next () state).state, .logged event :: (next () state).trace⟩ :=
  rfl

@[simp] theorem log_apply (event : Event) (state : σ) :
    Act.log event state = ⟨.ok (), state, [.logged event]⟩ := rfl

@[simp] theorem call_bind_apply (request : Request) (reply : Reply (Option Ptr))
    (next : Unit → Act σ γ) (state : σ) :
    (Act.call request reply >>= next) state =
      ⟨(next () state).result, (next () state).state,
        .called request reply :: (next () state).trace⟩ :=
  rfl

@[simp] theorem fail_apply (fault : Fault) (state : σ) :
    (Act.fail fault : Act σ α) state = ⟨.error fault, state, []⟩ := rfl

@[simp] theorem fail_bind_apply (fault : Fault) (next : α → Act σ γ) (state : σ) :
    ((Act.fail fault : Act σ α) >>= next) state = ⟨.error fault, state, []⟩ := rfl

@[simp] theorem attempt_bind_apply (act : Act σ α) (next : Except Fault α → Act σ γ)
    (state : σ) :
    (act.attempt >>= next) state =
      ⟨(next (act state).result (act state).state).result,
        (next (act state).result (act state).state).state,
        (act state).trace ++ (next (act state).result (act state).state).trace⟩ :=
  rfl

@[simp] theorem within_apply (part : τ → σ) (put : σ → τ → τ) (act : Act σ α) (whole : τ) :
    act.within part put whole =
      ⟨(act (part whole)).result, put (act (part whole)).state whole,
        (act (part whole)).trace⟩ :=
  rfl

theorem discard_apply (act : Act σ α) (state : σ) :
    (act >>= fun _ => (pure () : Act σ Unit)) state =
      ⟨(act state).result.map fun _ => (), (act state).state, (act state).trace⟩ := by
  cases result : (act state).result with
  | error fault => rw [bind_apply_error result]; rfl
  | ok value => rw [bind_apply_ok result]; simp [Except.map]

end Act

namespace Build

variable {σ α : Type}

@[simp] theorem require_true (build : Build) (clause : Clause) (statement : Statement) :
    (build.require clause true statement : Act σ Unit) = pure () := by
  simp [require]

@[simp] theorem require_unchecked (clause : Clause) (holds : Bool) (statement : Statement) :
    (Build.unchecked.require clause holds statement : Act σ Unit) = pure () := by
  simp [require, isChecked]

/-- A checked build logs a condition that does not hold, and breaks off. -/
@[simp] theorem require_checked_false_bind (clause : Clause) (statement : Statement)
    (next : Unit → Act σ α) (state : σ) :
    (Build.checked.require clause false statement >>= next) state =
      ⟨.error (.violated ⟨clause, statement⟩), state,
        [.logged (.violated ⟨clause, statement⟩)]⟩ :=
  rfl

end Build

end TrackedMemory
