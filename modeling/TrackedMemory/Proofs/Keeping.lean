import TrackedMemory.Proofs.Running

/-!
# Actions that keep an invariant quietly

An alarm is a report that the counters of a registry do not agree with its records, as a log line or
as a broken contract. An action keeps an invariant quietly if it leads from states that have the
invariant to such states again, raises no alarm, and ends with a value of a given kind or breaks off
for another reason. Every way of putting actions together has a rule, so that a property of a whole
call is put together in the same way as the call.
-/

namespace TrackedMemory

/-- Whether an event reports counters that do not agree with the records. -/
def Event.isAlarm : Event → Bool
  | .mismatched _ | .violated ⟨.invariant, _⟩ => true
  | _ => false

def Fault.isAlarm : Fault → Bool
  | .violated ⟨.invariant, _⟩ => true
  | _ => false

def Trace.IsQuiet (trace : Trace) : Prop :=
  ∀ event ∈ trace.events, event.isAlarm = false

/-- A result is a value of a kind, or a fault that is no alarm. -/
def EndsWell {α : Type} (good : α → Prop) : Except Fault α → Prop
  | .ok value => good value
  | .error fault => fault.isAlarm = false

theorem EndsWell.map {α γ : Type} {good : α → Prop} {better : γ → Prop} {result : Except Fault α}
    (endsWell : EndsWell good result) {wrap : α → γ}
    (improves : ∀ value, good value → better (wrap value)) : EndsWell better (result.map wrap) := by
  cases result with
  | ok value => exact improves value endsWell
  | error fault => exact endsWell

namespace Trace

variable {event : Event} {first second trace : Trace}

@[simp] theorem isQuiet_nil : Trace.IsQuiet [] := by
  simp [IsQuiet, events]

@[simp] theorem isQuiet_logged_cons :
    Trace.IsQuiet (.logged event :: trace) ↔ event.isAlarm = false ∧ trace.IsQuiet := by
  simp [IsQuiet, events]

@[simp] theorem isQuiet_called_cons {request : Request} {reply : Reply (Option Ptr)} :
    Trace.IsQuiet (.called request reply :: trace) ↔ trace.IsQuiet := by
  simp [IsQuiet, events]

@[simp] theorem isQuiet_append :
    Trace.IsQuiet (first ++ second) ↔ first.IsQuiet ∧ second.IsQuiet := by
  simp only [IsQuiet, events, List.filterMap_append, List.forall_mem_append]

end Trace

namespace Act

variable {σ τ α γ : Type}

/-- An action keeps an invariant of the state without alarm, and ends well. -/
structure Keeps (invariant : σ → Prop) (good : α → Prop) (act : Act σ α) : Prop where
  state : ∀ state, invariant state → invariant (act state).state
  quiet : ∀ state, invariant state → (act state).trace.IsQuiet
  result : ∀ state, invariant state → EndsWell good (act state).result

namespace Keeps

variable {invariant : σ → Prop} {good : α → Prop} {next : γ → Prop} {act : Act σ α}

theorem of_pure {value : α} (goodness : good value) : Keeps invariant good (pure value) :=
  ⟨fun _ holds => holds, fun _ _ => Trace.isQuiet_nil, fun _ _ => goodness⟩

theorem of_read : Keeps invariant invariant (Act.read : Act σ σ) :=
  ⟨fun _ holds => holds, fun _ _ => Trace.isQuiet_nil, fun _ holds => holds⟩

theorem of_update {change : σ → σ} (kept : ∀ state, invariant state → invariant (change state)) :
    Keeps invariant (fun _ => True) (Act.update change) :=
  ⟨kept, fun _ _ => Trace.isQuiet_nil, fun _ _ => trivial⟩

theorem of_log {event : Event} (calm : event.isAlarm = false) :
    Keeps invariant (fun _ => True) (Act.log event) :=
  ⟨fun _ holds => holds, fun _ _ => by simp [calm], fun _ _ => trivial⟩

theorem of_call {request : Request} {reply : Reply (Option Ptr)} :
    Keeps invariant (fun _ => True) (Act.call request reply) :=
  ⟨fun _ holds => holds, fun _ _ => by simp [Act.call], fun _ _ => trivial⟩

theorem of_fail {fault : Fault} (calm : fault.isAlarm = false) :
    Keeps invariant good (Act.fail fault) :=
  ⟨fun _ holds => holds, fun _ _ => Trace.isQuiet_nil, fun _ _ => calm⟩

/-- One action after the other, where the second one may rely on the value of the first. -/
theorem bind (first : Keeps invariant good act) {following : α → Act σ γ}
    (second : ∀ value, good value → Keeps invariant next (following value)) :
    Keeps invariant next (act >>= following) := by
  have parts : ∀ state, invariant state → invariant ((act >>= following) state).state ∧
      ((act >>= following) state).trace.IsQuiet ∧
        EndsWell next ((act >>= following) state).result := by
    intro state holds
    have ends := first.result state holds
    cases result : (act state).result with
    | error fault =>
      rw [result] at ends
      rw [bind_apply_error result]
      exact ⟨first.state state holds, first.quiet state holds, ends⟩
    | ok value =>
      rw [result] at ends
      have later := second value ends
      have middle := first.state state holds
      rw [bind_apply_ok result]
      exact ⟨later.state _ middle,
        Trace.isQuiet_append.2 ⟨first.quiet state holds, later.quiet _ middle⟩,
        later.result _ middle⟩
  exact ⟨fun state holds => (parts state holds).1, fun state holds => (parts state holds).2.1,
    fun state holds => (parts state holds).2.2⟩

/-- An action on which nothing is demanded but to keep the invariant, and one behind it. -/
theorem andThen (first : Keeps invariant good act) {following : α → Act σ γ}
    (second : ∀ value, Keeps invariant next (following value)) :
    Keeps invariant next (act >>= following) :=
  first.bind fun value _ => second value

theorem after (kept : Keeps invariant good act) {change : σ → σ}
    (also : ∀ state, invariant state → invariant (change state)) :
    Keeps invariant good (act.after change) :=
  ⟨fun state holds => also _ (kept.state state holds), kept.quiet, kept.result⟩

/-- An action that is caught may break off, though not with an alarm. -/
theorem attempt (kept : Keeps invariant good act) :
    Keeps invariant (EndsWell good) act.attempt :=
  ⟨kept.state, kept.quiet, kept.result⟩

/-- An action on a part keeps an invariant of the whole that follows from one of the part. -/
theorem within (kept : Keeps invariant good act) {whole : τ → Prop} {part : τ → σ}
    {put : σ → τ → τ} (has : ∀ state, whole state → invariant (part state))
    (put_kept : ∀ state changed, whole state → invariant changed → whole (put changed state)) :
    Keeps whole good (act.within part put) :=
  ⟨fun state holds => put_kept _ _ holds (kept.state _ (has state holds)),
    fun state holds => kept.quiet _ (has state holds),
    fun state holds => kept.result _ (has state holds)⟩

theorem ite {condition : Prop} [Decidable condition] {other : Act σ α}
    (first : condition → Keeps invariant good act)
    (second : ¬condition → Keeps invariant good other) :
    Keeps invariant good (if condition then act else other) := by
  split
  next holds => exact first holds
  next fails => exact second fails

theorem require {build : Build} {clause : Clause} {holds : Bool} {statement : Statement}
    (other : clause ≠ .invariant) :
    Keeps invariant (fun _ => True) (build.require clause holds statement) := by
  have calmEvent : (Event.violated ⟨clause, statement⟩).isAlarm = false := by
    cases clause <;> first | rfl | contradiction
  have calmFault : (Fault.violated ⟨clause, statement⟩).isAlarm = false := by
    cases clause <;> first | rfl | contradiction
  exact ite (fun _ => (of_log calmEvent).andThen fun _ => of_fail calmFault)
    fun _ => of_pure trivial

end Keeps

end Act

end TrackedMemory
