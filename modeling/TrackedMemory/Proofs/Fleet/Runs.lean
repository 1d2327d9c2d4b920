import TrackedMemory.Manager.Fleet
import TrackedMemory.Proofs.Lists
import TrackedMemory.Proofs.Manager.Observation

/-!
# Runs of managers that share a backend

A run is a list of steps. In each step one manager carries a command out or is dropped, or the
shared backend is changed from outside. A step for a manager that was dropped does nothing, and a
step that breaks off does not end the run. The history of a run is the list of its backend calls,
each with its answer and the manager that made it.
-/

namespace TrackedMemory

namespace Fleet

inductive Step (β : Type) where
  | command (index : Nat) (command : Command)
  | drop (index : Nat)
  /-- The backend changes, for instance because it is told to fail. -/
  | adjust (change : β → β)

/-- Backend call of a manager, and its answer. -/
structure Entry where
  owner : Nat
  request : Request
  reply : Reply (Option Ptr)
  deriving DecidableEq

def Step.entries {β : Type} (trace : Trace) : Step β → List Entry
  | .command owner _ | .drop owner => trace.calls.map fun call => ⟨owner, call.1, call.2⟩
  | .adjust _ => []

variable {β : Type}

def launch (setups : List Setup) (backend : β) : Fleet β where
  members := setups.map fun setup => { setup }
  backend := backend

/-- The registries of all managers, those that were dropped included. -/
def registries (fleet : Fleet β) : List Registries :=
  fleet.members.map fun member => member.books.registries

variable [Backend β]

/-- Makes a step. A command that does not break off has an answer. -/
def perform (fleet : Fleet β) : Step β → Outcome (Fleet β) (Option Answer)
  | .command index command =>
      match fleet.run? index command with
      | some outcome => ⟨outcome.result.map some, outcome.state, outcome.trace⟩
      | none => ⟨.ok none, fleet, []⟩
  | .drop index =>
      match fleet.drop? index with
      | some outcome => ⟨outcome.result.map fun _ => none, outcome.state, outcome.trace⟩
      | none => ⟨.ok none, fleet, []⟩
  | .adjust change => ⟨.ok none, { fleet with backend := change fleet.backend }, []⟩

def after (fleet : Fleet β) (steps : List (Step β)) : Fleet β :=
  steps.foldl (fun fleet step => (fleet.perform step).state) fleet

def history (fleet : Fleet β) : List (Step β) → List Entry
  | [] => []
  | step :: rest =>
      step.entries (fleet.perform step).trace ++ history (fleet.perform step).state rest

variable {fleet : Fleet β} {index : Nat} {member : Member} {step : Step β} {steps : List (Step β)}

omit [Backend β] in
theorem active?_eq_some_iff : fleet.active? index = some member ↔
    fleet.members[index]? = some member ∧ member.dropped = false := by
  simp [active?, Option.filter_eq_some_iff]

omit [Backend β] in
theorem getElem?_registries (active : fleet.active? index = some member) :
    fleet.registries[index]? = some member.books.registries := by
  simp [registries, (active?_eq_some_iff.1 active).1]

@[simp] theorem after_nil : fleet.after [] = fleet := rfl

@[simp] theorem after_cons : fleet.after (step :: steps) = (fleet.perform step).state.after steps :=
  rfl

@[simp] theorem history_nil : fleet.history [] = [] := rfl

theorem history_append (first second : List (Step β)) :
    fleet.history (first ++ second) =
      fleet.history first ++ (fleet.after first).history second := by
  induction first generalizing fleet with
  | nil => rfl
  | cons step rest ih => simp [history, ih]

/-! ## What a step does -/

theorem perform_command (active : fleet.active? index = some member) (command : Command) :
    fleet.perform (.command index command) =
      let outcome := Site.run member.setup command ⟨member.books, fleet.backend⟩
      ⟨outcome.result.map some,
        ⟨fleet.members.set index { member with books := outcome.state.books },
          outcome.state.backend⟩,
        outcome.trace⟩ := by
  simp [perform, run?, onMember, active]

/-- Marking a manager as dropped whose books were just replaced. -/
private theorem modify_set {members : List Member} (books : Books)
    (there : members[index]? = some member) :
    (members.set index { member with books }).modify index
        (fun member => { member with dropped := true }) =
      members.set index { member with books, dropped := true } := by
  obtain ⟨inside, rfl⟩ := List.getElem?_eq_some_iff.1 there
  refine List.ext_getElem? fun other => ?_
  rw [List.getElem?_modify, List.getElem?_set, List.getElem?_set]
  split <;> simp

theorem perform_drop (active : fleet.active? index = some member) :
    fleet.perform (.drop index) =
      let outcome := Site.teardown member.setup ⟨member.books, fleet.backend⟩
      ⟨outcome.result.map fun _ => none,
        ⟨fleet.members.set index { member with books := outcome.state.books, dropped := true },
          outcome.state.backend⟩,
        outcome.trace⟩ := by
  have marked := modify_set
    (Site.teardown member.setup ⟨member.books, fleet.backend⟩).state.books
    (active?_eq_some_iff.1 active).1
  simp only [perform, drop?, onMember, active, Option.map_some, strike, marked]

/-- Everything that a step can do: it names no manager that is there, changes the backend, has one
manager carry a command out, or drops one. -/
inductive Performs (fleet : Fleet β) : Step β → Outcome (Fleet β) (Option Answer) → Prop where
  | idle (step : Step β) : Performs fleet step ⟨.ok none, fleet, []⟩
  | adjust (change : β → β) :
      Performs fleet (.adjust change) ⟨.ok none, { fleet with backend := change fleet.backend }, []⟩
  | command (index : Nat) (member : Member) (command : Command)
      (outcome : Outcome (Site β) Answer) (active : fleet.active? index = some member)
      (done : Site.run member.setup command ⟨member.books, fleet.backend⟩ = outcome) :
      Performs fleet (.command index command) ⟨outcome.result.map some,
        ⟨fleet.members.set index { member with books := outcome.state.books },
          outcome.state.backend⟩,
        outcome.trace⟩
  | drop (index : Nat) (member : Member) (outcome : Outcome (Site β) Unit)
      (active : fleet.active? index = some member)
      (done : Site.teardown member.setup ⟨member.books, fleet.backend⟩ = outcome) :
      Performs fleet (.drop index) ⟨outcome.result.map fun _ => none,
        ⟨fleet.members.set index { member with books := outcome.state.books, dropped := true },
          outcome.state.backend⟩,
        outcome.trace⟩

theorem performs (fleet : Fleet β) (step : Step β) : fleet.Performs step (fleet.perform step) := by
  cases step with
  | adjust change => exact .adjust change
  | command index command =>
    cases active : fleet.active? index with
    | none => simpa [perform, run?, onMember, active] using .idle (.command index command)
    | some member =>
      rw [perform_command active]
      exact .command index member command _ active rfl
  | drop index =>
    cases active : fleet.active? index with
    | none => simpa [perform, drop?, onMember, active] using .idle (.drop index)
    | some member =>
      rw [perform_drop active]
      exact .drop index member _ active rfl

end Fleet

end TrackedMemory
