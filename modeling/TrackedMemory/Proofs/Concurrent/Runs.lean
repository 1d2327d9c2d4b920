import TrackedMemory.Proofs.Concurrent.Steps
import TrackedMemory.Proofs.Lists

/-!
# Runs of a machine

A run is a list of moves that can be made one after the other. `Machine.holders` lists the calls
that draw a ticket in a run, so that ticket `t` belongs to the call in place `t`. A property of the
holders and the machine is kept by all runs from the empty machine on if starting a call and every
step of a call keep it.
-/

namespace TrackedMemory

namespace Machine

variable {setup : Setup} {machine next : Machine} {move : Move} {moves : List Move}

def run? (setup : Setup) (machine : Machine) (moves : List Move) : Option Machine :=
  moves.foldlM (move? setup) machine

/-- The call that a move is a step of, if a ticket was drawn between two books. -/
def drawn (before after : Books) (index? : Option Nat) : List Nat :=
  if before.sequencer.issued < after.sequencer.issued then index?.toList else []

/-- The calls that draw a ticket in a run, in the order in which they draw. -/
def holders (setup : Setup) (machine : Machine) : List Move → List Nat
  | [] => []
  | move :: rest =>
      match machine.move? setup move with
      | none => []
      | some next => drawn machine.books next.books move.index? ++ holders setup next rest

theorem drawn_eq_nil {before after : Books} {index? : Option Nat}
    (same : after.sequencer.issued = before.sequencer.issued) : drawn before after index? = [] := by
  rw [drawn, same, if_neg (Nat.lt_irrefl _)]

@[simp] theorem run?_nil : machine.run? setup [] = some machine := rfl

@[simp] theorem run?_cons :
    machine.run? setup (move :: moves) =
      (machine.move? setup move).bind fun next => next.run? setup moves := rfl

theorem run?_append (first second : List Move) :
    machine.run? setup (first ++ second) =
      (machine.run? setup first).bind fun middle => middle.run? setup second :=
  List.foldlM_append

theorem holders_append {first second : List Move} {middle : Machine}
    (run : machine.run? setup first = some middle) :
    machine.holders setup (first ++ second) =
      machine.holders setup first ++ middle.holders setup second := by
  induction first generalizing machine with
  | nil =>
    cases run
    rfl
  | cons move rest ih =>
    obtain ⟨next, moved, run⟩ := Option.bind_eq_some_iff.1 run
    simp [holders, moved, ih run]

/-! ## The calls after a move -/

variable {index : Nat} {call : Call} {books : Books} {phase : Phase} {trace : Trace}

@[simp] theorem books_start (command : Command) : (machine.start command).books = machine.books :=
  rfl

@[simp] theorem books_goOn : (machine.goOn index call books phase trace).books = books := rfl

theorem getElem?_start_eq_some {command : Command} {other : Nat} {found : Call} :
    (machine.start command).calls[other]? = some found ↔
      machine.calls[other]? = some found ∨ other = machine.calls.length ∧ found = { command } := by
  rw [Machine.start, getElem?_concat_eq_some_iff, @eq_comm _ found]

theorem getElem?_goOn (called : machine.calls[index]? = some call) (other : Nat) :
    (machine.goOn index call books phase trace).calls[other]? =
      if other = index then some { call with phase, trace := call.trace ++ trace }
      else machine.calls[other]? := by
  have inside := lt_length_of_getElem? called
  simp only [goOn, List.getElem?_set, eq_comm (a := index)]
  split <;> simp_all

theorem getElem?_goOn_self (called : machine.calls[index]? = some call) :
    (machine.goOn index call books phase trace).calls[index]? =
      some { call with phase, trace := call.trace ++ trace } := by
  rw [getElem?_goOn called, if_pos rfl]

/-- What no call has from its start, no call has that was just started. -/
theorem bind_getElem?_start {α : Type} {part : Call → Option α} {command : Command}
    (fresh : part { command } = none) (other : Nat) :
    (machine.start command).calls[other]?.bind part = machine.calls[other]?.bind part := by
  refine Option.ext fun thing => ?_
  simp only [Option.bind_eq_some_iff, getElem?_start_eq_some]
  constructor
  · rintro ⟨found, called | ⟨-, rfl⟩, has⟩
    · exact ⟨found, called, has⟩
    · rw [fresh] at has
      cases has
  · rintro ⟨found, called, has⟩
    exact ⟨found, .inl called, has⟩

theorem bind_getElem?_goOn {α : Type} (part : Call → Option α)
    (called : machine.calls[index]? = some call) (other : Nat) :
    (machine.goOn index call books phase trace).calls[other]?.bind part =
      if other = index then part { call with phase, trace := call.trace ++ trace }
      else machine.calls[other]?.bind part := by
  rw [getElem?_goOn called]
  split <;> rfl

theorem bind_getElem?_goOn_of_eq {α : Type} {part : Call → Option α}
    (called : machine.calls[index]? = some call)
    (same : part { call with phase, trace := call.trace ++ trace } = part call) (other : Nat) :
    (machine.goOn index call books phase trace).calls[other]?.bind part =
      machine.calls[other]?.bind part := by
  rw [bind_getElem?_goOn part called]
  split
  next mine => rw [mine, called, Option.bind_some, same]
  next => rfl

def Every (P : Call → Prop) (machine : Machine) : Prop :=
  ∀ ⦃index : Nat⦄ ⦃call : Call⦄, machine.calls[index]? = some call → P call

theorem every_empty {P : Call → Prop} : Every P {} := by
  intro index call called
  simp at called

theorem Every.start {P : Call → Prop} (every : machine.Every P) {command : Command}
    (fresh : P { command }) : (machine.start command).Every P := by
  intro index call called
  rcases getElem?_start_eq_some.1 called with old | ⟨-, rfl⟩
  · exact every old
  · exact fresh

/-- Every call has what the call that took a step has, and the other ones. -/
theorem every_goOn {P : Call → Prop} (called : machine.calls[index]? = some call)
    (mine : P { call with phase, trace := call.trace ++ trace })
    (theirs : ∀ {other : Nat} {found : Call}, other ≠ index →
      machine.calls[other]? = some found → P found) :
    (machine.goOn index call books phase trace).Every P := by
  intro other found there
  rw [getElem?_goOn called] at there
  split at there
  next =>
    cases there
    exact mine
  next differ => exact theirs differ there

/-! ## Induction over runs -/

theorem reachable_iff_run? :
    Reachable setup machine ↔ ∃ moves, run? setup {} moves = some machine := by
  constructor
  · intro reachable
    induction reachable with
    | empty => exact ⟨[], rfl⟩
    | move move before moved ih =>
      obtain ⟨moves, run⟩ := ih
      exact ⟨moves ++ [move], by simp [run?_append, run, moved]⟩
  · rintro ⟨moves, run⟩
    suffices ∀ start : Machine, Reachable setup start → start.run? setup moves = some machine →
        Reachable setup machine from this {} .empty run
    clear run
    induction moves with
    | nil =>
      intro start reachable run
      cases run
      exact reachable
    | cons move rest ih =>
      intro start reachable run
      obtain ⟨next, moved, run⟩ := Option.bind_eq_some_iff.1 run
      exact ih next (.move move reachable moved) run

/-- A property of holders and machine that holds of the empty machine and that starting a call and
every step of a call keep holds after every run. -/
theorem run_invariant {P : List Nat → Machine → Prop} (empty : P [] {})
    (start : ∀ {moves machine} command, run? setup {} moves = some machine →
      P (holders setup {} moves) machine → P (holders setup {} moves) (start machine command))
    (goOn : ∀ {moves machine index call books phase trace}, run? setup {} moves = some machine →
      P (holders setup {} moves) machine → machine.calls[index]? = some call →
      Phase.Step setup machine.books call.phase books phase trace →
      P (holders setup {} moves ++ drawn machine.books books (some index))
        (machine.goOn index call books phase trace))
    (run : run? setup {} moves = some machine) : P (holders setup {} moves) machine := by
  suffices ∀ (before : List Move) (middle : Machine), run? setup {} before = some middle →
      P (holders setup {} before) middle → middle.run? setup moves = some machine →
      P (holders setup {} (before ++ moves)) machine from this [] {} rfl empty run
  clear run
  induction moves with
  | nil =>
    intro before middle ran holds run
    cases run
    simpa using holds
  | cons move rest ih =>
    intro before middle ran holds run
    obtain ⟨next, moved, run⟩ := Option.bind_eq_some_iff.1 run
    have once : run? setup {} (before ++ [move]) = some next := by simp [run?_append, ran, moved]
    have kept : P (holders setup {} (before ++ [move])) next := by
      rw [holders_append ran]
      simp only [holders, moved, List.append_nil]
      rcases move?_cases moved with
        ⟨command, rfl, rfl⟩ | ⟨index, call, books, phase, trace, moves, called, step, rfl⟩
      · simpa [drawn, Move.index?] using start command ran holds
      · rw [moves]
        exact goOn ran holds called step
    simpa using ih (before ++ [move]) next once kept run

/-- A property of machines that starting a call and every step of a call keep holds of every
reachable machine. -/
theorem Reachable.invariant {P : Machine → Prop} (empty : P {})
    (start : ∀ {machine} command, P machine → P (start machine command))
    (goOn : ∀ {machine index call books phase trace}, P machine →
      machine.calls[index]? = some call →
      Phase.Step setup machine.books call.phase books phase trace →
      P (machine.goOn index call books phase trace))
    (reachable : Reachable setup machine) : P machine := by
  obtain ⟨moves, run⟩ := reachable_iff_run?.1 reachable
  exact run_invariant (P := fun _ machine => P machine) empty (fun command _ => start command)
    (fun _ => goOn) run

/-! ## What holds of every reachable machine -/

theorem Reachable.areSound (reachable : Reachable setup machine) :
    machine.books.registries.AreSound := by
  refine Reachable.invariant (P := fun machine => machine.books.registries.AreSound)
    Registries.areSound_empty (fun _ sound => sound) ?_ reachable
  intro machine index call books phase trace sound called step
  exact step.areSound sound

theorem Reachable.allServe (reachable : Reachable setup machine) :
    machine.Every fun call => call.phase.Serves call.command := by
  refine Reachable.invariant (P := Every fun call => call.phase.Serves call.command) every_empty
    ?_ ?_ reachable
  · intro machine command serves
    exact serves.start rfl
  · intro machine index call books phase trace serves called step
    exact every_goOn called (step.serves (serves called)) fun _ there => serves there

end Machine

end TrackedMemory
