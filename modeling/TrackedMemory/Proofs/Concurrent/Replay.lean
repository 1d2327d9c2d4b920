import Mathlib.Data.List.Basic
import TrackedMemory.Proofs.Concurrent.Commitments

/-!
# The registries replay the tickets

The mutations of the calls that drew the tickets, in ticket order, carry the empty registries to
those of the machine: whenever nobody has the turn, exactly the retired tickets are replayed. Calls
that come one after the other draw their tickets in that order.
-/

namespace TrackedMemory

namespace Phase

variable {setup : Setup} {books after : Books} {phase next : Phase} {trace : Trace}

/-- Whether a call has made its change and has not retired its ticket. -/
def isChanged : Phase → Bool
  | .changed .. => true
  | _ => false

theorem isChanged_of_ticket? (free : phase.ticket? = none) : phase.isChanged = false := by
  cases phase <;> first | rfl | cases free

/-- A step makes a change, retires it, or has to do with no change. -/
theorem Step.changes (step : Step setup books phase after next trace) :
    (∃ ticket change, phase = .inTurn ticket change ∧ after = (change.apply setup books).state ∧
      next = .changed ticket change (change.apply setup books).result ∧
      trace = (change.apply setup books).trace) ∨
    (phase.isChanged ∧ next.isChanged = false ∧ after = books.retire) ∨
    (next.isChanged = phase.isChanged ∧ after.registries = books.registries ∧
      after.sequencer.serving = books.sequencer.serving) := by
  cases step with
  | change ticket change => exact .inl ⟨ticket, change, rfl, rfl, rfl, rfl⟩
  | leave ticket change result =>
    have free := isChanged_of_ticket? (ticket?_afterTurn setup ticket change result)
    exact .inr (.inl ⟨rfl, free, rfl⟩)
  | aside tally passes =>
    refine .inr (.inr ⟨?_, rfl, rfl⟩)
    rw [isChanged_of_ticket? (ticket?_of_isAside passes.before),
      isChanged_of_ticket? (ticket?_of_isAside passes.after)]
  | confirm here area ptr =>
    exact .inr (.inr ⟨isChanged_of_ticket? (ticket?_afterSearch setup area ptr here), rfl, rfl⟩)
  | miss area ptr =>
    exact .inr (.inr ⟨isChanged_of_ticket? (ticket?_afterSearch setup area ptr none), rfl, rfl⟩)
  | _ => exact .inr (.inr ⟨rfl, rfl, rfl⟩)

end Phase

namespace Machine

variable {setup : Setup} {machine : Machine} {holders : List Nat} {moves : List Move}
  {index : Nat} {call : Call} {books : Books} {phase : Phase} {trace : Trace}

def mutationOf? (machine : Machine) (index : Nat) : Option Mutation :=
  machine.calls[index]?.bind fun call => call.trace.mutation?

def mutations (machine : Machine) (holders : List Nat) : List Mutation :=
  holders.filterMap machine.mutationOf?

def isChanging (machine : Machine) : Bool :=
  machine.calls.any fun call => call.phase.isChanged

/-- The number of tickets whose change was made. -/
def applied (machine : Machine) : Nat :=
  machine.books.sequencer.serving + machine.isChanging.toNat

/-- The registries are those that the changes made so far lead to, in ticket order. -/
def Replayed (machine : Machine) (holders : List Nat) : Prop :=
  machine.books.registries =
    Registries.replay (machine.mutations (holders.take machine.applied))

/-! ## Commitments that are settled -/

@[simp] theorem mutationOf?_start (command : Command) :
    (machine.start command).mutationOf? = machine.mutationOf? :=
  funext (bind_getElem?_start rfl)

theorem mutationOf?_goOn (called : machine.calls[index]? = some call) {other : Nat}
    (settled : (machine.mutationOf? other).isSome) :
    (machine.goOn index call books phase trace).mutationOf? other = machine.mutationOf? other := by
  unfold mutationOf? at settled ⊢
  rw [bind_getElem?_goOn _ called]
  split
  next same =>
    subst same
    rw [called, Option.bind_some] at settled ⊢
    rw [Trace.mutation?_append, Option.or_of_isSome settled]
  next => rfl

theorem mutations_goOn (called : machine.calls[index]? = some call) {done : List Nat}
    (settled : ∀ other ∈ done, (machine.mutationOf? other).isSome) :
    (machine.goOn index call books phase trace).mutations done = machine.mutations done :=
  List.filterMap_congr fun other member => mutationOf?_goOn called (settled other member)

/-- The call that has the turn is the one that drew the ticket being served. -/
theorem Orderly.eq_of_turnOf? (orderly : machine.Orderly holders) {first second left right : Nat}
    (one : machine.turnOf? first = some left) (two : machine.turnOf? second = some right) :
    second = first := by
  obtain ⟨rfl, mine⟩ := orderly.getElem?_of_turn one
  obtain ⟨rfl, theirs⟩ := orderly.getElem?_of_turn two
  rw [mine] at theirs
  exact (Option.some.inj theirs).symm

/-- A call that has made its change has the turn, and is committed to that change. -/
theorem exists_of_isChanged (called : machine.calls[index]? = some call)
    (changed : call.phase.isChanged) :
    ∃ ticket change result, call.phase = .changed ticket change result ∧
      machine.turnOf? index = some ticket := by
  cases phase : call.phase with
  | changed ticket change result =>
    exact ⟨ticket, change, result, rfl, by rw [turnOf?, called, Option.bind_some, phase]; rfl⟩
  | _ => simp [phase, Phase.isChanged] at changed

theorem Committed.isSome_of_retired (committed : machine.Committed holders)
    (orderly : machine.Orderly holders) {ticket : Nat}
    (retired : ticket < machine.books.sequencer.serving)
    (drew : holders[ticket]? = some index) : (machine.mutationOf? index).isSome := by
  have member : index ∈ holders := List.mem_of_getElem? drew
  have inside := orderly.started index member
  have called := List.getElem?_eq_getElem inside
  have commits := committed.commits called
  rw [mutationOf?, called, Option.bind_some]
  revert commits
  cases phase : machine.calls[index].phase with
  | inFree held =>
    -- Its ticket would be one that is not retired, so the call would have drawn twice.
    have holds : machine.ticketOf? index = some held := by
      rw [ticketOf?, called, Option.bind_some, phase]
      rfl
    obtain ⟨pending, there⟩ := (orderly.held index held).1 holds
    have same : held = ticket :=
      (List.getElem?_inj (lt_length_of_getElem? there) committed.once).1
        (there.trans drew.symm)
    omega
  | searching addr rest purpose =>
    intro commits
    cases purpose with
    | confirm => simp [commits.2]
    | space | size => exact absurd member commits.1
  | queued | inTurn | changed =>
    intro commits
    simp [commits.2]
  | finished =>
    intro commits
    exact commits.1 member
  | _ =>
    intro commits
    exact absurd member commits.1

/-! ## Changes that were made -/

theorem isChanging_iff : machine.isChanging = true ↔
    ∃ (index : Nat) (call : Call), machine.calls[index]? = some call ∧ call.phase.isChanged := by
  rw [isChanging, List.any_eq_true]
  constructor
  · rintro ⟨call, member, changed⟩
    obtain ⟨index, called⟩ := List.mem_iff_getElem?.1 member
    exact ⟨index, call, called, changed⟩
  · rintro ⟨index, call, called, changed⟩
    exact ⟨call, List.mem_of_getElem? called, changed⟩

theorem Orderly.exists_of_isChanging (orderly : machine.Orderly holders)
    (changing : machine.isChanging) :
    ∃ (index : Nat) (call : Call) (change : Change) (result : Except Fault Unit),
      machine.calls[index]? = some call ∧
      call.phase = .changed machine.books.sequencer.serving change result ∧
      holders[machine.books.sequencer.serving]? = some index := by
  obtain ⟨index, call, called, changed⟩ := isChanging_iff.1 changing
  obtain ⟨ticket, change, result, phase, has⟩ := exists_of_isChanged called changed
  obtain ⟨rfl, drew⟩ := orderly.getElem?_of_turn has
  exact ⟨index, call, change, result, called, phase, drew⟩

theorem Committed.isSome_of_applied (committed : machine.Committed holders)
    (orderly : machine.Orderly holders) :
    ∀ index ∈ holders.take machine.applied, (machine.mutationOf? index).isSome := by
  intro index member
  obtain ⟨ticket, drew⟩ := List.mem_iff_getElem?.1 member
  have made : ticket < machine.applied := by
    have inside := lt_length_of_getElem? drew
    rw [List.length_take] at inside
    omega
  rw [List.getElem?_take_of_lt made] at drew
  by_cases retired : ticket < machine.books.sequencer.serving
  · exact committed.isSome_of_retired orderly retired drew
  · cases changing : machine.isChanging with
    | false =>
      rw [applied, changing] at made
      exact absurd made retired
    | true =>
      obtain ⟨other, call, change, result, called, phase, theirs⟩ :=
        orderly.exists_of_isChanging changing
      rw [applied, changing, Bool.toNat_true] at made
      have same : ticket = machine.books.sequencer.serving := by omega
      subst same
      rw [drew] at theirs
      cases theirs
      have commits := committed.commits called
      rw [phase] at commits
      simp [mutationOf?, called, commits.2]

theorem Orderly.applied_le (orderly : machine.Orderly holders) :
    machine.applied ≤ holders.length := by
  cases changing : machine.isChanging with
  | false =>
    rw [applied, changing, orderly.drawn]
    exact orderly.served
  | true =>
    obtain ⟨index, call, change, result, called, phase, drew⟩ :=
      orderly.exists_of_isChanging changing
    rw [applied, changing]
    exact lt_length_of_getElem? drew

/-- After a step a change is pending if the step made it, or if another call has made it. -/
theorem isChanging_goOn (called : machine.calls[index]? = some call) :
    (machine.goOn index call books phase trace).isChanging = true ↔
      phase.isChanged = true ∨ ∃ (other : Nat) (found : Call), other ≠ index ∧
        machine.calls[other]? = some found ∧ found.phase.isChanged := by
  rw [isChanging_iff]
  constructor
  · rintro ⟨other, found, there, changed⟩
    rw [getElem?_goOn called] at there
    split at there
    next =>
      cases there
      exact .inl changed
    next differ => exact .inr ⟨other, found, differ, there, changed⟩
  · rintro (changed | ⟨other, found, differ, there, changed⟩)
    · exact ⟨index, _, by rw [getElem?_goOn called, if_pos rfl], changed⟩
    · exact ⟨other, found, by rw [getElem?_goOn called, if_neg differ, there], changed⟩

theorem isChanging_goOn_of_eq (called : machine.calls[index]? = some call)
    (same : phase.isChanged = call.phase.isChanged) :
    (machine.goOn index call books phase trace).isChanging = machine.isChanging := by
  rw [Bool.eq_iff_iff, isChanging_goOn called, isChanging_iff, same]
  constructor
  · rintro (changed | ⟨other, found, -, there, changed⟩)
    · exact ⟨index, call, called, changed⟩
    · exact ⟨other, found, there, changed⟩
  · rintro ⟨other, found, there, changed⟩
    by_cases mine : other = index
    · subst mine
      rw [called] at there
      cases there
      exact .inl changed
    · exact .inr ⟨other, found, mine, there, changed⟩

theorem Orderly.not_changed (orderly : machine.Orderly holders) {ticket : Nat}
    (has : machine.turnOf? index = some ticket) :
    ¬∃ (other : Nat) (found : Call), other ≠ index ∧
      machine.calls[other]? = some found ∧ found.phase.isChanged := by
  rintro ⟨other, found, differ, there, changed⟩
  obtain ⟨held, change, result, phase, theirs⟩ := exists_of_isChanged there changed
  exact differ (orderly.eq_of_turnOf? has theirs)

/-! ## Every step keeps the replay -/

namespace Replayed

theorem start (replayed : machine.Replayed holders) (command : Command) :
    (machine.start command).Replayed holders := by
  have still : (machine.start command).isChanging = machine.isChanging := by
    simp [isChanging, Machine.start, Phase.isChanged]
  rw [Replayed, applied, mutations, still, mutationOf?_start]
  exact replayed

section Step

variable (replayed : machine.Replayed holders) (orderly : machine.Orderly holders)
  (committed : machine.Committed holders) (called : machine.calls[index]? = some call)
include replayed orderly committed called

theorem keep (registries : books.registries = machine.books.registries)
    (applied : (machine.goOn index call books phase trace).applied = machine.applied)
    (more : List Nat) :
    (machine.goOn index call books phase trace).Replayed (holders ++ more) := by
  rw [Replayed, applied, List.take_append_of_le_length orderly.applied_le,
    mutations_goOn called (committed.isSome_of_applied orderly), books_goOn, registries]
  exact replayed

/-- The change of the call that has the turn comes after those of the retired tickets. -/
theorem change {ticket : Nat} {change : Change} (sound : machine.books.registries.AreSound)
    (before : call.phase = .inTurn ticket change) :
    (machine.goOn index call (change.apply setup machine.books).state
      (.changed ticket change (change.apply setup machine.books).result)
      (change.apply setup machine.books).trace).Replayed holders := by
  have has : machine.turnOf? index = some ticket := by
    rw [turnOf?, called, Option.bind_some, before]
    rfl
  obtain ⟨rfl, drew⟩ := orderly.getElem?_of_turn has
  have still : machine.isChanging = false := by
    rw [← Bool.not_eq_true, isChanging_iff]
    rintro ⟨other, found, there, changed⟩
    refine orderly.not_changed has ⟨other, found, ?_, there, changed⟩
    rintro rfl
    rw [called] at there
    cases there
    rw [before] at changed
    cases changed
  have commits := committed.commits called
  rw [before] at commits
  have mine : machine.mutationOf? index = some change.mutation := by
    rw [mutationOf?, called, Option.bind_some, commits.2]
  have settled := committed.isSome_of_applied orderly
  rw [applied, still, Bool.toNat_false, Nat.add_zero] at settled
  have made : (machine.goOn index call (change.apply setup machine.books).state
      (.changed machine.books.sequencer.serving change (change.apply setup machine.books).result)
      (change.apply setup machine.books).trace).applied = machine.books.sequencer.serving + 1 := by
    rw [applied, books_goOn, change.apply_sequencer,
      (isChanging_goOn called).2 (.inl rfl), Bool.toNat_true]
  rw [Replayed, applied, still, Bool.toNat_false, Nat.add_zero] at replayed
  rw [Replayed, made, List.take_add_one, drew, Option.toList_some, mutations,
    List.filterMap_append, ← mutations, mutations_goOn called settled, books_goOn,
    List.filterMap_cons_some ((mutationOf?_goOn called (by rw [mine]; rfl)).trans mine),
    List.filterMap_nil, Registries.replay_concat, change.apply_state sound, replayed]

theorem goOn (sound : machine.books.registries.AreSound)
    (step : Phase.Step setup machine.books call.phase books phase trace) :
    (machine.goOn index call books phase trace).Replayed
      (holders ++ drawn machine.books books (some index)) := by
  rcases step.changes with
    ⟨ticket, change, before, rfl, rfl, rfl⟩ | ⟨changed, still, rfl⟩ | ⟨same, registries, serving⟩
  · rw [drawn_eq_nil (by rw [change.apply_sequencer]), List.append_nil]
    exact replayed.change orderly committed called sound before
  · have kept : machine.books.retire.registries = machine.books.registries := rfl
    refine replayed.keep orderly committed called kept ?_ _
    have changing : machine.isChanging = true := isChanging_iff.2 ⟨index, call, called, changed⟩
    obtain ⟨ticket, -, -, -, has⟩ := exists_of_isChanged called changed
    have done : (machine.goOn index call machine.books.retire phase trace).isChanging = false := by
      rw [← Bool.not_eq_true, isChanging_goOn called, still]
      simpa using orderly.not_changed has
    rw [applied, applied, done, changing]
    rfl
  · refine replayed.keep orderly committed called registries ?_ _
    rw [applied, applied, isChanging_goOn_of_eq called same, books_goOn, serving]

end Step

end Replayed

/-- Every run leads to a machine whose registries replay the changes made, in ticket order. -/
theorem replayed_of_run (run : run? setup {} moves = some machine) :
    machine.Replayed (Machine.holders setup {} moves) := by
  refine run_invariant (P := fun holders machine => machine.Replayed holders) rfl ?_ ?_ run
  · intro moves machine command run replayed
    exact replayed.start command
  · intro moves machine index call books phase trace run replayed called step
    have reachable : Reachable setup machine := reachable_iff_run?.2 ⟨moves, run⟩
    exact replayed.goOn (orderly_of_run run) (committed_of_run run) called reachable.areSound step

/-! ## Calls that come one after the other -/

theorem not_mem_holders_of_isFinished (called : machine.calls[index]? = some call)
    (finished : call.isFinished) : index ∉ machine.holders setup moves := by
  induction moves generalizing machine with
  | nil => simp [holders]
  | cons move rest ih =>
    cases moved : machine.move? setup move with
    | none => simp [holders, moved]
    | some next =>
      simp only [holders, moved]
      rcases move?_cases moved with
        ⟨command, rfl, rfl⟩ | ⟨other, acting, books, phase, trace, moves, there, step, rfl⟩
      · simpa [drawn] using ih (getElem?_start_eq_some.2 (.inl called))
      · have differ : index ≠ other := by
          rintro rfl
          rw [called] at there
          cases there
          exact step.not_isFinished finished
        rw [moves, List.mem_append, mem_drawn]
        rintro (⟨same, -⟩ | later)
        · exact differ same
        · refine ih ?_ later
          rw [getElem?_goOn there, if_neg differ, called]

/-- A call that is finished before another one starts draws the smaller ticket. -/
theorem ticket_lt_of_isFinished {earlier later : List Move} {middle : Machine}
    (run : run? setup {} earlier = some middle) {first second one two : Nat}
    (drewFirst : (Machine.holders setup {} (earlier ++ later))[one]? = some first)
    (drewSecond : (Machine.holders setup {} (earlier ++ later))[two]? = some second)
    (called : middle.calls[first]? = some call) (finished : call.isFinished)
    (started : middle.calls.length ≤ second) : one < two := by
  rw [holders_append run] at drewFirst drewSecond
  have before : one < (Machine.holders setup {} earlier).length := by
    refine Nat.lt_of_not_le fun outside => ?_
    rw [List.getElem?_append_right outside] at drewFirst
    exact not_mem_holders_of_isFinished called finished (List.mem_of_getElem? drewFirst)
  have after : (Machine.holders setup {} earlier).length ≤ two := by
    refine Nat.le_of_not_lt fun inside => ?_
    rw [List.getElem?_append_left inside] at drewSecond
    have known := (orderly_of_run run).started second (List.mem_of_getElem? drewSecond)
    exact absurd started (Nat.not_le.2 known)
  exact Nat.lt_of_lt_of_le before after

structure Linearizes (setup : Setup) (moves : List Move) (machine : Machine) : Prop where
  /-- Every ticket was drawn by one call. -/
  drawn : (Machine.holders setup {} moves).length = machine.books.sequencer.issued
  /-- No call drew two tickets. -/
  once : (Machine.holders setup {} moves).Nodup
  /-- A call that holds a ticket is the one that drew it. -/
  held : ∀ index ticket, machine.ticketOf? index = some ticket →
    (Machine.holders setup {} moves)[ticket]? = some index
  /-- Every call whose ticket is retired is committed to a mutation that fits its command. -/
  fits : ∀ index ∈ (Machine.holders setup {} moves).take machine.books.sequencer.serving,
    ∃ call mutation, machine.calls[index]? = some call ∧
      machine.mutationOf? index = some mutation ∧ mutation.Serves call.command
  /-- While nobody has the turn, the registries are those that these mutations lead to. -/
  replayed : machine.books.sequencer.turn = none → machine.books.registries =
    Registries.replay (machine.mutations
      ((Machine.holders setup {} moves).take machine.books.sequencer.serving))
  /-- A call that is finished before another one starts has the smaller ticket. -/
  ordered : ∀ earlier later middle, moves = earlier ++ later →
    run? setup {} earlier = some middle → ∀ (first second one two : Nat) (call : Call),
    (Machine.holders setup {} moves)[one]? = some first →
    (Machine.holders setup {} moves)[two]? = some second →
    middle.calls[first]? = some call → call.isFinished → middle.calls.length ≤ second → one < two

/-- Every run takes effect in ticket order. -/
theorem run_linearizes (run : run? setup {} moves = some machine) :
    Linearizes setup moves machine where
  drawn := (orderly_of_run run).drawn
  once := (committed_of_run run).once
  held index ticket holds := (((orderly_of_run run).held index ticket).1 holds).2
  fits index member := by
    have settled := (committed_of_run run).isSome_of_applied (orderly_of_run run) index
      (List.take_subset_take_left _ (Nat.le_add_right _ _) member)
    obtain ⟨mutation, committed⟩ := Option.isSome_iff_exists.1 settled
    obtain ⟨call, called, commits⟩ := Option.bind_eq_some_iff.1 committed
    exact ⟨call, mutation, called, committed, (committed_of_run run).fits called mutation commits⟩
  replayed idle := by
    have still : machine.isChanging = false := by
      rw [← Bool.not_eq_true, isChanging_iff]
      rintro ⟨index, call, called, changed⟩
      obtain ⟨ticket, -, -, -, has⟩ := exists_of_isChanged called changed
      rw [((orderly_of_run run).turns ticket).2 ⟨index, has⟩] at idle
      cases idle
    have replayed := replayed_of_run run
    rwa [Replayed, applied, still, Bool.toNat_false, Nat.add_zero] at replayed
  ordered := by
    rintro earlier later middle rfl ran first second one two call drewFirst drewSecond
    exact ticket_lt_of_isFinished ran drewFirst drewSecond

/-- A block is allocated; its free breaks off, while the ticket of a second block is drawn. -/
def overtaking : List Move :=
  [.start (.allocate 8 .host), .advance 0, .grant 0 (.granted ⟨48, by decide⟩), .advance 0,
    .advance 0, .advance 0, .advance 0,
    .start (.deallocate 48 8 .host), .advance 1, .advance 1,
    .start (.allocate 4 .device), .advance 2, .grant 2 (.granted ⟨64, by decide⟩), .advance 2,
    .reply 1 (.raised "lost"), .advance 1, .advance 1, .advance 1, .advance 2, .advance 2,
    .advance 2]

/-- A run in which the backend of a later ticket is done first takes effect in ticket order. -/
theorem overtaking_linearizes : ∃ machine,
    run? (.standard .unchecked) {} overtaking = some machine ∧
    machine.books.sequencer.serving = 3 ∧ machine.books.sequencer.turn = none ∧
    Linearizes (.standard .unchecked) overtaking machine := by
  have ran : (run? (.standard .unchecked) {} overtaking).map (fun machine =>
      (machine.books.sequencer.serving, machine.books.sequencer.turn)) = some (3, none) := by
    decide +kernel
  obtain ⟨machine, run, shape⟩ := Option.map_eq_some_iff.1 ran
  obtain ⟨serving, idle⟩ := Prod.mk.inj shape
  exact ⟨machine, run, serving, idle, run_linearizes run⟩

end Machine

end TrackedMemory
