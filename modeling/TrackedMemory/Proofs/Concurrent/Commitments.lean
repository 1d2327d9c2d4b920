import TrackedMemory.Proofs.Concurrent.Tickets

/-!
# What a call is committed to

The trace of a call tells what its backend did, and with that the mutation to which the call is
committed. The phase of a call, the draw of a ticket and its commitment go together: a new block
commits the call before it draws, a block to be freed only after the backend has answered, and a
finished call drew a ticket exactly if it was committed to a mutation.
-/

namespace TrackedMemory

namespace Phase

variable {setup : Setup} {books after : Books} {phase next : Phase} {trace : Trace}
  {drew : Prop} {mutation? : Option Mutation}

/-- How a phase goes with the draw of a ticket and with a commitment. -/
def Commits (drew : Prop) (mutation? : Option Mutation) : Phase → Prop
  | .granted area ptr bytes => ¬drew ∧ mutation? = some (.register area ptr bytes)
  | .inFree .. => drew ∧ mutation? = none
  | .queued _ change | .inTurn _ change | .changed _ change _ =>
      drew ∧ mutation? = some change.mutation
  | .searching _ _ (.confirm area ptr bytes _) =>
      drew ∧ mutation? = some (.register area ptr bytes)
  | .finished _ => drew ↔ mutation?.isSome
  | _ => ¬drew ∧ mutation? = none

theorem commits_of_isAside (aside : phase.isAside) (undrawn : ¬drew) :
    phase.Commits drew none := by
  cases phase with
  | searching addr rest purpose => cases purpose <;> first | exact ⟨undrawn, rfl⟩ | cases aside
  | finished result => simpa [Commits] using undrawn
  | _ => first | exact ⟨undrawn, rfl⟩ | cases aside

theorem Commits.of_isAside (commits : phase.Commits drew mutation?) (aside : phase.isAside)
    (pending : 0 < phase.stepsLeft) : ¬drew ∧ mutation? = none := by
  cases phase with
  | searching addr rest purpose => cases purpose <;> first | exact commits | cases aside
  | finished result => cases pending
  | _ => first | exact commits | cases aside

theorem commits_afterTurn (ticket : Nat) (change : Change) (result : Except Fault Unit)
    (done : drew) : (afterTurn setup ticket change result).Commits drew change.mutation := by
  cases result with
  | error fault => cases change <;> simpa [afterTurn, Commits] using done
  | ok =>
    cases change with
    | register area ptr bytes =>
      simp only [afterTurn]
      split
      · exact ⟨done, rfl⟩
      · simpa [Commits] using done
    | deregister | nothing => simpa [afterTurn, Commits] using done

theorem commits_afterSearch (area : Area) (ptr : Ptr) (found : Option Area) {mutation : Mutation}
    (done : drew) : (afterSearch setup area ptr found).Commits drew mutation := by
  simp only [afterSearch]
  split <;> simpa [Commits] using done

/-- Every step keeps phase, draw and commitment together. -/
theorem Step.commits (step : Step setup books phase after next trace)
    (commits : phase.Commits drew mutation?) :
    next.Commits (drew ∨ books.sequencer.issued < after.sequencer.issued)
      (mutation?.or trace.mutation?) := by
  cases step with
  | aside tally passes silent =>
    obtain ⟨undrawn, rfl⟩ := commits.of_isAside passes.before
      (Nat.zero_lt_of_lt passes.sooner)
    rw [silent]
    exact commits_of_isAside passes.after (by simpa using undrawn)
  | granted area ptr bytes =>
    obtain ⟨undrawn, rfl⟩ := commits
    exact ⟨by simpa using undrawn, by cases area <;> rfl⟩
  | drawToRegister area ptr bytes =>
    obtain ⟨-, rfl⟩ := commits
    exact ⟨.inr (Nat.lt_succ_self _), rfl⟩
  | found area ptr given bytes known silent =>
    obtain ⟨undrawn, rfl⟩ := commits
    exact ⟨by simpa using undrawn, silent⟩
  | drawToFree area ptr bytes =>
    obtain ⟨-, rfl⟩ := commits
    exact ⟨.inr (Nat.lt_succ_self _), rfl⟩
  | freed tally ticket area ptr bytes done committed =>
    obtain ⟨drawn, rfl⟩ := commits
    exact ⟨.inl drawn, committed⟩
  | freeRaised ticket area ptr bytes reason committed =>
    obtain ⟨drawn, rfl⟩ := commits
    exact ⟨.inl drawn, committed⟩
  | enter | change | passOver =>
    obtain ⟨drawn, rfl⟩ := commits
    exact ⟨.inl drawn, rfl⟩
  | leave ticket change result silent =>
    obtain ⟨drawn, rfl⟩ := commits
    rw [Option.some_or]
    exact commits_afterTurn ticket change result (.inl drawn)
  | confirm here area ptr =>
    obtain ⟨drawn, rfl⟩ := commits
    rw [Option.some_or]
    exact commits_afterSearch area ptr (some here) (.inl drawn)
  | miss area ptr =>
    obtain ⟨drawn, rfl⟩ := commits
    rw [Option.some_or]
    exact commits_afterSearch area ptr none (.inl drawn)

theorem Step.undrawn (step : Step setup books phase after next trace)
    (commits : phase.Commits drew mutation?)
    (draws : books.sequencer.issued < after.sequencer.issued) : ¬drew := by
  cases step with
  | drawToRegister | drawToFree => exact commits.1
  | change ticket change =>
    rw [change.apply_sequencer] at draws
    exact absurd draws (Nat.lt_irrefl _)
  | _ => exact absurd draws (Nat.lt_irrefl _)

theorem Step.mutation_serves (step : Step setup books phase after next trace) {command : Command}
    (serves : phase.Serves command) (commits : phase.Commits drew none) {mutation : Mutation}
    (committed : trace.mutation? = some mutation) : mutation.Serves command := by
  cases step with
  | granted area ptr bytes =>
    have gives : Trace.mutation? [.called (.alloc area.space bytes) (.granted (some ptr))] =
        some (.register area ptr bytes) := by cases area <;> rfl
    rw [gives] at committed
    cases committed
    exact serves.2
  | freed tally ticket area ptr bytes done deregisters =>
    rw [deregisters] at committed
    cases committed
    exact serves
  | freeRaised ticket area ptr bytes reason nothing =>
    rw [nothing] at committed
    cases committed
    obtain ⟨given, deallocates⟩ := serves
    exact ⟨ptr.addr, given, area.space, deallocates⟩
  | aside tally passes silent =>
    rw [silent] at committed
    cases committed
  | found area ptr given bytes known silent =>
    rw [silent] at committed
    cases committed
  | drawToRegister | drawToFree | enter => cases committed
  | change | leave | confirm | miss | passOver => cases commits.2

end Phase

namespace Machine

variable {setup : Setup} {machine : Machine} {holders : List Nat} {moves : List Move}
  {index : Nat} {call : Call} {books : Books} {phase : Phase} {trace : Trace}

/-- The traces of all calls tell what they are committed to, and no call draws twice. -/
structure Committed (machine : Machine) (holders : List Nat) : Prop where
  once : holders.Nodup
  commits : ∀ {index : Nat} {call : Call}, machine.calls[index]? = some call →
    call.phase.Commits (index ∈ holders) call.trace.mutation?
  fits : machine.Every fun call => ∀ mutation, call.trace.mutation? = some mutation →
    mutation.Serves call.command

theorem committed_empty : Committed {} [] where
  once := .nil
  commits called := by simp at called
  fits := every_empty

theorem mem_drawn {before after : Books} {other : Nat} :
    other ∈ drawn before after (some index) ↔
      other = index ∧ before.sequencer.issued < after.sequencer.issued := by
  unfold drawn
  split <;> simp_all

namespace Committed

theorem start (committed : machine.Committed holders) (orderly : machine.Orderly holders)
    (command : Command) : (machine.start command).Committed holders where
  once := committed.once
  commits called := by
    rcases getElem?_start_eq_some.1 called with old | ⟨rfl, rfl⟩
    · exact committed.commits old
    · exact ⟨fun member => Nat.lt_irrefl _ (orderly.started _ member), rfl⟩
  fits := by
    refine committed.fits.start ?_
    intro mutation nothing
    cases nothing

theorem goOn (committed : machine.Committed holders)
    (serves : call.phase.Serves call.command) (called : machine.calls[index]? = some call)
    (step : Phase.Step setup machine.books call.phase books phase trace) :
    (machine.goOn index call books phase trace).Committed
      (holders ++ drawn machine.books books (some index)) where
  once := by
    refine List.nodup_append.2 ⟨committed.once, ?_, ?_⟩
    · unfold drawn
      split <;> simp
    · rintro other member new drawn rfl
      obtain ⟨rfl, draws⟩ := mem_drawn.1 drawn
      exact step.undrawn (committed.commits called) draws member
  commits := by
    intro other found there
    rw [getElem?_goOn called] at there
    rw [List.mem_append, mem_drawn]
    split at there
    next same =>
      subst same
      cases there
      simpa [Trace.mutation?_append] using step.commits (committed.commits called)
    next differ => simpa [differ] using committed.commits there
  fits := by
    refine every_goOn called ?_ fun _ there => committed.fits there
    intro mutation fits
    rw [Trace.mutation?_append] at fits
    have commits := committed.commits called
    cases before : call.trace.mutation? with
    | none =>
      rw [before] at fits commits
      exact step.mutation_serves serves commits fits
    | some old =>
      rw [before] at fits
      cases fits
      exact committed.fits called mutation before

end Committed

/-- After every run the traces of all calls tell what they are committed to. -/
theorem committed_of_run (run : run? setup {} moves = some machine) :
    machine.Committed (Machine.holders setup {} moves) := by
  refine run_invariant (P := fun holders machine => machine.Committed holders) committed_empty
    ?_ ?_ run
  · intro moves machine command run committed
    exact committed.start (orderly_of_run run) command
  · intro moves machine index call books phase trace run committed called step
    have reachable : Reachable setup machine := reachable_iff_run?.2 ⟨moves, run⟩
    exact committed.goOn (reachable.allServe called) called step

end Machine

end TrackedMemory
