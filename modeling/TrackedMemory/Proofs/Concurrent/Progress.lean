import TrackedMemory.Proofs.Concurrent.Commitments

/-!
# No ticket is stranded

The ticket being served is held by one unfinished call, and that call is inside its backend or can
go on at once. So calls never wait for each other in a circle: while no call is inside its backend,
some unfinished call can go on, and when all calls are finished every ticket is retired. A call that
draws no ticket runs to its end by itself, whatever the others do.
-/

namespace TrackedMemory

theorem Mutation.Serves.drawsTicket {mutation : Mutation} {command : Command}
    (serves : mutation.Serves command) : command.drawsTicket = true := by
  cases mutation with
  | register area ptr bytes =>
    cases serves
    rfl
  | deregister area ptr =>
    obtain ⟨given, rfl⟩ := serves
    rfl
  | nothing =>
    obtain ⟨addr, given, space, rfl⟩ := serves
    rfl

namespace Phase

variable {setup : Setup} {books after : Books} {phase next : Phase} {trace : Trace}
  {command : Command}

def isInFree : Phase → Bool
  | .inFree .. => true
  | _ => false

/-- A call that holds the ticket being served is inside its backend, or can go on unless another
call has the turn. -/
theorem isInFree_or_act? (setup : Setup) (holds : phase.ticket? = some books.sequencer.serving)
    (free : phase.turn? = none → books.sequencer.turn = none) :
    phase.isInFree ∨ (phase.act? setup books).isSome := by
  cases phase with
  | inFree => exact .inl rfl
  | queued ticket change =>
    cases holds
    exact .inr (by simp [act?, Sequencer.enter?, free rfl])
  | inTurn | changed => exact .inr rfl
  | _ => cases holds

/-- A call without a ticket is finished, inside its backend, or can go on. -/
theorem act?_of_ticket?_eq_none (setup : Setup) (books : Books) (free : phase.ticket? = none)
    (outside : phase.isInBackend = false)
    (pending : ∀ result, phase ≠ .finished result) : (phase.act? setup books).isSome := by
  cases phase with
  | searching addr rest purpose => cases rest <;> rfl
  | checking transfer side rest => cases rest <;> rfl
  | surveying query rest seen => cases rest <;> rfl
  | entered | granted | found | measuring => rfl
  | inFree | queued | inTurn | changed => cases free
  | inAlloc | inCopy => cases outside
  | finished result => exact absurd rfl (pending result)

theorem drawsTicket_of_serves (serves : phase.Serves command) (busy : phase.isAside = false) :
    command.drawsTicket = true := by
  cases phase with
  | granted =>
    cases serves
    rfl
  | found | inFree =>
    obtain ⟨given, rfl⟩ := serves
    rfl
  | queued | inTurn | changed => exact Mutation.Serves.drawsTicket serves
  | searching addr rest purpose =>
    cases purpose with
    | confirm =>
      cases serves
      rfl
    | space | size => cases busy
  | _ => cases busy

/-- A step of a call whose command draws no ticket changes the tally alone. -/
theorem Step.of_ticketless (step : Step setup books phase after next trace)
    (serves : phase.Serves command) (ticketless : command.drawsTicket = false) :
    ∃ tally, after = { books with tally } := by
  cases aside : phase.isAside with
  | false =>
    rw [drawsTicket_of_serves serves aside] at ticketless
    cases ticketless
  | true =>
    cases step with
    | aside tally => exact ⟨tally, rfl⟩
    | granted =>
      cases serves.2
      cases ticketless
    | found =>
      cases serves
      cases ticketless
    | _ => cases aside

/-- A call whose command draws no ticket is finished, can go on, or waits for a copy of its
backend. -/
theorem goes_on (setup : Setup) (books : Books) (serves : phase.Serves command)
    (ticketless : command.drawsTicket = false) :
    (∃ result, phase = .finished result) ∨ (∃ act, phase.act? setup books = some act) ∨
      ∀ reply, ∃ act, phase.reply? reply = some act := by
  have aside : phase.isAside = true := by
    rw [← Bool.not_eq_false]
    intro busy
    rw [drawsTicket_of_serves serves busy] at ticketless
    cases ticketless
  cases phase with
  | finished result => exact .inl ⟨result, rfl⟩
  | inCopy => exact .inr (.inr fun reply => ⟨_, rfl⟩)
  | inAlloc =>
    cases serves.2
    cases ticketless
  | granted | found | inFree | queued | inTurn | changed => cases aside
  | _ =>
    refine .inr (.inl (Option.isSome_iff_exists.1 (act?_of_ticket?_eq_none setup books ?_ rfl ?_)))
    · exact ticket?_of_isAside aside
    · simp

end Phase

def Books.TurnsDown (books : Books) : Command → Prop
  | .allocate bytes space => ∃ reason, allocationArea bytes space = .error reason
  | .deallocate addr _ space =>
      (∃ reason, deallocationTarget addr space = .error reason) ∨
        ∃ ptr area, deallocationTarget addr space = .ok (ptr, area) ∧
          (books.registries.get area).sizeOf ptr.addr = 0
  | .copy _ | .query _ => False

theorem Books.TurnsDown.enter {books : Books} {command : Command}
    (turnsDown : books.TurnsDown command) (setup : Setup) :
    ∃ answer tally, (Phase.enter setup command books).result = .ok (.finished (.ok answer)) ∧
      (Phase.enter setup command books).state = { books with tally } := by
  cases command with
  | allocate bytes space =>
    obtain ⟨reason, refused⟩ := turnsDown
    have done := Phase.refuse_apply setup books
      (fun tally => { tally with allocations := tally.allocations + 1 }) reason (.block none)
    simp only [Phase.enter, refused]
    exact ⟨_, _, congrArg Outcome.result done, congrArg Outcome.state done⟩
  | deallocate addr bytes space =>
    rcases turnsDown with ⟨reason, refused⟩ | ⟨ptr, area, target, unknown⟩
    · have done := Phase.refuse_apply setup books
        (fun tally => { tally with deallocations := tally.deallocations + 1 }) reason
        (.verdict false)
      simp only [Phase.enter, refused]
      exact ⟨_, _, congrArg Outcome.result done, congrArg Outcome.state done⟩
    · obtain ⟨rfl, rfl⟩ := deallocationTarget_eq_ok_iff.1 target
      have refused := Phase.enter_unknown setup bytes unknown
      exact ⟨_, _, congrArg Outcome.result refused, congrArg Outcome.state refused⟩
  | copy | query => cases turnsDown

namespace Machine

variable {setup : Setup} {machine : Machine} {holders : List Nat} {moves : List Move}
  {index : Nat} {call : Call}

theorem isSome_move?_advance (called : machine.calls[index]? = some call)
    (acts : (call.phase.act? setup machine.books).isSome) :
    (machine.move? setup (.advance index)).isSome := by
  obtain ⟨act, acts⟩ := Option.isSome_iff_exists.1 acts
  rw [move?_advance called acts]
  rfl

/-- The ticket being served is held by one unfinished call, which is inside its backend or can go on
at once. -/
theorem Orderly.exists_serving (orderly : machine.Orderly holders) (setup : Setup)
    (pending : machine.books.sequencer.serving < machine.books.sequencer.issued) :
    ∃ index call, machine.calls[index]? = some call ∧
      call.phase.ticket? = some machine.books.sequencer.serving ∧ call.isFinished = false ∧
      (∀ other, machine.ticketOf? other = some machine.books.sequencer.serving → other = index) ∧
      (call.phase.isInFree ∨ (machine.move? setup (.advance index)).isSome) := by
  rw [← orderly.drawn] at pending
  have drew := List.getElem?_eq_getElem pending
  have holds := (orderly.held _ _).2 ⟨Nat.le_refl _, drew⟩
  obtain ⟨call, called, ticket⟩ := Option.bind_eq_some_iff.1 holds
  refine ⟨_, call, called, ticket, ?_, fun other theirs => orderly.eq_of_ticketOf? theirs holds, ?_⟩
  · rw [← Bool.not_eq_true, call.isFinished_iff]
    rintro ⟨result, ends⟩
    rw [ends] at ticket
    cases ticket
  · have goes : call.phase.isInFree ∨ (call.phase.act? setup machine.books).isSome := by
      refine Phase.isInFree_or_act? setup ticket fun waits => ?_
      cases turn : machine.books.sequencer.turn with
      | none => rfl
      | some taken =>
        -- The call that has the turn holds the ticket being served, so it would be this one.
        obtain ⟨other, has⟩ := (orderly.turns taken).1 turn
        cases orderly.due taken turn
        cases orderly.eq_of_ticketOf? (ticketOf?_of_turnOf? has) holds
        rw [turnOf?, called, Option.bind_some, waits] at has
        cases has
    exact goes.imp_right fun acts => isSome_move?_advance called acts

theorem Orderly.ticket?_eq_none (orderly : machine.Orderly holders)
    (settled : machine.books.sequencer.issued ≤ machine.books.sequencer.serving)
    (called : machine.calls[index]? = some call) : call.phase.ticket? = none := by
  cases ticket : call.phase.ticket? with
  | none => rfl
  | some held =>
    have holds : machine.ticketOf? index = some held := by
      rw [ticketOf?, called, Option.bind_some, ticket]
    obtain ⟨pending, drew⟩ := (orderly.held index held).1 holds
    have inside := lt_length_of_getElem? drew
    have drawn := orderly.drawn
    omega

/-- While no call is inside its backend, some unfinished call can go on. -/
theorem Orderly.exists_advance (orderly : machine.Orderly holders)
    (outside : ∀ call ∈ machine.calls, call.phase.isInBackend = false)
    (unfinished : ∃ call ∈ machine.calls, call.isFinished = false) :
    ∃ index, (machine.move? setup (.advance index)).isSome := by
  by_cases pending : machine.books.sequencer.serving < machine.books.sequencer.issued
  · obtain ⟨index, call, called, -, -, -, inFree | moves⟩ :=
      orderly.exists_serving setup pending
    · have out := outside call (List.mem_of_getElem? called)
      cases phase : call.phase <;> simp_all [Phase.isInFree, Phase.isInBackend]
    · exact ⟨index, moves⟩
  · obtain ⟨call, member, unfinished⟩ := unfinished
    obtain ⟨index, called⟩ := List.mem_iff_getElem?.1 member
    have free := orderly.ticket?_eq_none (Nat.le_of_not_lt pending) called
    refine ⟨index, isSome_move?_advance called ?_⟩
    refine Phase.act?_of_ticket?_eq_none setup machine.books free (outside call member) ?_
    intro result ends
    rw [call.isFinished_iff.2 ⟨result, ends⟩] at unfinished
    cases unfinished

/-- Once all calls are finished, every ticket is retired. -/
theorem Orderly.serving_eq_issued (orderly : machine.Orderly holders)
    (finished : ∀ call ∈ machine.calls, call.isFinished) :
    machine.books.sequencer.serving = machine.books.sequencer.issued := by
  refine Nat.le_antisymm orderly.served (Nat.le_of_not_lt fun pending => ?_)
  -- The build plays no part here.
  obtain ⟨index, call, called, -, unfinished, -⟩ :=
    orderly.exists_serving (.standard .checked) pending
  rw [finished call (List.mem_of_getElem? called)] at unfinished
  cases unfinished

/-! ## Calls that draw no ticket -/

/-- A call can run to its end by itself, with one answer of its backend at most, and leaves the
registries and the sequencer as they are. -/
def EndsAlone (setup : Setup) (machine : Machine) (index : Nat) (reply : Reply Unit) : Prop :=
  ∃ moves after, (∀ move ∈ moves, move = .advance index ∨ move = .reply index reply) ∧
    machine.run? setup moves = some after ∧ (after.calls[index]?.any Call.isFinished) = true ∧
    after.books.sequencer = machine.books.sequencer ∧
    after.books.registries = machine.books.registries

/-- A call that can end alone after one more move of its own can end alone before it. -/
theorem EndsAlone.of_move {next : Machine} {move : Move} {reply : Reply Unit}
    (mine : move = .advance index ∨ move = .reply index reply)
    (moved : machine.move? setup move = some next)
    (tally : ∃ tally, next.books = { machine.books with tally })
    (ends : next.EndsAlone setup index reply) : machine.EndsAlone setup index reply := by
  obtain ⟨moves, after, own, run, finished, sequencer, registries⟩ := ends
  obtain ⟨tally, same⟩ := tally
  refine ⟨move :: moves, after, ?_, ?_, finished, ?_, ?_⟩
  · intro other member
    rcases List.mem_cons.1 member with rfl | member
    · exact mine
    · exact own other member
  · rw [run?_cons, moved, Option.bind_some, run]
  · rw [sequencer, same]
  · rw [registries, same]

theorem endsAlone_of_isFinished {reply : Reply Unit} (called : machine.calls[index]? = some call)
    (finished : call.isFinished) : machine.EndsAlone setup index reply :=
  ⟨[], machine, by simp, rfl, by simpa [called] using finished, rfl, rfl⟩

theorem endsAlone_of_ticketless (reply : Reply Unit) (called : machine.calls[index]? = some call)
    (serves : call.phase.Serves call.command) (ticketless : call.command.drawsTicket = false) :
    machine.EndsAlone setup index reply := by
  -- Every step lowers the number of steps that are left.
  induction left : call.phase.stepsLeft using Nat.strongRecOn generalizing machine call with
  | ind left ih =>
    subst left
    have further : ∀ {act : Act Books Phase} {move : Move},
        (move = .advance index ∨ move = .reply index reply) →
        Phase.Steps setup machine.books call.phase act →
        machine.move? setup move = some (machine.goOn index call (act machine.books).state
          (landing (act machine.books).result) (act machine.books).trace) →
        machine.EndsAlone setup index reply := by
      intro act move mine steps moved
      refine .of_move mine moved (steps.of_ticketless serves ticketless) ?_
      exact ih _ steps.stepsLeft_lt (getElem?_goOn_self called) (steps.serves serves) ticketless rfl
    rcases Phase.goes_on setup machine.books serves ticketless with
      ⟨result, ends⟩ | ⟨act, acts⟩ | replies
    · exact endsAlone_of_isFinished called (call.isFinished_iff.2 ⟨result, ends⟩)
    · exact further (.inl rfl) (Phase.steps_of_act? acts) (move?_advance called acts)
    · obtain ⟨act, acts⟩ := replies reply
      exact further (.inr rfl) (Phase.steps_of_reply? acts) (move?_reply called acts)

theorem endsAlone_of_turnsDown (reply : Reply Unit) (called : machine.calls[index]? = some call)
    (entered : call.phase = .entered call.command)
    (turnsDown : machine.books.TurnsDown call.command) :
    machine.EndsAlone setup index reply := by
  obtain ⟨answer, tally, result, state⟩ := turnsDown.enter setup
  have acts : call.phase.act? setup machine.books = some (Phase.enter setup call.command) := by
    rw [entered]
    rfl
  refine .of_move (.inl rfl) (move?_advance called acts) ⟨tally, state⟩ ?_
  refine endsAlone_of_isFinished (getElem?_goOn_self called) ?_
  rw [Call.isFinished, result]
  rfl

theorem ends_of_inAlloc {area : Area} {bytes : Size} {reply : Reply Ptr}
    (called : machine.calls[index]? = some call) (inside : call.phase = .inAlloc area bytes)
    (failed : ∀ ptr, reply ≠ .granted ptr) :
    ∃ after, machine.move? setup (.grant index reply) = some after ∧
      (after.calls[index]?.any Call.isFinished) = true ∧
      after.books.sequencer = machine.books.sequencer ∧
      after.books.registries = machine.books.registries := by
  cases reply with
  | granted ptr => exact absurd rfl (failed ptr)
  | refused failure =>
    refine ⟨_, move?_grant called (by rw [inside]; rfl), ?_, rfl, rfl⟩
    rw [getElem?_goOn_self called]
    rfl
  | raised reason =>
    refine ⟨_, move?_grant called (by rw [inside]; rfl), ?_, rfl, rfl⟩
    rw [getElem?_goOn_self called]
    rfl

/-- The calls that drew tickets are allocations and deallocations, and a finished call drew one
exactly if its backend gave it a block or was asked to free one. -/
theorem Committed.drew_iff (committed : machine.Committed holders)
    (called : machine.calls[index]? = some call) (finished : call.isFinished) :
    index ∈ holders ↔ call.trace.mutation?.isSome := by
  obtain ⟨result, ends⟩ := call.isFinished_iff.1 finished
  have commits := committed.commits called
  rwa [ends] at commits

theorem Committed.drawsTicket_of_mem (committed : machine.Committed holders)
    (called : machine.calls[index]? = some call) (serves : call.phase.Serves call.command)
    (drew : index ∈ holders) : call.command.drawsTicket = true := by
  have commits := committed.commits called
  cases aside : call.phase.isAside with
  | false => exact Phase.drawsTicket_of_serves serves aside
  | true =>
    cases finished : call.isFinished with
    | true =>
      obtain ⟨mutation, committed'⟩ := Option.isSome_iff_exists.1
        ((committed.drew_iff called finished).1 drew)
      exact (committed.fits called mutation committed').drawsTicket
    | false =>
      have pending : 0 < call.phase.stepsLeft := by
        rw [Nat.pos_iff_ne_zero, Ne, ← call.isFinished_iff_stepsLeft, finished]
        exact Bool.false_ne_true
      exact absurd drew (commits.of_isAside aside pending).1

/-- What keeps tickets from being stranded. -/
structure Flows (setup : Setup) (moves : List Move) (machine : Machine) : Prop where
  /-- The ticket being served is held by one unfinished call, which can go on unless it is inside
  its backend. -/
  served : machine.books.sequencer.serving < machine.books.sequencer.issued →
    ∃ index call, machine.calls[index]? = some call ∧
      call.phase.ticket? = some machine.books.sequencer.serving ∧ call.isFinished = false ∧
      (∀ other, machine.ticketOf? other = some machine.books.sequencer.serving → other = index) ∧
      (call.phase.isInFree ∨ (machine.move? setup (.advance index)).isSome)
  /-- While no call is inside its backend, some unfinished call can go on. -/
  unstuck : (∀ call ∈ machine.calls, call.phase.isInBackend = false) →
    (∃ call ∈ machine.calls, call.isFinished = false) →
    ∃ index, (machine.move? setup (.advance index)).isSome
  /-- Once all calls are finished, every ticket is retired. -/
  settled : (∀ call ∈ machine.calls, call.isFinished) →
    machine.books.sequencer.serving = machine.books.sequencer.issued
  /-- Copies and queries draw no ticket. -/
  drawers : ∀ index ∈ Machine.holders setup {} moves,
    ∃ call, machine.calls[index]? = some call ∧ call.command.drawsTicket
  /-- A finished call drew a ticket only if its backend gave it a block or was asked to free one. -/
  drew : ∀ index call, machine.calls[index]? = some call → call.isFinished →
    (index ∈ Machine.holders setup {} moves ↔ call.trace.mutation?.isSome)
  /-- Copies, queries and commands that are turned down can end by themselves. -/
  alone : ∀ index call, machine.calls[index]? = some call →
    call.command.drawsTicket = false ∨
      call.phase = .entered call.command ∧ machine.books.TurnsDown call.command →
    ∀ reply, machine.EndsAlone setup index reply
  /-- An allocation that the backend turns down, or in which it breaks off, ends at once. -/
  failed : ∀ index call area bytes reply, machine.calls[index]? = some call →
    call.phase = .inAlloc area bytes → (∀ ptr, reply ≠ .granted ptr) →
    ∃ after, machine.move? setup (.grant index reply) = some after ∧
      (after.calls[index]?.any Call.isFinished) = true ∧
      after.books.sequencer = machine.books.sequencer ∧
      after.books.registries = machine.books.registries

/-- No run strands a ticket. -/
theorem run_flows (run : run? setup {} moves = some machine) : Flows setup moves machine where
  served := (orderly_of_run run).exists_serving setup
  unstuck := (orderly_of_run run).exists_advance
  settled := (orderly_of_run run).serving_eq_issued
  drawers index member := by
    have called := List.getElem?_eq_getElem ((orderly_of_run run).started index member)
    have reachable : Reachable setup machine := reachable_iff_run?.2 ⟨moves, run⟩
    exact ⟨_, called, (committed_of_run run).drawsTicket_of_mem called
      (reachable.allServe called) member⟩
  drew index call := (committed_of_run run).drew_iff
  alone := by
    rintro index call called (ticketless | ⟨entered, turnsDown⟩) reply
    · have reachable : Reachable setup machine := reachable_iff_run?.2 ⟨moves, run⟩
      exact endsAlone_of_ticketless reply called (reachable.allServe called) ticketless
    · exact endsAlone_of_turnsDown reply called entered turnsDown
  failed index call area bytes reply := ends_of_inAlloc

/-- A block is allocated and is being freed, and a second allocation waits for its turn. -/
def waiting : List Move :=
  [.start (.allocate 8 .host), .advance 0, .grant 0 (.granted ⟨112, by decide⟩), .advance 0,
    .advance 0, .advance 0, .advance 0, .advance 0, .advance 0,
    .start (.deallocate 112 8 .host), .advance 1, .advance 1,
    .start (.allocate 4 .device), .advance 2, .grant 2 (.granted ⟨32, by decide⟩), .advance 2]

/-- A run that leaves tickets pending strands none. -/
theorem waiting_flows : ∃ machine,
    run? (.standard .checked) {} waiting = some machine ∧
    machine.books.sequencer.serving = 1 ∧ machine.books.sequencer.issued = 3 ∧
    Flows (.standard .checked) waiting machine := by
  have ran : (run? (.standard .checked) {} waiting).map (fun machine =>
      (machine.books.sequencer.serving, machine.books.sequencer.issued)) = some (1, 3) := by
    decide +kernel
  obtain ⟨machine, run, shape⟩ := Option.map_eq_some_iff.1 ran
  obtain ⟨serving, issued⟩ := Prod.mk.inj shape
  exact ⟨machine, run, serving, issued, run_flows run⟩

end Machine

end TrackedMemory
