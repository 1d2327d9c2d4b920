import TrackedMemory.Proofs.Concurrent.Runs

/-!
# Who holds which ticket

A call draws at most one ticket and retires it in its turn. A machine is orderly for the calls that
drew its tickets if every ticket from the one being served on is held by the call that drew it, no
other call holds a ticket, and the turn is that of the ticket being served. Every run leads to an
orderly machine.
-/

namespace TrackedMemory

namespace Phase

def turn? : Phase → Option Nat
  | .inTurn ticket _ | .changed ticket .. => some ticket
  | _ => none

inductive Handles (books : Sequencer) (phase : Phase) (after : Sequencer) (next : Phase) : Prop
  | keep (sequencer : after = books) (ticket : next.ticket? = phase.ticket?)
      (turn : next.turn? = phase.turn?)
  | draw (sequencer : after = books.draw) (before : phase.ticket? = none)
      (waits : phase.turn? = none) (ticket : next.ticket? = some books.issued)
      (turn : next.turn? = none)
  | enter (sequencer : after = { books with turn := some books.serving })
      (free : books.turn = none) (before : phase.ticket? = some books.serving)
      (waits : phase.turn? = none) (ticket : next.ticket? = some books.serving)
      (turn : next.turn? = some books.serving)
  | retire (served : Nat) (sequencer : after = books.retire)
      (before : phase.ticket? = some served) (had : phase.turn? = some served)
      (ticket : next.ticket? = none) (turn : next.turn? = none)

variable {setup : Setup} {books after : Books} {phase next : Phase} {trace : Trace}

theorem ticket?_of_isAside (aside : phase.isAside) : phase.ticket? = none := by
  cases phase <;> first | rfl | cases aside

theorem turn?_of_isAside (aside : phase.isAside) : phase.turn? = none := by
  cases phase <;> first | rfl | cases aside

theorem ticket?_of_turn? {ticket : Nat} (has : phase.turn? = some ticket) :
    phase.ticket? = some ticket := by
  cases phase <;> first | exact has | cases has

theorem ticket?_afterTurn (setup : Setup) (ticket : Nat) (change : Change)
    (result : Except Fault Unit) : (afterTurn setup ticket change result).ticket? = none := by
  cases result with
  | error fault => cases change <;> rfl
  | ok =>
    cases change with
    | register area ptr bytes =>
      simp only [afterTurn]
      split <;> rfl
    | deregister | nothing => rfl

theorem turn?_eq_none_of_ticket? (free : phase.ticket? = none) : phase.turn? = none := by
  cases phase <;> first | rfl | cases free

theorem ticket?_afterSearch (setup : Setup) (area : Area) (ptr : Ptr) (found : Option Area) :
    (afterSearch setup area ptr found).ticket? = none := by
  simp only [afterSearch]
  split <;> rfl

/-- Every step keeps, draws or retires a ticket, or takes its turn. -/
theorem Step.handles (step : Step setup books phase after next trace) :
    Handles books.sequencer phase after.sequencer next := by
  cases step with
  | aside tally passes =>
    refine .keep rfl ?_ ?_
    · rw [ticket?_of_isAside passes.before, ticket?_of_isAside passes.after]
    · rw [turn?_of_isAside passes.before, turn?_of_isAside passes.after]
  | granted | found | freed | freeRaised | passOver => exact .keep rfl rfl rfl
  | drawToRegister | drawToFree => exact .draw rfl rfl rfl rfl rfl
  | enter ticket change free served =>
    subst served
    exact .enter rfl free rfl rfl rfl rfl
  | change ticket change => exact .keep change.apply_sequencer rfl rfl
  | leave ticket change result =>
    have free := ticket?_afterTurn setup ticket change result
    exact .retire ticket rfl rfl rfl free (turn?_eq_none_of_ticket? free)
  | confirm here area ptr =>
    have free := ticket?_afterSearch setup area ptr (some here)
    exact .keep rfl free (turn?_eq_none_of_ticket? free)
  | miss area ptr =>
    have free := ticket?_afterSearch setup area ptr none
    exact .keep rfl free (turn?_eq_none_of_ticket? free)

theorem Handles.ticket?_eq_some {sequencer later : Sequencer}
    (handles : Handles sequencer phase later next) {ticket : Nat}
    (holds : next.ticket? = some ticket) :
    phase.ticket? = some ticket ∨ phase.ticket? = none ∧ ticket = sequencer.issued := by
  cases handles with
  | keep same kept => exact .inl (kept ▸ holds)
  | draw drawn before waits new =>
    rw [new] at holds
    exact .inr ⟨before, (Option.some.inj holds).symm⟩
  | enter entered free before waits held =>
    rw [held] at holds
    exact .inl (before.trans holds)
  | retire served retired before had gone =>
    rw [gone] at holds
    cases holds

end Phase

namespace Machine

variable {setup : Setup} {machine : Machine} {holders : List Nat} {index : Nat} {call : Call}
  {books : Books} {phase : Phase} {trace : Trace}

def ticketOf? (machine : Machine) (index : Nat) : Option Nat :=
  machine.calls[index]?.bind fun call => call.phase.ticket?

def turnOf? (machine : Machine) (index : Nat) : Option Nat :=
  machine.calls[index]?.bind fun call => call.phase.turn?

/-- Every ticket that is not retired is held by the call that drew it. -/
structure Orderly (machine : Machine) (holders : List Nat) : Prop where
  /-- Every ticket was drawn by one call. -/
  drawn : holders.length = machine.books.sequencer.issued
  /-- Only tickets that were drawn are retired. -/
  served : machine.books.sequencer.serving ≤ machine.books.sequencer.issued
  /-- The calls that drew tickets were started. -/
  started : ∀ index ∈ holders, index < machine.calls.length
  /-- The tickets that are held are those that are not retired. -/
  held : ∀ index ticket, machine.ticketOf? index = some ticket ↔
    machine.books.sequencer.serving ≤ ticket ∧ holders[ticket]? = some index
  /-- The turn is that of a call. -/
  turns : ∀ ticket, machine.books.sequencer.turn = some ticket ↔
    ∃ index, machine.turnOf? index = some ticket
  /-- The turn is that of the ticket being served. -/
  due : ∀ ticket, machine.books.sequencer.turn = some ticket →
    ticket = machine.books.sequencer.serving

theorem ticketOf?_of_turnOf? {ticket : Nat} (has : machine.turnOf? index = some ticket) :
    machine.ticketOf? index = some ticket := by
  obtain ⟨call, called, turn⟩ := Option.bind_eq_some_iff.1 has
  exact Option.bind_eq_some_iff.2 ⟨call, called, Phase.ticket?_of_turn? turn⟩

@[simp] theorem ticketOf?_start (command : Command) :
    (machine.start command).ticketOf? = machine.ticketOf? :=
  funext (bind_getElem?_start rfl)

@[simp] theorem turnOf?_start (command : Command) :
    (machine.start command).turnOf? = machine.turnOf? :=
  funext (bind_getElem?_start rfl)

theorem ticketOf?_goOn (called : machine.calls[index]? = some call) (other : Nat) :
    (machine.goOn index call books phase trace).ticketOf? other =
      if other = index then phase.ticket? else machine.ticketOf? other :=
  bind_getElem?_goOn (fun call => call.phase.ticket?) called other

theorem turnOf?_goOn (called : machine.calls[index]? = some call) (other : Nat) :
    (machine.goOn index call books phase trace).turnOf? other =
      if other = index then phase.turn? else machine.turnOf? other :=
  bind_getElem?_goOn (fun call => call.phase.turn?) called other

theorem ticketOf?_goOn_of_eq (called : machine.calls[index]? = some call)
    (ticket : phase.ticket? = call.phase.ticket?) :
    (machine.goOn index call books phase trace).ticketOf? = machine.ticketOf? :=
  funext (bind_getElem?_goOn_of_eq called ticket)

theorem turnOf?_goOn_of_eq (called : machine.calls[index]? = some call)
    (turn : phase.turn? = call.phase.turn?) :
    (machine.goOn index call books phase trace).turnOf? = machine.turnOf? :=
  funext (bind_getElem?_goOn_of_eq called turn)

theorem Orderly.lt_issued (orderly : machine.Orderly holders)
    (called : machine.calls[index]? = some call) {ticket : Nat}
    (holds : call.phase.ticket? = some ticket) : ticket < machine.books.sequencer.issued := by
  have held : machine.ticketOf? index = some ticket := by
    rw [ticketOf?, called, Option.bind_some, holds]
  rw [← orderly.drawn]
  exact lt_length_of_getElem? ((orderly.held index ticket).1 held).2

theorem orderly_empty : Orderly {} [] where
  drawn := rfl
  served := Nat.le_refl 0
  started := by simp
  held := by simp [ticketOf?]
  turns := by simp [turnOf?]
  due := by simp

namespace Orderly

theorem start (orderly : machine.Orderly holders) (command : Command) :
    (machine.start command).Orderly holders where
  drawn := orderly.drawn
  served := orderly.served
  started index member := by
    have before := orderly.started index member
    simp only [Machine.start, List.length_append, List.length_singleton]
    omega
  held := by simpa using orderly.held
  turns := by simpa using orderly.turns
  due := orderly.due

theorem eq_of_ticketOf? (orderly : machine.Orderly holders) {first second ticket : Nat}
    (left : machine.ticketOf? first = some ticket)
    (right : machine.ticketOf? second = some ticket) : first = second := by
  have there := ((orderly.held first ticket).1 left).2
  rw [((orderly.held second ticket).1 right).2] at there
  exact (Option.some.inj there).symm

/-- The call that holds the ticket being served is the one that drew it. -/
theorem getElem?_of_turn (orderly : machine.Orderly holders) {ticket : Nat}
    (has : machine.turnOf? index = some ticket) :
    ticket = machine.books.sequencer.serving ∧ holders[ticket]? = some index :=
  ⟨orderly.due ticket ((orderly.turns ticket).2 ⟨index, has⟩),
    ((orderly.held index ticket).1 (ticketOf?_of_turnOf? has)).2⟩

/-! ## One step of one call -/

section Step

theorem started_goOn (orderly : machine.Orderly holders) : ∀ other ∈ holders,
    other < (machine.goOn index call books phase trace).calls.length := by
  intro other member
  rw [Machine.goOn, List.length_set]
  exact orderly.started other member

variable (orderly : machine.Orderly holders) (called : machine.calls[index]? = some call)
include orderly called

theorem keep (sequencer : books.sequencer = machine.books.sequencer)
    (ticket : phase.ticket? = call.phase.ticket?) (turn : phase.turn? = call.phase.turn?) :
    (machine.goOn index call books phase trace).Orderly holders := by
  constructor
  case drawn =>
    rw [books_goOn, sequencer, orderly.drawn]
  case served =>
    rw [books_goOn, sequencer]
    exact orderly.served
  case started =>
    exact orderly.started_goOn
  case held =>
    rw [books_goOn, sequencer, ticketOf?_goOn_of_eq called ticket]
    exact orderly.held
  case turns =>
    rw [books_goOn, sequencer, turnOf?_goOn_of_eq called turn]
    exact orderly.turns
  case due =>
    rw [books_goOn, sequencer]
    exact orderly.due

theorem draw (sequencer : books.sequencer = machine.books.sequencer.draw)
    (before : call.phase.ticket? = none) (waits : call.phase.turn? = none)
    (ticket : phase.ticket? = some machine.books.sequencer.issued)
    (turn : phase.turn? = none) :
    (machine.goOn index call books phase trace).Orderly (holders ++ [index]) := by
  have free : machine.ticketOf? index = none := by simp [ticketOf?, called, before]
  constructor
  case drawn =>
    rw [books_goOn, sequencer, List.length_append, orderly.drawn]
    rfl
  case served =>
    rw [books_goOn, sequencer]
    exact Nat.le_succ_of_le orderly.served
  case started =>
    intro other member
    obtain member | rfl := by simpa using member
    · exact orderly.started_goOn other member
    · rw [Machine.goOn, List.length_set]
      exact lt_length_of_getElem? called
  case held =>
    intro other held
    rw [ticketOf?_goOn called, books_goOn, sequencer, Sequencer.draw,
      getElem?_concat_eq_some_iff, orderly.drawn]
    split
    next same =>
      subst same
      rw [ticket]
      constructor
      · intro issued
        cases issued
        exact ⟨orderly.served, .inr ⟨rfl, rfl⟩⟩
      · rintro ⟨pending, there | ⟨last, -⟩⟩
        · -- The call would have held this ticket before.
          rw [(orderly.held other held).2 ⟨pending, there⟩] at free
          cases free
        · rw [last]
    next differ =>
      rw [orderly.held]
      exact and_congr_right fun _ => (or_iff_left fun added => differ added.2.symm).symm
  case turns =>
    rw [books_goOn, sequencer, turnOf?_goOn_of_eq called (turn.trans waits.symm)]
    exact orderly.turns
  case due =>
    rw [books_goOn, sequencer]
    exact orderly.due

theorem enter (sequencer : books.sequencer =
      { machine.books.sequencer with turn := some machine.books.sequencer.serving })
    (unused : machine.books.sequencer.turn = none)
    (before : call.phase.ticket? = some machine.books.sequencer.serving)
    (ticket : phase.ticket? = some machine.books.sequencer.serving)
    (turn : phase.turn? = some machine.books.sequencer.serving) :
    (machine.goOn index call books phase trace).Orderly holders := by
  have nobody : ∀ other held, machine.turnOf? other ≠ some held := by
    intro other held has
    rw [(orderly.turns held).2 ⟨other, has⟩] at unused
    cases unused
  constructor
  case drawn =>
    rw [books_goOn, sequencer, orderly.drawn]
  case served =>
    rw [books_goOn, sequencer]
    exact orderly.served
  case started =>
    exact orderly.started_goOn
  case held =>
    rw [books_goOn, sequencer, ticketOf?_goOn_of_eq called (ticket.trans before.symm)]
    exact orderly.held
  case turns =>
    intro held
    rw [books_goOn, sequencer]
    constructor
    · intro has
      exact ⟨index, by rw [turnOf?_goOn called, if_pos rfl, turn]; exact has⟩
    · rintro ⟨other, has⟩
      rw [turnOf?_goOn called] at has
      split at has
      · rw [← has, turn]
      · exact absurd has (nobody other held)
  case due =>
    intro held has
    rw [books_goOn, sequencer] at has ⊢
    exact (Option.some.inj has).symm

theorem retire {served : Nat} (sequencer : books.sequencer = machine.books.sequencer.retire)
    (had : call.phase.turn? = some served) (ticket : phase.ticket? = none)
    (turn : phase.turn? = none) :
    (machine.goOn index call books phase trace).Orderly holders := by
  have has : machine.turnOf? index = some served := by simp [turnOf?, called, had]
  obtain ⟨rfl, mine⟩ := orderly.getElem?_of_turn has
  have inside := lt_length_of_getElem? mine
  constructor
  case drawn =>
    rw [books_goOn, sequencer, orderly.drawn]
    rfl
  case served =>
    rw [books_goOn, sequencer]
    exact orderly.drawn ▸ inside
  case started =>
    exact orderly.started_goOn
  case held =>
    intro other held
    rw [ticketOf?_goOn called, books_goOn, sequencer, Sequencer.retire]
    split
    next same =>
      subst same
      rw [ticket]
      constructor
      · intro nothing
        cases nothing
      · rintro ⟨pending, there⟩
        -- The call holds one ticket, the one that it retires.
        have held := (orderly.held other held).2 ⟨Nat.le_of_succ_le pending, there⟩
        rw [ticketOf?_of_turnOf? has] at held
        cases held
        exact absurd pending (Nat.not_succ_le_self _)
    next differ =>
      rw [orderly.held]
      refine and_congr_left fun there => ?_
      constructor
      · intro pending
        refine Nat.lt_of_le_of_ne pending fun same => differ ?_
        rw [← same, mine] at there
        exact (Option.some.inj there).symm
      · exact Nat.le_of_succ_le
  case turns =>
    intro held
    rw [books_goOn, sequencer, Sequencer.retire]
    constructor
    · intro nothing
      cases nothing
    · rintro ⟨other, there⟩
      rw [turnOf?_goOn called] at there
      split at there
      next =>
        rw [turn] at there
        cases there
      next differ =>
        obtain ⟨rfl, theirs⟩ := orderly.getElem?_of_turn there
        rw [mine] at theirs
        exact absurd (Option.some.inj theirs).symm differ
  case due =>
    intro held has
    rw [books_goOn, sequencer] at has
    cases has

end Step

theorem goOn (orderly : machine.Orderly holders) (called : machine.calls[index]? = some call)
    (step : Phase.Step setup machine.books call.phase books phase trace) :
    (machine.goOn index call books phase trace).Orderly
      (holders ++ Machine.drawn machine.books books (some index)) := by
  cases step.handles with
  | keep sequencer ticket turn =>
    rw [drawn_eq_nil (by rw [sequencer]), List.append_nil]
    exact orderly.keep called sequencer ticket turn
  | draw sequencer before waits ticket turn =>
    rw [Machine.drawn, if_pos (by simp [sequencer, Sequencer.draw])]
    exact orderly.draw called sequencer before waits ticket turn
  | enter sequencer unused before waits ticket turn =>
    rw [drawn_eq_nil (by rw [sequencer]), List.append_nil]
    exact orderly.enter called sequencer unused before ticket turn
  | retire served sequencer before had ticket turn =>
    rw [drawn_eq_nil (by rw [sequencer]; rfl), List.append_nil]
    exact orderly.retire called sequencer had ticket turn

end Orderly

/-- Every run leads to a machine that is orderly for the calls that drew its tickets. -/
theorem orderly_of_run {moves : List Move} (run : run? setup {} moves = some machine) :
    machine.Orderly (Machine.holders setup {} moves) :=
  run_invariant (P := fun holders machine => machine.Orderly holders) orderly_empty
    (fun command _ orderly => orderly.start command)
    (fun _ orderly called step => orderly.goOn called step) run

theorem Reachable.exists_orderly (reachable : Reachable setup machine) :
    ∃ holders, machine.Orderly holders := by
  obtain ⟨moves, run⟩ := reachable_iff_run?.1 reachable
  exact ⟨_, orderly_of_run run⟩

end Machine

end TrackedMemory
