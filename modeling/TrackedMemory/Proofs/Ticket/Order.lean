import TrackedMemory.Proofs.Lists
import TrackedMemory.Ticket.Desk

/-!
# Tickets are served in the order in which they were drawn

A session is a desk together with the tickets drawn from it and the retirements made at it, both in
the order in which they happened. Its holders move one at a time and in any order: they draw, give
up, take their turn and leave it. Whatever they do, tickets are drawn and retired as `0, 1, 2, …`,
and a ticket can have its turn exactly when all earlier ones are retired. A desk that answers
requests makes such moves too, and serves everyone who can be served before it answers again; so
once it is closed every ticket was retired in its order.
-/

namespace TrackedMemory

namespace Desk

inductive Move where
  | draw (drawn : Drawn)
  | giveUp (ticket : Nat) (surrender : Surrender)
  | enter (ticket : Nat)
  | leave (ticket : Nat)
  deriving DecidableEq

/-- A desk, and what has happened at it. -/
structure Session where
  desk : Desk := {}
  drawn : List Nat := []
  retired : List Retirement := []

namespace Session

def move? (session : Session) : Move → Option Session
  | .draw drawn =>
      some { session with
        desk := session.desk.draw drawn
        drawn := session.drawn ++ [session.desk.sequencer.issued] }
  | .giveUp ticket surrender =>
      (session.desk.giveUp? ticket surrender).map fun desk => { session with desk }
  | .enter ticket => (session.desk.enter? ticket).map fun desk => { session with desk }
  | .leave ticket =>
      (session.desk.leave? ticket).map fun left =>
        { session with desk := left.2, retired := session.retired ++ [left.1] }

def run? (session : Session) (moves : List Move) : Option Session :=
  moves.foldlM move? session

def retiredTickets (session : Session) : List Nat :=
  session.retired.map Retirement.ticket

end Session

variable {desk next : Desk} {ticket : Nat} {surrender : Surrender} {retirement : Retirement}

/-! ## What a move does -/

theorem giveUp?_eq_some_iff : desk.giveUp? ticket surrender = some next ↔
    ∃ drawn, desk.standings[ticket]? = some (.held drawn) ∧ drawn.allows surrender = true ∧
      next = { desk with standings := desk.standings.set ticket (.waiting surrender) } := by
  constructor
  · intro given
    unfold giveUp? at given
    split at given
    next drawn held =>
      split at given
      next allowed => exact ⟨drawn, held, allowed, (Option.some.inj given).symm⟩
      next => cases given
    next => cases given
  · rintro ⟨drawn, held, allowed, rfl⟩
    simp [giveUp?, held, allowed]

theorem enter?_eq_some_iff : desk.enter? ticket = some next ↔
    ∃ surrender, desk.standings[ticket]? = some (.waiting surrender) ∧
      desk.sequencer.turn = none ∧ desk.sequencer.serving = ticket ∧
      next = ⟨{ desk.sequencer with turn := some ticket },
        desk.standings.set ticket (.inTurn surrender)⟩ := by
  constructor
  · intro entered
    unfold enter? at entered
    split at entered
    next surrender sequencer waits enters =>
      obtain ⟨free, due, rfl⟩ := Sequencer.enter?_eq_some_iff.1 enters
      exact ⟨surrender, waits, free, due, (Option.some.inj entered).symm⟩
    next => cases entered
  · rintro ⟨surrender, waits, free, due, rfl⟩
    have enters := Sequencer.enter?_eq_some_iff.2 ⟨free, due, rfl⟩
    simp [enter?, waits, enters]

theorem leave?_eq_some_iff : desk.leave? ticket = some (retirement, next) ↔
    ∃ surrender, desk.standings[ticket]? = some (.inTurn surrender) ∧
      retirement = ⟨ticket, surrender⟩ ∧
      next = ⟨desk.sequencer.retire, desk.standings.set ticket (.retired surrender)⟩ := by
  constructor
  · intro left
    unfold leave? at left
    split at left
    next surrender there =>
      cases left
      exact ⟨surrender, there, rfl, rfl⟩
    next => cases left
  · rintro ⟨surrender, there, rfl, rfl⟩
    simp [leave?, there]

theorem serve?_eq_some_iff : desk.serve? = some (retirement, next) ↔
    ∃ surrender, desk.standings[desk.sequencer.serving]? = some (.waiting surrender) ∧
      desk.sequencer.turn = none ∧ retirement = ⟨desk.sequencer.serving, surrender⟩ ∧
      next = ⟨desk.sequencer.retire,
        desk.standings.set desk.sequencer.serving (.retired surrender)⟩ := by
  rw [serve?, Option.bind_eq_some_iff]
  constructor
  · rintro ⟨entered, enters, leaves⟩
    obtain ⟨surrender, waits, free, -, rfl⟩ := enter?_eq_some_iff.1 enters
    obtain ⟨_, there, rfl, rfl⟩ := leave?_eq_some_iff.1 leaves
    have inside := lt_length_of_getElem? waits
    rw [List.getElem?_set_self inside] at there
    cases there
    exact ⟨surrender, waits, free, rfl, by simp [Sequencer.retire]⟩
  · rintro ⟨surrender, waits, free, rfl, rfl⟩
    have inside := lt_length_of_getElem? waits
    refine ⟨_, enter?_eq_some_iff.2 ⟨surrender, waits, free, rfl, rfl⟩,
      leave?_eq_some_iff.2 ⟨surrender, List.getElem?_set_self inside, rfl, ?_⟩⟩
    simp [Sequencer.retire]

theorem serve?_eq_none_iff : desk.serve? = none ↔ desk.sequencer.turn = none →
    ∀ surrender, desk.standings[desk.sequencer.serving]? ≠ some (.waiting surrender) := by
  rw [Option.eq_none_iff_forall_ne_some]
  constructor
  · intro idle free surrender waits
    exact idle _ (serve?_eq_some_iff.2 ⟨surrender, waits, free, rfl, rfl⟩)
  · rintro idle ⟨retirement, next⟩ serves
    obtain ⟨surrender, waits, free, -⟩ := serve?_eq_some_iff.1 serves
    exact idle free surrender waits

/-! ## The invariant of a session -/

section Standings

variable {standings : List Standing} {old new standing : Standing} {place : Nat}

theorem getElem?_set_eq_some_iff (there : standings[place]? = some old) :
    (standings.set place new)[ticket]? = some standing ↔
      if ticket = place then standing = new else standings[ticket]? = some standing := by
  have inside := lt_length_of_getElem? there
  rw [List.getElem?_set]
  split <;> simp_all [eq_comm]

/-- A replacement does not show where one asks for neither the old standing nor the new one. -/
theorem getElem?_set_iff_of_ne (there : standings[place]? = some old) (old_ne : old ≠ standing)
    (new_ne : new ≠ standing) :
    (standings.set place new)[ticket]? = some standing ↔
      standings[ticket]? = some standing := by
  rw [getElem?_set_eq_some_iff there]
  split
  next same =>
    subst same
    simp [there, old_ne, new_ne.symm]
  next => rfl

theorem getElem?_concat_iff_of_ne (new_ne : new ≠ standing) :
    (standings ++ [new])[ticket]? = some standing ↔ standings[ticket]? = some standing := by
  rw [getElem?_concat_eq_some_iff]
  exact or_iff_left fun added => new_ne added.2

end Standings

namespace Session

variable {session later : Session}

/-- Tickets are drawn and retired as `0, 1, 2, …`, the retired ones are those whose standing says
so, and only the ticket being served can be in its turn. -/
structure IsSound (session : Session) : Prop where
  drawn_eq : session.drawn = List.range session.desk.sequencer.issued
  length_eq : session.desk.standings.length = session.desk.sequencer.issued
  retired_eq : session.retiredTickets = List.range session.desk.sequencer.serving
  mem_retired_iff : ∀ ticket surrender, ⟨ticket, surrender⟩ ∈ session.retired ↔
    session.desk.standings[ticket]? = some (.retired surrender)
  turn_iff : ∀ ticket, session.desk.sequencer.turn = some ticket ↔
    ∃ surrender, session.desk.standings[ticket]? = some (.inTurn surrender)
  turn_eq : ∀ ticket, session.desk.sequencer.turn = some ticket →
    ticket = session.desk.sequencer.serving

theorem IsSound.empty : IsSound {} where
  drawn_eq := rfl
  length_eq := rfl
  retired_eq := rfl
  mem_retired_iff _ _ := by simp
  turn_iff _ := by simp
  turn_eq _ := by simp

theorem IsSound.draw (sound : session.IsSound) (drawn : Drawn) :
    IsSound ⟨session.desk.draw drawn, session.drawn ++ [session.desk.sequencer.issued],
      session.retired⟩ where
  drawn_eq := by
    simp only [Desk.draw, Sequencer.draw, List.range_succ, sound.drawn_eq]
  length_eq := by
    simp only [Desk.draw, Sequencer.draw, List.length_append, sound.length_eq,
      List.length_singleton]
  retired_eq := sound.retired_eq
  mem_retired_iff ticket surrender := by
    rw [sound.mem_retired_iff]
    exact (getElem?_concat_iff_of_ne (by simp)).symm
  turn_iff ticket := by
    refine (sound.turn_iff ticket).trans (exists_congr fun surrender => ?_)
    exact (getElem?_concat_iff_of_ne (by simp)).symm
  turn_eq := sound.turn_eq

theorem IsSound.giveUp (sound : session.IsSound) {drawn : Drawn}
    (held : session.desk.standings[ticket]? = some (.held drawn)) :
    IsSound { session with desk := { session.desk with
      standings := session.desk.standings.set ticket (.waiting surrender) } } where
  drawn_eq := sound.drawn_eq
  length_eq := by rw [List.length_set, sound.length_eq]
  retired_eq := sound.retired_eq
  mem_retired_iff other _ := by
    rw [sound.mem_retired_iff]
    exact (getElem?_set_iff_of_ne held (by simp) (by simp)).symm
  turn_iff other := by
    refine (sound.turn_iff other).trans (exists_congr fun _ => ?_)
    exact (getElem?_set_iff_of_ne held (by simp) (by simp)).symm
  turn_eq := sound.turn_eq

theorem IsSound.enter (sound : session.IsSound)
    (waits : session.desk.standings[session.desk.sequencer.serving]? = some (.waiting surrender))
    (free : session.desk.sequencer.turn = none) :
    IsSound { session with desk := ⟨
      { session.desk.sequencer with turn := some session.desk.sequencer.serving },
      session.desk.standings.set session.desk.sequencer.serving (.inTurn surrender)⟩ } where
  drawn_eq := sound.drawn_eq
  length_eq := by rw [List.length_set, sound.length_eq]
  retired_eq := sound.retired_eq
  mem_retired_iff other _ := by
    rw [sound.mem_retired_iff]
    exact (getElem?_set_iff_of_ne waits (by simp) (by simp)).symm
  turn_iff other := by
    have outside := sound.turn_iff other
    simp only [free, reduceCtorEq, false_iff, not_exists] at outside
    simp only [getElem?_set_eq_some_iff waits, Option.some.injEq, eq_comm (a := other)]
    split <;> simp_all
  turn_eq _ served := (Option.some.inj served).symm

theorem IsSound.leave (sound : session.IsSound)
    (there : session.desk.standings[ticket]? = some (.inTurn surrender)) :
    IsSound { session with
      desk := ⟨session.desk.sequencer.retire,
        session.desk.standings.set ticket (.retired surrender)⟩
      retired := session.retired ++ [⟨ticket, surrender⟩] } := by
  have inTurn := (sound.turn_iff ticket).2 ⟨surrender, there⟩
  have served := sound.turn_eq ticket inTurn
  exact {
    drawn_eq := sound.drawn_eq
    length_eq := by rw [List.length_set, sound.length_eq, Sequencer.retire]
    retired_eq := by
      have before := sound.retired_eq
      rw [retiredTickets] at before ⊢
      simp only [List.map_append, before, Sequencer.retire, List.range_succ, served, List.map_cons,
        List.map_nil]
    mem_retired_iff := fun other how => by
      rw [List.mem_append, sound.mem_retired_iff, getElem?_set_eq_some_iff there]
      split <;> simp_all
    turn_iff := fun other => by
      have others := sound.turn_iff other
      simp only [Sequencer.retire, getElem?_set_eq_some_iff there, reduceCtorEq, false_iff,
        not_exists]
      intro how
      split
      next => simp
      next different =>
        intro standing
        have also := others.2 ⟨how, standing⟩
        exact different (Option.some.inj (also.symm.trans inTurn))
    turn_eq := fun _ never => nomatch never }

theorem IsSound.move (sound : session.IsSound) {move : Move}
    (made : session.move? move = some later) : later.IsSound := by
  cases move with
  | draw drawn =>
      cases made
      exact sound.draw drawn
  | giveUp ticket surrender =>
      obtain ⟨desk, given, rfl⟩ := Option.map_eq_some_iff.1 made
      obtain ⟨drawn, held, -, rfl⟩ := giveUp?_eq_some_iff.1 given
      exact sound.giveUp held
  | enter ticket =>
      obtain ⟨desk, entered, rfl⟩ := Option.map_eq_some_iff.1 made
      obtain ⟨surrender, waits, free, rfl, rfl⟩ := enter?_eq_some_iff.1 entered
      exact sound.enter waits free
  | leave ticket =>
      obtain ⟨⟨retirement, desk⟩, left, rfl⟩ := Option.map_eq_some_iff.1 made
      obtain ⟨surrender, there, rfl, rfl⟩ := leave?_eq_some_iff.1 left
      exact sound.leave there

theorem IsSound.run {moves : List Move} (sound : session.IsSound)
    (ran : session.run? moves = some later) : later.IsSound := by
  induction moves generalizing session with
  | nil =>
      cases ran
      exact sound
  | cons move rest ih =>
      obtain ⟨next, made, goesOn⟩ := Option.bind_eq_some_iff.1 ran
      exact ih (sound.move made) goesOn

/-! ## What an observer sees -/

structure InOrder (session : Session) : Prop where
  draws : session.drawn = List.range session.desk.sequencer.issued
  retirements : session.retiredTickets = List.range session.desk.sequencer.serving
  bounded : session.desk.sequencer.serving ≤ session.desk.sequencer.issued
  /-- Nobody but the holder of the ticket being served is in turn, and that after all earlier
  tickets. -/
  turns : ∀ ticket surrender, session.desk.standings[ticket]? = some (.inTurn surrender) →
    session.desk.sequencer.turn = some ticket ∧ ticket = session.desk.sequencer.serving ∧
      ∀ earlier < ticket, earlier ∈ session.retiredTickets
  /-- Whoever waits has its turn just when all earlier tickets are retired. -/
  enters : ∀ ticket, (session.move? (.enter ticket)).isSome ↔
    (∃ surrender, session.desk.standings[ticket]? = some (.waiting surrender)) ∧
      ∀ earlier < ticket, earlier ∈ session.retiredTickets

theorem IsSound.mem_retiredTickets_iff (sound : session.IsSound) :
    ticket ∈ session.retiredTickets ↔ ticket < session.desk.sequencer.serving := by
  rw [sound.retired_eq, List.mem_range]

theorem IsSound.lt_serving_iff (sound : session.IsSound) :
    ticket < session.desk.sequencer.serving ↔
      ∃ surrender, session.desk.standings[ticket]? = some (.retired surrender) := by
  simp only [← sound.mem_retiredTickets_iff, retiredTickets, List.mem_map, ← sound.mem_retired_iff]
  constructor
  · rintro ⟨⟨_, surrender⟩, retired, rfl⟩
    exact ⟨surrender, retired⟩
  · rintro ⟨surrender, retired⟩
    exact ⟨⟨ticket, surrender⟩, retired, rfl⟩

theorem IsSound.serving_le (sound : session.IsSound) :
    session.desk.sequencer.serving ≤ session.desk.sequencer.issued := by
  refine Nat.le_of_not_lt fun ahead => ?_
  obtain ⟨surrender, retired⟩ := sound.lt_serving_iff.1 ahead
  rw [List.getElem?_eq_none (Nat.le_of_eq sound.length_eq)] at retired
  cases retired

/-- What has happened stays as it is. -/
structure Precedes (session later : Session) : Prop where
  drawn_prefix : session.drawn <+: later.drawn
  retired_prefix : session.retired <+: later.retired
  serving_le : session.desk.sequencer.serving ≤ later.desk.sequencer.serving

theorem Precedes.refl (session : Session) : session.Precedes session :=
  ⟨List.prefix_rfl, List.prefix_rfl, Nat.le_refl _⟩

theorem Precedes.trans {first second third : Session} (before : first.Precedes second)
    (after : second.Precedes third) : first.Precedes third :=
  ⟨before.drawn_prefix.trans after.drawn_prefix,
    before.retired_prefix.trans after.retired_prefix,
    Nat.le_trans before.serving_le after.serving_le⟩

end Session

end Desk

end TrackedMemory
