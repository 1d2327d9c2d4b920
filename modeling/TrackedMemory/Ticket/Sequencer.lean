/-!
# The ticket sequencer

Changes to the registries happen one at a time, in the order in which their tickets were drawn. The
sequencer draws tickets `0, 1, 2, …` and lets exactly one of them have its turn: the ticket being
served. Retiring the turn passes it on to the next ticket.
-/

namespace TrackedMemory

structure Sequencer where
  /-- Number of tickets drawn so far, and the next ticket. -/
  issued : Nat := 0
  /-- Number of tickets retired so far, and the ticket whose turn it is. -/
  serving : Nat := 0
  /-- The ticket that has taken its turn and not retired it. -/
  turn : Option Nat := none
  deriving DecidableEq

namespace Sequencer

/-- The sequencer after one more draw; the ticket drawn is `issued`. -/
def draw (sequencer : Sequencer) : Sequencer :=
  { sequencer with issued := sequencer.issued + 1 }

/-- Takes the turn for a ticket, if it is its turn and nobody holds it. -/
def enter? (sequencer : Sequencer) (ticket : Nat) : Option Sequencer :=
  if sequencer.turn = none ∧ sequencer.serving = ticket then
    some { sequencer with turn := some ticket }
  else none

def retire (sequencer : Sequencer) : Sequencer :=
  { sequencer with serving := sequencer.serving + 1, turn := none }

theorem enter?_eq_some_iff {sequencer next : Sequencer} {ticket : Nat} :
    sequencer.enter? ticket = some next ↔
      sequencer.turn = none ∧ sequencer.serving = ticket ∧
        next = { sequencer with turn := some ticket } := by
  unfold enter?
  split <;> simp_all [eq_comm]

end Sequencer

end TrackedMemory
