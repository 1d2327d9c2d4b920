import TrackedMemory.Outcome
import TrackedMemory.Ticket.Sequencer

/-!
# Ticket holders

A desk is a sequencer together with what has become of every ticket drawn from it. A ticket is held
until its holder gives it up: by taking its turn, by dropping a reservation, or because a break-off
unwinds past it. A ticket that is given up waits for its turn in every case, so that no later ticket
is stranded.
`Desk.draw`, `Desk.giveUp?`, `Desk.enter?` and `Desk.leave?` are the single steps; `Desk.settle`
serves whoever waits and can be served.
-/

namespace TrackedMemory

inductive Drawn where
  /-- As a bare number, which only a turn gives up. -/
  | claimed
  /-- As a reservation, which may be dropped. -/
  | reserved
  deriving DecidableEq

inductive Surrender where
  /-- Takes its turn. -/
  | turn
  /-- Takes its turn and breaks off while holding it. -/
  | failingTurn
  /-- Drops the reservation. -/
  | abandon
  /-- Breaks off between the reservation and the turn. -/
  | unwind
  deriving DecidableEq

def Drawn.allows : Drawn → Surrender → Bool
  | _, .turn | _, .failingTurn => true
  | .reserved, _ => true
  | .claimed, _ => false

inductive Standing where
  | held (drawn : Drawn)
  | waiting (surrender : Surrender)
  | inTurn (surrender : Surrender)
  | retired (surrender : Surrender)
  deriving DecidableEq

structure Retirement where
  ticket : Nat
  surrender : Surrender
  deriving DecidableEq

namespace Retirement

def events (retirement : Retirement) : List Event :=
  match retirement.surrender with
  | .turn | .failingTurn => []
  | .abandon | .unwind => [.abandoned retirement.ticket]

def fault? (retirement : Retirement) : Option Fault :=
  match retirement.surrender with
  | .turn | .abandon => none
  | .failingTurn => some (.raised s!"turn {retirement.ticket} failed")
  | .unwind => some (.raised "work between claim and turn failed")

end Retirement

/-- A sequencer and the standing of every ticket drawn from it, by number. -/
structure Desk where
  sequencer : Sequencer := {}
  standings : List Standing := []

namespace Desk

def draw (desk : Desk) (drawn : Drawn) : Desk where
  sequencer := desk.sequencer.draw
  standings := desk.standings ++ [.held drawn]

/-- Gives a held ticket up: from now on it waits for its turn. -/
def giveUp? (desk : Desk) (ticket : Nat) (surrender : Surrender) : Option Desk :=
  match desk.standings[ticket]? with
  | some (.held drawn) =>
      if drawn.allows surrender then
        some { desk with standings := desk.standings.set ticket (.waiting surrender) }
      else none
  | _ => none

def enter? (desk : Desk) (ticket : Nat) : Option Desk :=
  match desk.standings[ticket]?, desk.sequencer.enter? ticket with
  | some (.waiting surrender), some sequencer =>
      some ⟨sequencer, desk.standings.set ticket (.inTurn surrender)⟩
  | _, _ => none

def leave? (desk : Desk) (ticket : Nat) : Option (Retirement × Desk) :=
  match desk.standings[ticket]? with
  | some (.inTurn surrender) =>
      some (⟨ticket, surrender⟩,
        ⟨desk.sequencer.retire, desk.standings.set ticket (.retired surrender)⟩)
  | _ => none

/-- Serves the ticket whose turn it is, if its holder waits. -/
def serve? (desk : Desk) : Option (Retirement × Desk) :=
  (desk.enter? desk.sequencer.serving).bind fun entered => entered.leave? desk.sequencer.serving

def serveUpTo : Nat → Desk → List Retirement × Desk
  | 0, desk => ([], desk)
  | limit + 1, desk =>
      match desk.serve? with
      | none => ([], desk)
      | some (retirement, next) =>
          let (later, last) := serveUpTo limit next
          (retirement :: later, last)

/-- Serves everyone who waits and can be served. -/
def settle (desk : Desk) : List Retirement × Desk :=
  serveUpTo desk.standings.length desk

end Desk

inductive DeskRequest where
  | draw (drawn : Drawn)
  | giveUp (ticket : Nat) (surrender : Surrender)
  | compare (first second : Nat)
  deriving DecidableEq

inductive DeskAnswer where
  | drawn (ticket : Nat)
  | servedNow
  | queued
  | notHeld
  | notReserved
  | compared (order : Ordering)
  deriving DecidableEq

namespace Desk

/-- Gives a ticket up and serves whoever can then be served. -/
def surrender (desk : Desk) (ticket : Nat) (surrender : Surrender) :
    DeskAnswer × List Retirement × Desk :=
  match desk.giveUp? ticket surrender with
  | some waiting =>
      let answer := if desk.sequencer.serving = ticket then .servedNow else .queued
      (answer, waiting.settle)
  | none =>
      match desk.standings[ticket]? with
      | some (.held _) => (.notReserved, [], desk)
      | _ => (.notHeld, [], desk)

/-- Answers one request, and tells which tickets were retired by it. -/
def respond (desk : Desk) : DeskRequest → DeskAnswer × List Retirement × Desk
  | .draw drawn => (.drawn desk.sequencer.issued, [], desk.draw drawn)
  | .giveUp ticket surrender => desk.surrender ticket surrender
  | .compare first second =>
      if first < desk.standings.length ∧ second < desk.standings.length then
        (.compared (Ord.compare first second), [], desk)
      else (.notHeld, [], desk)

/-- How a ticket is given up when the desk closes while it is held. -/
def closing : Drawn → Surrender
  | .claimed => .turn
  | .reserved => .abandon

def closeTickets : List Nat → Desk → List Retirement × Desk
  | [], desk => ([], desk)
  | ticket :: rest, desk =>
      match desk.standings[ticket]? with
      | some (.held drawn) =>
          let (_, retired, next) := desk.surrender ticket (closing drawn)
          let (later, last) := closeTickets rest next
          (retired ++ later, last)
      | _ => closeTickets rest desk

def close (desk : Desk) : List Retirement × Desk :=
  closeTickets (List.range desk.standings.length) desk

end Desk

end TrackedMemory
