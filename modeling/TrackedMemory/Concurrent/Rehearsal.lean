import TrackedMemory.Backend.Scripted
import TrackedMemory.Concurrent.Machine

/-!
# Calls behind gates

A rehearsal drives the calls of a machine over a scripted backend, where every call has a script of
its own. A call may be started behind a gate: it runs into its backend and stays there until the
gate is opened. After each event every call runs as far as it can, so that what happens does not
depend on how the steps of the calls are mixed.
-/

namespace TrackedMemory

/-- A call of a rehearsal, beside what the machine knows of it. -/
structure Part where
  name : String
  script : List Cue
  /-- The gate in front of the backend is shut. -/
  isHeld : Bool

/-- A machine whose calls run over a scripted backend. -/
structure Rehearsal where
  setup : Setup
  machine : Machine := {}
  /-- One part for each call of the machine. -/
  parts : List Part := []
  /-- Number of blocks handed out at fresh addresses. -/
  fresh : Nat := 0
  finished : List Nat := []

inductive Obstacle where
  | running
  /-- The tickets could come in any order, because an allocation waits for its turn. -/
  | busy
  | notHeld
  deriving DecidableEq

namespace Phase

def isInAlloc : Phase → Bool
  | .inAlloc .. => true
  | _ => false

def isQueuedAllocation : Phase → Bool
  | .queued _ (.register ..) => true
  | _ => false

def freeTicket? : Phase → Option Nat
  | .inFree ticket .. => some ticket
  | _ => none

end Phase

namespace Rehearsal

def phase? (rehearsal : Rehearsal) (index : Nat) : Option Phase :=
  rehearsal.machine.calls[index]?.map Call.phase

def isFinished (rehearsal : Rehearsal) (index : Nat) : Bool :=
  rehearsal.machine.calls[index]?.any Call.isFinished

def unfinished (rehearsal : Rehearsal) : List Nat :=
  (List.range rehearsal.parts.length).filter fun index => !rehearsal.isFinished index

/-- Whether a call is inside its backend behind a shut gate. -/
def isHeld (rehearsal : Rehearsal) (index : Nat) : Bool :=
  (rehearsal.phase? index).any Phase.isInBackend && rehearsal.parts[index]?.any Part.isHeld

/-- Whether an allocation waits for its turn. -/
def isBusy (rehearsal : Rehearsal) : Bool :=
  rehearsal.machine.calls.any fun call => call.phase.isQueuedAllocation

/-- The move that gives a call the answer of its script. -/
def answer (rehearsal : Rehearsal) (index : Nat) (part : Part) (phase : Phase) : Move × Nat :=
  let backend : Scripted := ⟨part.script, rehearsal.fresh⟩
  match phase with
  | .inAlloc area bytes =>
      let (reply, after) := backend.alloc area.space bytes
      (.grant index reply, after.fresh)
  | _ =>
      let (reply, after) := backend.serve
      (.reply index reply, after.fresh)

/-- Has one call go on, unless it is finished, held, or waits for its turn. -/
def advance? (rehearsal : Rehearsal) (index : Nat) : Option Rehearsal := do
  let phase ← rehearsal.phase? index
  let part ← rehearsal.parts[index]?
  let (move, fresh) ←
    if phase.isInBackend then
      if part.isHeld then none else some (rehearsal.answer index part phase)
    else some (.advance index, rehearsal.fresh)
  let machine ← rehearsal.machine.move? rehearsal.setup move
  pure { rehearsal with machine := machine, fresh := fresh }

def driveUpTo : Nat → Rehearsal → Nat → Rehearsal
  | 0, rehearsal, _ => rehearsal
  | limit + 1, rehearsal, index =>
      match rehearsal.advance? index with
      | some next => driveUpTo limit next index
      | none => rehearsal

def drive (rehearsal : Rehearsal) (index : Nat) : Rehearsal :=
  let wasFinished := rehearsal.isFinished index
  let driven := driveUpTo (((rehearsal.phase? index).map Phase.stepsLeft).getD 0) rehearsal index
  if driven.isFinished index && !wasFinished then
    { driven with finished := driven.finished ++ [index] }
  else driven

/-- The call whose turn it is and who waits for it. -/
def nextInLine? (rehearsal : Rehearsal) : Option Nat :=
  rehearsal.machine.calls.findIdx? fun call =>
    match call.phase with
    | .queued ticket _ => (rehearsal.machine.books.sequencer.enter? ticket).isSome
    | _ => false

def settleUpTo : Nat → Rehearsal → Rehearsal
  | 0, rehearsal => rehearsal
  | limit + 1, rehearsal =>
      match rehearsal.nextInLine? with
      | some index => settleUpTo limit (rehearsal.drive index)
      | none => rehearsal

/-- Serves every call that waits and can be served. -/
def settle (rehearsal : Rehearsal) : Rehearsal :=
  settleUpTo rehearsal.parts.length rehearsal

def running? (rehearsal : Rehearsal) (name : String) : Option Nat :=
  rehearsal.unfinished.find? fun index =>
    rehearsal.parts[index]?.any fun part => part.name == name

/-- Starts a call and has every call run as far as it can. -/
def start (rehearsal : Rehearsal) (part : Part) (command : Command) : Except Obstacle Rehearsal :=
  if (rehearsal.running? part.name).isSome then .error .running
  else if command.drawsTicket && rehearsal.isBusy then .error .busy
  else
    let started := { rehearsal with
      machine := rehearsal.machine.start command
      parts := rehearsal.parts ++ [part] }
    .ok (started.drive rehearsal.parts.length).settle

def opened (rehearsal : Rehearsal) (index : Nat) : Rehearsal :=
  let parts := rehearsal.parts.modify index fun part => { part with isHeld := false }
  ({ rehearsal with parts := parts }.drive index).settle

def release (rehearsal : Rehearsal) (name : String) : Except Obstacle Rehearsal :=
  match (rehearsal.running? name).filter rehearsal.isHeld with
  | none => .error .notHeld
  | some index =>
      if (rehearsal.phase? index).any Phase.isInAlloc && rehearsal.isBusy then .error .busy
      else .ok (rehearsal.opened index)

def freeTicket? (rehearsal : Rehearsal) (index : Nat) : Option Nat :=
  (rehearsal.phase? index).bind Phase.freeTicket?

/-- The held call with the smallest ticket, or else the held call that was started first. -/
def firstHeld? (rehearsal : Rehearsal) : Option Nat :=
  let held := rehearsal.unfinished.filter rehearsal.isHeld
  match (held.filterMap rehearsal.freeTicket?).min? with
  | some ticket => held.find? fun index => rehearsal.freeTicket? index = some ticket
  | none => held.head?

/-- Opens at most so many gates, those of calls with tickets first. -/
def openUpTo : Nat → Rehearsal → Rehearsal
  | 0, rehearsal => rehearsal
  | limit + 1, rehearsal =>
      match rehearsal.firstHeld? with
      | some index => openUpTo limit (rehearsal.opened index)
      | none => rehearsal

def openAll (rehearsal : Rehearsal) : Rehearsal :=
  openUpTo rehearsal.parts.length rehearsal

/-- Drops the manager after the rehearsal; the backend then succeeds throughout. -/
def teardown (rehearsal : Rehearsal) : Outcome (Site Scripted) Unit :=
  Site.teardown rehearsal.setup ⟨rehearsal.machine.books, ⟨[], rehearsal.fresh⟩⟩

end Rehearsal

end TrackedMemory
