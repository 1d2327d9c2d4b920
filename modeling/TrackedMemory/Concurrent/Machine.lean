import TrackedMemory.Concurrent.Phase

/-!
# Any number of calls on one manager

A machine is the books of a manager and the calls that were started on it, each with its phase and
the trace of what it did. A `Move` is one atomic event: a call starts, takes a step of its own, or
gets the answer of its backend. `Reachable` holds the machines that some sequence of moves leads to.
-/

namespace TrackedMemory

structure Call where
  command : Command
  phase : Phase := .entered command
  trace : Trace := []

/-- The books of a manager and the calls that were started on it, in the order of their start. -/
structure Machine where
  books : Books := {}
  calls : List Call := []

/-- Atomic event. -/
inductive Move where
  | start (command : Command)
  | advance (index : Nat)
  | grant (index : Nat) (reply : Reply Ptr)
  | reply (index : Nat) (reply : Reply Unit)

namespace Call

def isFinished (call : Call) : Bool :=
  match call.phase with
  | .finished _ => true
  | _ => false

end Call

namespace Machine

/-- The phase that a step leads to; a step that breaks off finishes its call. -/
def landing : Except Fault Phase → Phase
  | .ok phase => phase
  | .error fault => .finished (.error fault)

def perform (machine : Machine) (index : Nat) (call : Call) (act : Act Books Phase) : Machine :=
  let outcome := act machine.books
  { books := outcome.state
    calls := machine.calls.set index
      { call with
        phase := landing outcome.result
        trace := call.trace ++ outcome.trace } }

def start (machine : Machine) (command : Command) : Machine :=
  { machine with calls := machine.calls ++ [{ command }] }

def move? (setup : Setup) (machine : Machine) : Move → Option Machine
  | .start command => some (machine.start command)
  | .advance index => do
      let call ← machine.calls[index]?
      let act ← call.phase.act? setup machine.books
      pure (machine.perform index call act)
  | .grant index reply => do
      let call ← machine.calls[index]?
      let act ← call.phase.grant? reply
      pure (machine.perform index call act)
  | .reply index reply => do
      let call ← machine.calls[index]?
      let act ← call.phase.reply? reply
      pure (machine.perform index call act)

inductive Reachable (setup : Setup) : Machine → Prop
  | empty : Reachable setup {}
  | move {machine next : Machine} (move : Move) :
      Reachable setup machine → machine.move? setup move = some next → Reachable setup next

end Machine

end TrackedMemory
