import TrackedMemory.Registry.Guarded
import TrackedMemory.Ticket.Sequencer

/-!
# The books of a manager

A manager keeps one registry for each area, one ticket sequencer for all of them, and a tally of the
calls that it turned down. Everything that a call does to the books is an action on `Books`. Changes
of a registry run inside `inTurn`, which retires the ticket however the change ends.
-/

namespace TrackedMemory

structure Registries where
  device : Registry := {}
  host : Registry := {}
  managed : Registry := {}
  deriving DecidableEq

namespace Registries

def get (registries : Registries) : Area → Registry
  | .device => registries.device
  | .host => registries.host
  | .managed => registries.managed

def set (registries : Registries) (registry : Registry) : Area → Registries
  | .device => { registries with device := registry }
  | .host => { registries with host := registry }
  | .managed => { registries with managed := registry }

@[simp] theorem get_set (registries : Registries) (registry : Registry) (area other : Area) :
    (registries.set registry area).get other =
      if other = area then registry else registries.get other := by
  cases area <;> cases other <;> rfl

/-- Whether the counters of every registry agree with its records. -/
def areConsistent (registries : Registries) : Bool :=
  Area.all.all fun area => (registries.get area).isConsistent

/-- The first area, in the order of look-up, in which a block starts at an address. -/
def areaOf? (registries : Registries) (addr : Addr) : Option Area :=
  Area.all.find? fun area => (registries.get area).contains addr

def spaceOf (registries : Registries) (addr : Addr) : Space :=
  ((registries.areaOf? addr).map Area.space).getD .invalid

/-- The areas in which a range may lie that is said to lie in a space: its own and managed. -/
def candidates (space : Space) : List Area :=
  space.area?.toList ++ [.managed]

/-- Whether a range lies inside one block of a space or of the managed space. -/
def covers (registries : Registries) (addr : Addr) (bytes : Size) (space : Space) : Bool :=
  (candidates space).any fun area => (registries.get area).covers addr bytes

def leakReport (registries : Registries) : LeakReport where
  leaks := Area.all.filterMap fun area =>
    let registry := registries.get area
    if registry.liveCount = 0 then none
    else some ⟨area.space, registry.liveCount, registry.liveBytes⟩

end Registries

structure Books where
  registries : Registries := {}
  sequencer : Sequencer := {}
  tally : Tally := {}
  deriving DecidableEq

namespace Books

def statistics (books : Books) : Statistics where
  device := books.registries.device.figures
  host := books.registries.host.figures
  managed := books.registries.managed.figures
  rejected := books.tally

variable {α : Type}

def watch (setup : Setup) (area : Area) : Watch :=
  ⟨setup.build, setup.config.verifyInvariants, area.space⟩

def onRegistry (area : Area) (act : Act Registry α) : Act Books α :=
  act.within (fun books => books.registries.get area)
    fun registry books => { books with registries := books.registries.set registry area }

def register (setup : Setup) (area : Area) (ptr : Ptr) (bytes : Size) : Act Books Bool :=
  onRegistry area (Registry.register (watch setup area) ptr.addr bytes)

def deregister (setup : Setup) (area : Area) (addr : Addr) : Act Books (Option Size) :=
  onRegistry area (Registry.deregister (watch setup area) addr)

def draw : Act Books Nat := do
  let ticket := (← Act.read).sequencer.issued
  Act.update fun books => { books with sequencer := books.sequencer.draw }
  pure ticket

/-- Takes the turn of a ticket, or breaks off where it would have to be waited for. -/
def enter (ticket : Nat) : Act Books Unit := do
  match (← Act.read).sequencer.enter? ticket with
  | some entered => Act.update fun books => { books with sequencer := entered }
  | none => Act.fail .stalled

def retire (books : Books) : Books :=
  { books with sequencer := books.sequencer.retire }

/-- Runs an action in the turn of a ticket, and retires the ticket however the action ends. -/
def inTurn (ticket : Nat) (act : Act Books α) : Act Books α := do
  enter ticket
  act.after retire

def remark (setup : Setup) (remark : Remark) : Act Books Unit :=
  if setup.config.logRejections then Act.log (.remarked remark) else pure ()

def count (change : Tally → Tally) : Act Books Unit :=
  Act.update fun books => { books with tally := change books.tally }

/-- Counts a backend call that returned an error, and logs it. -/
def backendFailed (operation : Operation) (failure : Failure) : Act Books Unit := do
  count fun tally => { tally with backendFailures := tally.backendFailures + 1 }
  Act.log (.backendFailed operation failure)

def rejectAllocation : Act Books Unit :=
  count fun tally => { tally with allocations := tally.allocations + 1 }

def rejectDeallocation : Act Books Unit :=
  count fun tally => { tally with deallocations := tally.deallocations + 1 }

def rejectCopy : Act Books Unit :=
  count fun tally => { tally with copies := tally.copies + 1 }

end Books

end TrackedMemory
