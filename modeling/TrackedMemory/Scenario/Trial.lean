import TrackedMemory.Backend.Hosted
import TrackedMemory.Manager.Fleet
import TrackedMemory.Scenario.Labels

/-!
# Trials of a fleet

A trial drives the managers of a fleet by orders that point to named blocks. Over a simulated
backend a place is just an address. Over a backend with real memory an order is refused before it
reaches the manager if it points to memory that is not there, fresh blocks are cleared, and the
scenario may read and write the blocks that it names.
-/

namespace TrackedMemory

inductive Order where
  | allocate (name : String) (bytes : Size) (space : Space)
  | deallocate (place : Place) (bytes : Size) (space : Space)
  | copy (dst src : Place) (bytes : Size) (dstSpace srcSpace : Space) (outside : Bool)
  | spaceOf (place : Place)
  | sizeOf (place : Place)
  | ask (query : Query)

namespace Order

/-- The command of an order, once its places are addresses. -/
def command (locate : Place → Addr) : Order → Command
  | .allocate _ bytes space => .allocate bytes space
  | .deallocate place bytes space => .deallocate (locate place) bytes space
  | .copy dst src bytes dstSpace srcSpace outside =>
      .copy ⟨locate dst, locate src, bytes, dstSpace, srcSpace, outside⟩
  | .spaceOf place => .query (.spaceOf (locate place))
  | .sizeOf place => .query (.sizeOf (locate place))
  | .ask query => .query query

def places : Order → List Place
  | .allocate .. | .ask _ => []
  | .deallocate place .. | .spaceOf place | .sizeOf place => [place]
  | .copy dst src .. => [dst, src]

/-- The ranges that a manager reads or writes on the word of the caller alone. -/
def vouched (locate : Place → Addr) : Order → List (Addr × Size)
  | .copy dst src bytes _ _ true =>
      if bytes = 0 ∨ locate dst = 0 ∨ locate src = 0 then []
      else [(locate dst, bytes), (locate src, bytes)]
  | _ => []

end Order

structure Trial (β : Type) where
  fleet : Fleet β
  labels : Labels := {}

inductive Refusal where
  | dropped
  /-- A place is not in memory that is known to exist. -/
  | badPlace
  /-- A range does not lie inside one live block. -/
  | outOfBlock
  | nameTaken
  deriving DecidableEq

namespace Trial

variable {β : Type}

/-- The registry entries of the managers decide which of the named blocks are still live. -/
def settleLabels (trial : Trial β) : Trial β :=
  let gone (label : Label) : Bool := (label.owner.bind (trial.fleet.members[·]?)).any fun member =>
    (member.books.registries.areaOf? label.start).isNone
  { trial with labels := trial.labels.free gone }

def nameBlock (trial : Trial β) (index : Nat) : Order → Except Fault Answer → Trial β
  | .allocate name bytes _, .ok (.block (some ptr)) =>
      let label := { name := name, start := ptr.addr, size := bytes, owner := some index }
      { trial with labels := trial.labels.allocated label }
  | _, _ => trial

def note (trial : Trial β) (index : Nat) (order : Order) (outcome : Outcome (Fleet β) Answer) :
    Outcome (Trial β) Answer :=
  let after : Trial β := { trial with fleet := outcome.state }
  ⟨outcome.result, (after.settleLabels).nameBlock index order outcome.result, outcome.trace⟩

def onBackend (trial : Trial β) (change : β → β) : Trial β :=
  { trial with fleet := { trial.fleet with backend := change trial.fleet.backend } }

def requireActive (trial : Trial β) (index : Nat) : Except Refusal Unit :=
  if (trial.fleet.active? index).isSome then .ok () else .error .dropped

/-- Changes the backend by hand, on behalf of a manager that is still there. -/
def adjust (trial : Trial β) (index : Nat) (change : β → β) : Except Refusal (Trial β) := do
  trial.requireActive index
  pure (trial.onBackend change)

variable [Backend β]

/-- Has a manager carry an order out, its places taken as they are. -/
def give (trial : Trial β) (index : Nat) (order : Order) :
    Except Refusal (Outcome (Trial β) Answer) :=
  match trial.fleet.run? index (order.command trial.labels.addr) with
  | some outcome => .ok (trial.note index order outcome)
  | none => .error .dropped

/-- Drops a manager. None of its blocks can be counted on afterwards, whether they were given back
to the backend or not. -/
def drop (trial : Trial β) (index : Nat) : Except Refusal (Outcome (Trial β) Unit) :=
  match trial.fleet.drop? index with
  | some outcome =>
      let labels := trial.labels.free fun label => label.owner == some index
      .ok ⟨outcome.result, ⟨outcome.state, labels⟩, outcome.trace⟩
  | none => .error .dropped

def dropEach : List Nat → Trial β → List (Outcome (Trial β) Unit)
  | [], _ => []
  | index :: rest, trial =>
      match trial.drop index with
      | .ok outcome => outcome :: dropEach rest outcome.state
      | .error _ => dropEach rest trial

def close (trial : Trial β) : List (Outcome (Trial β) Unit) :=
  dropEach (List.range trial.fleet.members.length) trial

section Hosted

variable {σ : Type} [Hosting β σ]

def memory (trial : Trial β) : Memory :=
  (Hosting.host trial.fleet.backend).memory

def editMemory (trial : Trial β) (change : Memory → Memory) : Trial β :=
  trial.onBackend fun backend =>
    let host := Hosting.host backend
    Hosting.setHost { host with memory := change host.memory } backend

def requireFree (trial : Trial β) (name : String) : Except Refusal Unit :=
  if (trial.labels.live? name).isSome then .error .nameTaken else .ok ()

/-- What keeps an order from being given over real memory. -/
def check (trial : Trial β) (order : Order) : Except Refusal Unit := do
  match order with
  | .allocate name .. => trial.requireFree name
  | _ => pure ()
  let known := order.places.all fun place => (trial.labels.tracked? place).isSome
  let backed := (order.vouched trial.labels.addr).all fun range =>
    trial.labels.covers range.1 range.2
  if known && backed then pure () else .error .badPlace

def clearBlock (trial : Trial β) : Order → Except Fault Answer → Trial β
  | .allocate _ bytes _, .ok (.block (some ptr)) =>
      trial.editMemory fun memory => memory.clear ptr.addr bytes
  | _, _ => trial

/-- Has a manager over real memory carry an order out, if all its places are there. -/
def giveHosted (trial : Trial β) (index : Nat) (order : Order) :
    Except Refusal (Outcome (Trial β) Answer) := do
  trial.requireActive index
  trial.check order
  let outcome ← trial.give index order
  pure { outcome with state := outcome.state.clearBlock order outcome.result }

def readBlock (trial : Trial β) (index : Nat) (name : String) (offset bytes : Size) :
    Except Refusal (List UInt8) := do
  trial.requireActive index
  match trial.labels.range? name offset bytes with
  | some addr => pure (trial.memory.read addr bytes.toNat)
  | none => .error .outOfBlock

def writeBlock (trial : Trial β) (index : Nat) (name : String) (offset : Size)
    (data : ByteArray) : Except Refusal (Trial β) := do
  trial.requireActive index
  match trial.labels.range? name offset (UInt64.ofNat data.size) with
  | some addr => pure (trial.editMemory fun memory => memory.write addr data)
  | none => .error .outOfBlock

/-- Sets a buffer up that no manager knows, and names it. -/
def addBuffer [System σ] (trial : Trial β) (index : Nat) (name : String) (data : ByteArray) :
    Except Refusal (Trial β) := do
  trial.requireActive index
  trial.requireFree name
  let host := Hosting.host trial.fleet.backend
  let bytes := UInt64.ofNat data.size
  match System.obtain ⟨bytes, 1⟩ host.system with
  | (.placed addr, system) =>
      let next : Host σ := ⟨system, host.memory.write addr data⟩
      let label := { name := name, start := addr, size := bytes }
      pure { trial.onBackend (Hosting.setHost next) with labels := trial.labels.add label }
  | _ => .error .outOfBlock

end Hosted

end Trial

end TrackedMemory
