import Mathlib.Algebra.BigOperators.Group.Finset.Basic
import Mathlib.Data.Finmap
import TrackedMemory.Proofs.Manager.Observation

/-!
# A reference manager

An inventory is a finite map from spaces and addresses to the sizes of live blocks, with two counts
for each space: how many blocks came and how many went. It decides by itself what a call does: what
the backend is asked, how the call ends, and what the inventory is afterwards. There is no registry
in it, no ticket, no contract and no log, and nothing is looked up with the means of a manager.

Two things that a client can ask for are no matter of the inventory: the byte figures, which stop at
both ends of a word, and the tally of the calls that were turned down. They are gauges beside it,
which follow what is seen of the reference manager and are read by queries only.
-/

namespace TrackedMemory

/-- The live blocks of all spaces, and how many blocks came and went. -/
@[ext] structure Inventory where
  sizes : Finmap fun _ : Space × Addr => Size := ∅
  registrations : Space → Nat := fun _ => 0
  deregistrations : Space → Nat := fun _ => 0

@[ext] structure Gauges where
  bytes : Space → Nat := fun _ => 0
  tally : Tally := {}

/-- The transfer that a request asks for whose ends are not null. -/
def CopyRequest.between (request : CopyRequest) (ends : request.dst ≠ 0 ∧ request.src ≠ 0) :
    Transfer :=
  ⟨⟨request.dst, ends.1⟩, ⟨request.src, ends.2⟩, request.bytes, request.dstSpace, request.srcSpace⟩

namespace Inventory

variable {β : Type}

/-- The spaces in which blocks live, in the order in which an address is looked for. -/
def spaces : List Space := [.device, .host, .managed]

def size? (inventory : Inventory) (space : Space) (addr : Addr) : Option Size :=
  inventory.sizes.lookup (space, addr)

def starts (inventory : Inventory) (space : Space) : Finset Addr :=
  (inventory.sizes.keys.filter fun key => key.1 = space).image Prod.snd

def liveCount (inventory : Inventory) (space : Space) : Nat :=
  (inventory.starts space).card

def total (inventory : Inventory) (space : Space) : Nat :=
  ∑ addr ∈ inventory.starts space, ((inventory.size? space addr).getD 0).toNat

def spaceOf (inventory : Inventory) (addr : Addr) : Space :=
  (spaces.find? fun space => (space, addr) ∈ inventory.sizes).getD .invalid

/-- Whether a space that is looked into before has a block at an address. -/
def isHidden (inventory : Inventory) (space : Space) (addr : Addr) : Bool :=
  (spaces.takeWhile (· ≠ space)).any fun other => (other, addr) ∈ inventory.sizes

/-- A range lies inside the block of a space that starts last among those that start at the range
or below it. -/
def Covers (inventory : Inventory) (space : Space) (addr : Addr) (bytes : Size) : Prop :=
  ∃ start ∈ inventory.starts space, start ≤ addr ∧
    (∀ other ∈ inventory.starts space, other ≤ addr → other ≤ start) ∧
    ∃ size ∈ inventory.size? space start,
      addr.toNat + bytes.toNat ≤ start.toNat + size.toNat ∧
        start.toNat + size.toNat < UInt64.size

instance (inventory : Inventory) (space : Space) (addr : Addr) (bytes : Size) :
    Decidable (inventory.Covers space addr bytes) :=
  inferInstanceAs (Decidable (∃ start ∈ inventory.starts space, _))

/-- A copy is made if no end of it is null and, unless the caller answers for them, each end lies
inside a block of the space that is named for it or of the managed space. -/
def Admits (inventory : Inventory) (request : CopyRequest) : Prop :=
  (request.dst ≠ 0 ∧ request.src ≠ 0) ∧ (request.outside = true ∨
    (inventory.Covers request.dstSpace request.dst request.bytes ∨
      inventory.Covers .managed request.dst request.bytes) ∧
    (inventory.Covers request.srcSpace request.src request.bytes ∨
      inventory.Covers .managed request.src request.bytes))

instance (inventory : Inventory) (request : CopyRequest) :
    Decidable (inventory.Admits request) :=
  inferInstanceAs (Decidable (_ ∧ _))

/-- A block comes. A key that is there already is kept as it is. -/
def insert (inventory : Inventory) (space : Space) (addr : Addr) (bytes : Size) : Inventory :=
  if (space, addr) ∈ inventory.sizes then inventory
  else
    { inventory with
      sizes := inventory.sizes.insert (space, addr) bytes
      registrations :=
        Function.update inventory.registrations space (inventory.registrations space + 1) }

def erase (inventory : Inventory) (space : Space) (addr : Addr) : Inventory :=
  { inventory with
    sizes := inventory.sizes.erase (space, addr)
    deregistrations :=
      Function.update inventory.deregistrations space (inventory.deregistrations space + 1) }

/-! ## Calls -/

/-- With what an allocation ends for which the backend has a block. Checked builds break off where
the key is there already, and where another space hides the block. -/
def received (inventory : Inventory) (build : Build) (space : Space) (ptr : Ptr) :
    Except Fault Answer :=
  match build with
  | .unchecked => .ok (.block (some ptr))
  | .checked =>
      if (space, ptr.addr) ∈ inventory.sizes then
        .error (.violated ⟨.precondition, .alreadyRegistered space ptr.addr⟩)
      else if inventory.isHidden space ptr.addr then
        .error (.violated ⟨.postcondition, .blockNotFound space ptr.addr⟩)
      else .ok (.block (some ptr))

def figures (inventory : Inventory) (gauges : Gauges) (space : Space) : Figures where
  liveCount := inventory.liveCount space
  liveBytes := UInt64.ofNat (gauges.bytes space)
  registrations := inventory.registrations space
  deregistrations := inventory.deregistrations space

def answer (setup : Setup) (inventory : Inventory) (gauges : Gauges) : Query → Except Fault Answer
  | .spaceOf addr => .ok (.space (inventory.spaceOf addr))
  | .sizeOf addr => .ok (.bytes ((inventory.size? (inventory.spaceOf addr) addr).getD 0))
  | .allocationCount space => .ok (.count (inventory.registrations space))
  | .deallocationCount space => .ok (.count (inventory.deregistrations space))
  | .liveCount space => .ok (.count (inventory.liveCount space))
  | .liveBytes space => .ok (.bytes (UInt64.ofNat (gauges.bytes space)))
  | .figures space =>
      .ok (.figures (if space = .invalid then none else some (inventory.figures gauges space)))
  | .statistics =>
      .ok (.statistics ⟨inventory.figures gauges .device, inventory.figures gauges .host,
        inventory.figures gauges .managed, gauges.tally⟩)
  | .totalLiveBytes =>
      let sum := gauges.bytes .device + gauges.bytes .host + gauges.bytes .managed
      if setup.build = .checked ∧ UInt64.size ≤ sum then .error .overflow
      else .ok (.bytes (UInt64.ofNat sum))
  | .leakReport =>
      .ok (.report ⟨spaces.filterMap fun space =>
        if inventory.liveCount space = 0 then none
        else some ⟨space, inventory.liveCount space, UInt64.ofNat (gauges.bytes space)⟩⟩)
  | .isConsistent => .ok (.verdict true)
  | .config => .ok (.config setup.config)

variable [Backend β]

/-- The backend is asked for a block if there are bytes to allocate and the space is valid. -/
def allocate (build : Build) (backend : β) (inventory : Inventory) (bytes : Size) (space : Space) :
    Observation × Inventory × β :=
  if bytes = 0 ∨ space = .invalid then (⟨[], .ok (.block none)⟩, inventory, backend)
  else match Backend.alloc space bytes backend with
    | (.granted ptr, backend) =>
        (⟨[(.alloc space bytes, .granted (some ptr))], inventory.received build space ptr⟩,
          inventory.insert space ptr.addr bytes, backend)
    | (.refused failure, backend) =>
        (⟨[(.alloc space bytes, .refused failure)], .ok (.block none)⟩, inventory, backend)
    | (.raised reason, backend) =>
        (⟨[(.alloc space bytes, .raised reason)], .error (.raised reason)⟩, inventory, backend)

/-- The backend frees a block that is a key, with the size of the map. The key goes unless the
backend breaks off. -/
def deallocate (backend : β) (inventory : Inventory) (addr : Addr) (space : Space) :
    Observation × Inventory × β :=
  if valid : addr ≠ 0 ∧ space ≠ .invalid then
    match inventory.size? space addr with
    | none => (⟨[], .ok (.verdict false)⟩, inventory, backend)
    | some size =>
        match Backend.free space ⟨addr, valid.1⟩ size backend with
        | (.granted (), backend) =>
            (⟨[(.free space ⟨addr, valid.1⟩ size, .granted none)], .ok (.verdict true)⟩,
              inventory.erase space addr, backend)
        | (.refused failure, backend) =>
            (⟨[(.free space ⟨addr, valid.1⟩ size, .refused failure)], .ok (.verdict false)⟩,
              inventory.erase space addr, backend)
        | (.raised reason, backend) =>
            (⟨[(.free space ⟨addr, valid.1⟩ size, .raised reason)], .error (.raised reason)⟩,
              inventory, backend)
  else (⟨[], .ok (.verdict false)⟩, inventory, backend)

/-- The backend copies bytes if there are any and the copy is admitted; the inventory stays. -/
def copy (backend : β) (inventory : Inventory) (request : CopyRequest) :
    Observation × Inventory × β :=
  if request.bytes = 0 then (⟨[], .ok (.verdict true)⟩, inventory, backend)
  else if admitted : inventory.Admits request then
    let transfer := request.between admitted.1
    match Backend.copy transfer backend with
    | (.granted (), backend) =>
        (⟨[(.copy transfer, .granted none)], .ok (.verdict true)⟩, inventory, backend)
    | (.refused failure, backend) =>
        (⟨[(.copy transfer, .refused failure)], .ok (.verdict false)⟩, inventory, backend)
    | (.raised reason, backend) =>
        (⟨[(.copy transfer, .raised reason)], .error (.raised reason)⟩, inventory, backend)
  else (⟨[], .ok (.verdict false)⟩, inventory, backend)

/-- Carries a command out. Only the answers to queries depend on the gauges. -/
def run (setup : Setup) (gauges : Gauges) (backend : β) (inventory : Inventory) :
    Command → Observation × Inventory × β
  | .allocate bytes space => inventory.allocate setup.build backend bytes space
  | .deallocate addr _ space => inventory.deallocate backend addr space
  | .copy request => inventory.copy backend request
  | .query query => (⟨[], inventory.answer setup gauges query⟩, inventory, backend)

end Inventory

/-! ## Gauges -/

/-- The tally after a command. An allocation is turned down if it ends without a block, and a copy
if it ends with `false`; a deallocation that ends so was turned down unless the backend was
asked. -/
def Tally.after (tally : Tally) (command : Command) (seen : Observation) : Tally where
  allocations := tally.allocations + match command, seen.result with
    | .allocate .., .ok (.block none) => 1
    | _, _ => 0
  deallocations := tally.deallocations + match command, seen.result, seen.calls with
    | .deallocate .., .ok (.verdict false), [] => 1
    | _, _, _ => 0
  copies := tally.copies + match command, seen.result with
    | .copy _, .ok (.verdict false) => 1
    | _, _ => 0
  backendFailures := tally.backendFailures + seen.calls.countP fun call => call.2.isRefused

/-- The gauges after a command. A byte figure goes up and down with the sum of the sizes, but not
above the greatest word and not below zero. -/
def Gauges.after (gauges : Gauges) (before next : Inventory) (command : Command)
    (seen : Observation) : Gauges where
  bytes space :=
    min (gauges.bytes space + (next.total space - before.total space)) (UInt64.size - 1) -
      (before.total space - next.total space)
  tally := gauges.tally.after command seen

structure Reference (β : Type) where
  inventory : Inventory := {}
  gauges : Gauges := {}
  backend : β

namespace Reference

variable {β : Type} [Backend β]

def step (setup : Setup) (reference : Reference β) (command : Command) :
    Observation × Reference β :=
  let (seen, next, backend) :=
    reference.inventory.run setup reference.gauges reference.backend command
  (seen, ⟨next, reference.gauges.after reference.inventory next command seen, backend⟩)

def after (setup : Setup) (commands : List Command) (reference : Reference β) : Reference β :=
  commands.foldl (fun reference command => (reference.step setup command).2) reference

def observe (setup : Setup) : List Command → Reference β → List Observation
  | [], _ => []
  | command :: rest, reference =>
      let (seen, next) := reference.step setup command
      seen :: observe setup rest next

end Reference

end TrackedMemory
