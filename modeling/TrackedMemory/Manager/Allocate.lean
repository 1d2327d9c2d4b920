import TrackedMemory.Manager.Site

/-!
# Allocating and deallocating

An allocation takes a block from the backend first and draws its ticket afterwards; a deallocation
draws its ticket first and gives the block back afterwards, so that whoever receives the same
address next queues behind it. Both change the registry in the turn of their ticket. A call that is
turned down draws no ticket.
-/

namespace TrackedMemory

/-- The area that serves an allocation, or what is wrong with the request. -/
def allocationArea (bytes : Size) (space : Space) : Except Remark Area :=
  if bytes = 0 then .error .zeroBytes
  else match space.area? with
    | some area => .ok area
    | none => .error (.unsupportedSpace .allocate space)

def deallocationTarget (addr : Addr) (space : Space) : Except Remark (Ptr × Area) :=
  match Ptr.ofAddr? addr, space.area? with
  | none, _ => .error .freeOfNull
  | some _, none => .error (.unsupportedSpace .deallocate space)
  | some ptr, some area => .ok (ptr, area)

namespace Books

def refuseAllocation (setup : Setup) (reason : Remark) : Act Books Unit := do
  rejectAllocation
  remark setup reason

def allocationFailed (failure : Failure) : Act Books Unit := do
  rejectAllocation
  backendFailed .allocate failure

/-- Requires in checked builds that a new block was found in its own area. -/
def requireFound (setup : Setup) (area : Area) (ptr : Ptr) (found : Option Area) :
    Act Books Unit :=
  setup.build.require .postcondition (found = some area) (.blockNotFound area.space ptr.addr)

def refuseDeallocation (setup : Setup) (reason : Remark) : Act Books Unit := do
  rejectDeallocation
  remark setup reason

/-- Looks up the size of a block to be freed. A size of zero turns the call down, and a size other
than the given one is only remarked on. -/
def lookUp (setup : Setup) (area : Area) (ptr : Ptr) (given : Size) :
    Act Books (Option Size) := do
  let registered := ((← Act.read).registries.get area).sizeOf ptr.addr
  if registered = 0 then
    refuseDeallocation setup (.freeOfUnknown ptr.addr area.space)
    pure none
  else
    if registered = given then pure ()
    else remark setup (.sizeDiffers ptr.addr registered given)
    pure (some registered)

def settleFree (freed : Except Failure Unit) : Act Books Unit :=
  match freed with
  | .ok () => pure ()
  | .error failure => backendFailed .deallocate failure

end Books

namespace Site

variable {β : Type} [Backend β]

def allocate (setup : Setup) (bytes : Size) (space : Space) : Act (Site β) (Option Ptr) :=
  match allocationArea bytes space with
  | .error reason => do
      onBooks (Books.refuseAllocation setup reason)
      pure none
  | .ok area => do
      match ← askAlloc area bytes with
      | .error failure =>
          onBooks (Books.allocationFailed failure)
          pure none
      | .ok ptr =>
          let ticket ← onBooks Books.draw
          let _ ← onBooks (Books.inTurn ticket (Books.register setup area ptr bytes))
          let found := (← Act.read).books.registries.areaOf? ptr.addr
          onBooks (Books.requireFound setup area ptr found)
          Act.log (.allocated bytes space ptr.addr ticket)
          pure (some ptr)

/-- Retires the ticket of a free that broke off, and breaks off likewise. -/
def abandonFree (ticket : Nat) (fault : Fault) : Act (Site β) Bool := do
  Act.log (.abandoned ticket)
  onBooks (Books.inTurn ticket (pure ()))
  Act.fail fault

/-- Frees a block with the size it was registered with, and drops its record. The record is dropped
also if the backend returns an error, and kept if the backend breaks off. -/
def deallocate (setup : Setup) (addr : Addr) (bytes : Size) (space : Space) :
    Act (Site β) Bool :=
  match deallocationTarget addr space with
  | .error reason => do
      onBooks (Books.refuseDeallocation setup reason)
      pure false
  | .ok (ptr, area) => do
      match ← onBooks (Books.lookUp setup area ptr bytes) with
      | none => pure false
      | some registered =>
          let ticket ← onBooks Books.draw
          match ← (askFree area ptr registered).attempt with
          | .error fault => abandonFree ticket fault
          | .ok freed =>
              onBooks (Books.settleFree freed)
              let _ ← onBooks (Books.inTurn ticket (Books.deregister setup area addr))
              Act.log (.deallocated registered space addr ticket)
              pure freed.isOk

end Site

end TrackedMemory
