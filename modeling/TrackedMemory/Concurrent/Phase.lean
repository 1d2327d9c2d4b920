import TrackedMemory.Manager.Command

/-!
# Calls that run side by side

A call that runs beside others goes through phases. Each step reads or changes the books once: it
looks into one registry, draws a ticket, takes its turn, changes a registry or retires. Between two
steps any other call may run. `Phase.act?` is the next step of a call on its own; a call inside its
backend goes on with `Phase.grant?` or `Phase.reply?` when the backend answers.
-/

namespace TrackedMemory

/-- What a call does in its turn. -/
inductive Change where
  | register (area : Area) (ptr : Ptr) (bytes : Size)
  /-- Drops a record; the call returns whether the backend had freed the block. -/
  | deregister (area : Area) (ptr : Ptr) (bytes : Size) (freed : Bool)
  /-- Nothing: the backend broke off while it freed the block. -/
  | nothing (fault : Fault)
  deriving DecidableEq

/-- What the area of a block is looked up for. -/
inductive Purpose where
  | space
  | size
  /-- Confirms that a new block was registered. -/
  | confirm (area : Area) (ptr : Ptr) (bytes : Size) (ticket : Nat)
  deriving DecidableEq

inductive Phase where
  /-- Nothing has been done. -/
  | entered (command : Command)
  /-- The backend looks for a block. -/
  | inAlloc (area : Area) (bytes : Size)
  /-- The backend gave a block, and the ticket is still to be drawn. -/
  | granted (area : Area) (ptr : Ptr) (bytes : Size)
  /-- The block to be freed was found with its size, and the ticket is still to be drawn. -/
  | found (area : Area) (ptr : Ptr) (bytes : Size)
  /-- The backend frees a block. -/
  | inFree (ticket : Nat) (area : Area) (ptr : Ptr) (bytes : Size)
  /-- The call waits for its turn. -/
  | queued (ticket : Nat) (change : Change)
  /-- The call has its turn and has changed nothing. -/
  | inTurn (ticket : Nat) (change : Change)
  /-- The call has its turn, and its change was made or broke off. -/
  | changed (ticket : Nat) (change : Change) (result : Except Fault Unit)
  /-- The area of a block is looked up; these areas are left. -/
  | searching (addr : Addr) (rest : List Area) (purpose : Purpose)
  /-- The area of a block is known, and its size is still to be read. -/
  | measuring (addr : Addr) (area : Area)
  /-- An end of a transfer is checked; these areas are left. -/
  | checking (transfer : Transfer) (side : End) (rest : List Area)
  /-- The backend copies. -/
  | inCopy (transfer : Transfer)
  /-- A query reads the registries one by one; these areas are left. -/
  | surveying (query : Query) (rest : List Area) (seen : Registries)
  | finished (result : Except Fault Answer)

/-- The areas whose registries a query reads one by one. -/
def Query.areas : Query → List Area
  | .spaceOf _ | .sizeOf _ | .config => []
  | .allocationCount space | .deallocationCount space | .liveCount space | .liveBytes space =>
      space.area?.toList
  | .figures _ | .statistics | .totalLiveBytes | .leakReport | .isConsistent => Area.all

def Change.apply (setup : Setup) : Change → Act Books Unit
  | .register area ptr bytes => do
      let _ ← Books.register setup area ptr bytes
  | .deregister area ptr _ _ => do
      let _ ← Books.deregister setup area ptr.addr
  | .nothing _ => pure ()

namespace Phase

/-- Bound on the number of steps that are left, answers of the backend included. A call that has yet
to draw a ticket has ten or more. -/
def stepsLeft : Phase → Nat
  | .finished _ => 0
  | .inCopy _ | .measuring .. => 1
  | .searching _ rest _ => rest.length + 2
  | .surveying _ rest _ => rest.length + 1
  | .changed .. => 6
  | .inTurn .. => 7
  | .queued .. => 8
  | .inFree .. => 9
  | .granted .. | .found .. => 10
  | .inAlloc .. => 11
  | .checking _ .source rest => rest.length + 2
  | .checking _ .destination rest => rest.length + 6
  | .entered _ => 12

def isInBackend : Phase → Bool
  | .inAlloc .. | .inFree .. | .inCopy _ => true
  | _ => false

def enter (setup : Setup) : Command → Act Books Phase
  | .allocate bytes space =>
      match allocationArea bytes space with
      | .error reason => do
          Books.refuseAllocation setup reason
          pure (.finished (.ok (.block none)))
      | .ok area => pure (.inAlloc area bytes)
  | .deallocate addr bytes space =>
      match deallocationTarget addr space with
      | .error reason => do
          Books.refuseDeallocation setup reason
          pure (.finished (.ok (.verdict false)))
      | .ok (ptr, area) => do
          match ← Books.lookUp setup area ptr bytes with
          | none => pure (.finished (.ok (.verdict false)))
          | some registered => pure (.found area ptr registered)
  | .copy request =>
      if request.bytes = 0 then pure (.finished (.ok (.verdict true)))
      else match request.transfer? with
        | none => do
            Books.refuseCopy setup .copyOfNull
            pure (.finished (.ok (.verdict false)))
        | some transfer =>
            if request.outside then pure (.inCopy transfer)
            else pure (.checking transfer .destination (Registries.candidates transfer.dstSpace))
  | .query (.spaceOf addr) => pure (.searching addr Area.all .space)
  | .query (.sizeOf addr) => pure (.searching addr Area.all .size)
  | .query query => pure (.surveying query query.areas {})

/-- Goes on after the look-up of a block's area. -/
def resolve (setup : Setup) (addr : Addr) (area? : Option Area) : Purpose → Act Books Phase
  | .space => pure (.finished (.ok (.space ((area?.map Area.space).getD .invalid))))
  | .size =>
      match area? with
      | some area => pure (.measuring addr area)
      | none => do
          let answer ← Books.answerSize setup addr 0
          pure (.finished (.ok answer))
  | .confirm area ptr bytes ticket => do
      Books.requireFound setup area ptr area?
      Act.log (.allocated bytes area.space ptr.addr ticket)
      pure (.finished (.ok (.block ptr)))

/-- Retires a turn and goes on. A new block is confirmed in checked builds only. -/
def leave (setup : Setup) (ticket : Nat) : Change → Except Fault Unit → Act Books Phase
  | _, .error fault => do
      Act.update Books.retire
      pure (.finished (.error fault))
  | .register area ptr bytes, .ok () => do
      Act.update Books.retire
      if setup.build.isChecked then
        pure (.searching ptr.addr Area.all (.confirm area ptr bytes ticket))
      else
        Act.log (.allocated bytes area.space ptr.addr ticket)
        pure (.finished (.ok (.block ptr)))
  | .deregister area ptr bytes freed, .ok () => do
      Act.update Books.retire
      Act.log (.deallocated bytes area.space ptr.addr ticket)
      pure (.finished (.ok (.verdict freed)))
  | .nothing fault, .ok () => do
      Act.update Books.retire
      pure (.finished (.error fault))

def approve (transfer : Transfer) : End → Phase
  | .destination => .checking transfer .source (Registries.candidates transfer.srcSpace)
  | .source => .inCopy transfer

def disapprove (setup : Setup) (transfer : Transfer) (side : End) : Act Books Phase := do
  Books.refuseCopy setup (transfer.unknownEnd side)
  pure (.finished (.ok (.verdict false)))

/-- Answers a query from the registries that were seen. -/
def conclude (setup : Setup) (query : Query) (seen : Registries) : Act Books Phase := fun books =>
  let outcome := Books.query setup query { books with registries := seen }
  ⟨.ok (.finished outcome.result), books, outcome.trace⟩

/-- The next step of a call, unless the call is finished, inside its backend, or waits for a turn
that another call has. -/
def act? (setup : Setup) (books : Books) : Phase → Option (Act Books Phase)
  | .entered command => some (enter setup command)
  | .granted area ptr bytes => some do
      let ticket ← Books.draw
      pure (.queued ticket (.register area ptr bytes))
  | .found area ptr bytes => some do
      let ticket ← Books.draw
      pure (.inFree ticket area ptr bytes)
  | .queued ticket change =>
      (books.sequencer.enter? ticket).map fun _ => do
        Books.enter ticket
        pure (.inTurn ticket change)
  | .inTurn ticket change => some do
      let result ← (change.apply setup).attempt
      pure (.changed ticket change result)
  | .changed ticket change result => some (leave setup ticket change result)
  | .searching addr [] purpose => some (resolve setup addr none purpose)
  | .searching addr (area :: rest) purpose => some do
      if ((← Act.read).registries.get area).contains addr then
        resolve setup addr (some area) purpose
      else if rest.isEmpty then resolve setup addr none purpose
      else pure (.searching addr rest purpose)
  | .measuring addr area => some do
      let size := ((← Act.read).registries.get area).sizeOf addr
      let answer ← Books.answerSize setup addr size
      pure (.finished (.ok answer))
  | .checking transfer side [] => some (disapprove setup transfer side)
  | .checking transfer side (area :: rest) => some do
      let registry := (← Act.read).registries.get area
      if registry.covers (transfer.addr side) transfer.bytes then
        pure (approve transfer side)
      else if rest.isEmpty then disapprove setup transfer side
      else pure (.checking transfer side rest)
  | .surveying query [] seen => some (conclude setup query seen)
  | .surveying query (area :: rest) seen => some do
      let registry := (← Act.read).registries.get area
      pure (.surveying query rest (seen.set registry area))
  | .inAlloc .. | .inFree .. | .inCopy _ | .finished _ => none

def grant? (reply : Reply Ptr) : Phase → Option (Act Books Phase)
  | .inAlloc area bytes => some do
      Act.call (.alloc area.space bytes) (reply.map some)
      match reply with
      | .granted ptr => pure (.granted area ptr bytes)
      | .refused failure =>
          Books.allocationFailed failure
          pure (.finished (.ok (.block none)))
      | .raised reason => Act.fail (.raised reason)
  | _ => none

def freed (ticket : Nat) (area : Area) (ptr : Ptr) (bytes : Size) :
    Reply Unit → Act Books Phase
  | .granted () => pure (.queued ticket (.deregister area ptr bytes true))
  | .refused failure => do
      Books.settleFree (.error failure)
      pure (.queued ticket (.deregister area ptr bytes false))
  | .raised reason => do
      Act.log (.abandoned ticket)
      pure (.queued ticket (.nothing (.raised reason)))

def copied : Reply Unit → Act Books Phase
  | .granted () => pure (.finished (.ok (.verdict true)))
  | .refused failure => do
      Books.copyFailed failure
      pure (.finished (.ok (.verdict false)))
  | .raised reason => Act.fail (.raised reason)

def reply? (reply : Reply Unit) : Phase → Option (Act Books Phase)
  | .inFree ticket area ptr bytes => some do
      Act.call (.free area.space ptr bytes) (reply.map fun _ => none)
      freed ticket area ptr bytes reply
  | .inCopy transfer => some do
      Act.call (.copy transfer) (reply.map fun _ => none)
      copied reply
  | _ => none

end Phase

end TrackedMemory
