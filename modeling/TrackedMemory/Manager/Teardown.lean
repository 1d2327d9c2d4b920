import TrackedMemory.Manager.Site

/-!
# Teardown

A manager that is dropped reports the blocks that are still live and gives each of them back to the
backend, area by area and in the order of their addresses. An error of the backend is logged and the
release goes on; a break-off of the backend ends it.
-/

namespace TrackedMemory

namespace Books

def reportLeaks (setup : Setup) : Act Books Unit := do
  let report := (← Act.read).registries.leakReport
  if setup.config.reportLeaks && !report.isClean then Act.log (.leaked report) else pure ()

end Books

namespace Site

variable {β : Type} [Backend β]

/-- Gives the block at a pointer back to the backend and logs an error. -/
def releaseAt (area : Area) (ptr : Ptr) (bytes : Size) : Act (Site β) Unit := do
  match ← askFree area ptr bytes with
  | .ok () => pure ()
  | .error failure => Act.log (.releaseFailed ptr.addr area.space failure)

/-- Gives one block back and drops its record. -/
def releaseBlock (setup : Setup) (area : Area) (block : Block) : Act (Site β) Unit := do
  match Ptr.ofAddr? block.start with
  | some ptr => releaseAt area ptr block.size
  | none => pure ()
  let _ ← onBooks (Books.deregister setup area block.start)

def releaseBlocks (setup : Setup) (area : Area) : List Block → Act (Site β) Unit
  | [] => pure ()
  | block :: rest => do
      releaseBlock setup area block
      releaseBlocks setup area rest

def releaseAreas (setup : Setup) : List Area → Act (Site β) Unit
  | [] => pure ()
  | area :: rest => do
      releaseBlocks setup area ((← Act.read).books.registries.get area).blocks
      releaseAreas setup rest

def teardown (setup : Setup) : Act (Site β) Unit := do
  onBooks (Books.reportLeaks setup)
  if setup.config.releaseBlocks then releaseAreas setup Area.all else pure ()

end Site

end TrackedMemory
