import TrackedMemory.Manager.Books

/-!
# A manager at its backend

A `Site` is the books of one manager beside the backend that serves it. `Site.ask` makes one backend
call: it is recorded with its answer, an error is a value, and a break-off breaks the caller off as
well.
-/

namespace TrackedMemory

/-- The books of a manager and the backend that serves it. -/
structure Site (β : Type) where
  books : Books := {}
  backend : β

namespace Site

variable {β α : Type}

def onBooks (act : Act Books α) : Act (Site β) α :=
  act.within Site.books fun books site => { site with books := books }

/-- Makes a backend call; `block` tells the block that the call hands out. -/
def ask (request : Request) (block : α → Option Ptr) (answer : β → Reply α × β) :
    Act (Site β) (Except Failure α) := do
  let served := answer (← Act.read).backend
  Act.update fun site => { site with backend := served.2 }
  Act.call request (served.1.map block)
  match served.1 with
  | .granted value => pure (.ok value)
  | .refused failure => pure (.error failure)
  | .raised reason => Act.fail (.raised reason)

variable [Backend β]

def askAlloc (area : Area) (bytes : Size) : Act (Site β) (Except Failure Ptr) :=
  ask (.alloc area.space bytes) some (Backend.alloc area.space bytes)

def askFree (area : Area) (ptr : Ptr) (bytes : Size) : Act (Site β) (Except Failure Unit) :=
  ask (.free area.space ptr bytes) (fun _ => none) (Backend.free area.space ptr bytes)

def askCopy (transfer : Transfer) : Act (Site β) (Except Failure Unit) :=
  ask (.copy transfer) (fun _ => none) (Backend.copy transfer)

end Site

end TrackedMemory
