import TrackedMemory.Backend.Request

/-!
# A backend that recycles addresses at once

The address that was freed last is the first to be handed out again, in any space. Fresh addresses
are one stride apart, and no block is longer than a stride, so live blocks never overlap. The next
allocations or frees can be made to fail. Nothing is ever read or written at these addresses.
-/

namespace TrackedMemory

structure Recycling where
  /-- The fresh address that is handed out next. -/
  next : Addr := 0x10000000
  /-- Freed addresses, the last one first. -/
  freeList : List Addr := []
  failingAllocs : Nat := 0
  failingFrees : Nat := 0
  allocs : Nat := 0
  frees : Nat := 0
  copies : Nat := 0

namespace Recycling

/-- Distance of fresh addresses, and the greatest size of a block. -/
def stride : Size := 0x10000

/-- Takes the address that was freed last, or else a fresh one. -/
def take (backend : Recycling) : Addr × Recycling :=
  match backend.freeList with
  | addr :: rest => (addr, { backend with freeList := rest })
  | [] => (backend.next, { backend with next := backend.next + stride })

/-- Hands a block out. A failure that was asked for is used up even where the block is too long. -/
def alloc (space : Space) (bytes : Size) (backend : Recycling) : Reply Ptr × Recycling :=
  if !space.isValid then (.refused (.unsupportedSpace space), backend)
  else
    let failing : Bool := 0 < backend.failingAllocs
    let noted := { backend with failingAllocs := backend.failingAllocs - 1 }
    if failing || stride < bytes then (.refused (.outOfMemory space bytes), noted)
    else
      let (addr, taken) := take { noted with allocs := noted.allocs + 1 }
      match Ptr.ofAddr? addr with
      | some ptr => (.granted ptr, taken)
      | none => (.refused (.outOfMemory space bytes), taken)

/-- Takes a block back, unless this free is to break off. -/
def free (ptr : Ptr) (backend : Recycling) : Reply Unit × Recycling :=
  if 0 < backend.failingFrees then
    (.raised s!"fake backend: free of {Word.hexText ptr.addr} failed",
      { backend with failingFrees := backend.failingFrees - 1 })
  else
    (.granted (),
      { backend with frees := backend.frees + 1, freeList := ptr.addr :: backend.freeList })

def copy (backend : Recycling) : Reply Unit × Recycling :=
  (.granted (), { backend with copies := backend.copies + 1 })

instance : Backend Recycling where
  alloc := alloc
  free _ ptr _ := free ptr
  copy _ := copy

end Recycling

end TrackedMemory
