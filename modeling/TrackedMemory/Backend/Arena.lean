import TrackedMemory.Backend.Hosted

/-!
# An arena that never reuses an address

The simplest system: ranges are handed out one after the other, from the bottom of a 47-bit address
space to its top, and a range that was given back is not handed out again. Two ranges never overlap.
A range is refused that is too long for the memory of the machine by itself, together with the
alignment that may be lost in front of it; ranges are not counted against each other.
-/

namespace TrackedMemory

/-- Lowest address that has not been handed out. -/
structure Arena where
  next : Nat := 0x10000

namespace Arena

/-- End of the address space. -/
def limit : Nat := 0x800000000000

def capacity : Nat := 0x800000000

/-- Start of the next range of an alignment. -/
def start (arena : Arena) (align : Size) : Nat :=
  (arena.next + (align.toNat - 1)) / align.toNat * align.toNat

/-- Hands out the next range, if it is not too long and the address space lasts. -/
def obtain (layout : Layout) (arena : Arena) : Grant × Arena :=
  let stop := arena.start layout.align + layout.size.toNat
  if layout.size.toNat + layout.align.toNat < capacity ∧ stop ≤ limit then
    (.placed (UInt64.ofNat (arena.start layout.align)), ⟨stop⟩)
  else (.exhausted, arena)

instance : System Arena where
  obtain := obtain
  release _ layout arena :=
    (if layout.size = 0 then some "Invalid argument (os error 22)" else none, arena)

end Arena

end TrackedMemory
