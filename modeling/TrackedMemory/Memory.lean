import TrackedMemory.Address

/-!
# Memory

The contents of every byte of the address space, as a function. Filling, writing and moving change
the bytes of one range and leave all others as they were.
-/

namespace TrackedMemory

structure Memory where
  byte : Addr → UInt8

namespace Memory

def zero : Memory :=
  ⟨fun _ => 0⟩

/-- How far an address lies above another one. -/
def offset (start addr : Addr) : Nat :=
  (addr - start).toNat

def clear (memory : Memory) (start : Addr) (bytes : Size) : Memory :=
  ⟨fun addr => if addr - start < bytes then 0 else memory.byte addr⟩

def write (memory : Memory) (start : Addr) (data : ByteArray) : Memory :=
  ⟨fun addr => (data.data[offset start addr]?).getD (memory.byte addr)⟩

/-- Memory with a range of bytes moved; the ranges may overlap. -/
def move (memory : Memory) (dst src : Addr) (bytes : Size) : Memory :=
  ⟨fun addr =>
    if addr - dst < bytes then memory.byte (src + (addr - dst)) else memory.byte addr⟩

def read (memory : Memory) (start : Addr) (bytes : Nat) : List UInt8 :=
  (List.range bytes).map fun index => memory.byte (start + UInt64.ofNat index)

end Memory

end TrackedMemory
