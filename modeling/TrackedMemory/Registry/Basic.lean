import TrackedMemory.Figures

/-!
# Registries

A registry holds the live blocks of one space in ascending order of their start, and counts the
blocks that ever came and went. The byte figure is kept along the way and saturates at both ends.
Everything here is plain data; `TrackedMemory.Registry.Guarded` puts contracts around the changes.
-/

namespace TrackedMemory

structure Block where
  start : Addr
  size : Size
  deriving DecidableEq

/-- The live blocks of one space and the counters of its lifetime. -/
structure Registry where
  blocks : List Block := []
  liveBytes : Size := 0
  registrations : Nat := 0
  deregistrations : Nat := 0
  deriving DecidableEq

namespace Registry

/-- Puts a block in its place by start, over one with the same start. -/
def insertBlock (block : Block) : List Block → List Block
  | [] => [block]
  | first :: rest =>
      if block.start < first.start then block :: first :: rest
      else if block.start = first.start then block :: rest
      else first :: insertBlock block rest

def find? (registry : Registry) (addr : Addr) : Option Block :=
  registry.blocks.find? fun block => block.start = addr

def contains (registry : Registry) (addr : Addr) : Bool :=
  (registry.find? addr).isSome

/-- Size of the block that starts at an address, or zero. -/
def sizeOf (registry : Registry) (addr : Addr) : Size :=
  ((registry.find? addr).map Block.size).getD 0

/-- The last block that starts at an address or below it. -/
def nearest? (registry : Registry) (addr : Addr) : Option Block :=
  (registry.blocks.filter fun block => block.start ≤ addr).getLast?

/-- Whether a range of addresses lies inside the nearest block. -/
def covers (registry : Registry) (addr : Addr) (bytes : Size) : Bool :=
  match Word.checkedAdd addr bytes, registry.nearest? addr with
  | some stop, some block =>
      match Word.checkedAdd block.start block.size with
      | some blockStop => stop ≤ blockStop
      | none => false
  | _, _ => false

def liveCount (registry : Registry) : Nat :=
  registry.blocks.length

def figures (registry : Registry) : Figures where
  liveCount := registry.liveCount
  liveBytes := registry.liveBytes
  registrations := registry.registrations
  deregistrations := registry.deregistrations

/-- Whether the counters agree with the number of live blocks. -/
def isConsistent (registry : Registry) : Bool :=
  registry.deregistrations ≤ registry.registrations &&
    registry.registrations - registry.deregistrations == registry.liveCount

def insert (registry : Registry) (block : Block) : Registry where
  blocks := insertBlock block registry.blocks
  liveBytes := Word.saturatingAdd registry.liveBytes block.size
  registrations := registry.registrations + 1
  deregistrations := registry.deregistrations

def erase (registry : Registry) (block : Block) : Registry where
  blocks := registry.blocks.filter fun other => other.start ≠ block.start
  liveBytes := Word.saturatingSub registry.liveBytes block.size
  registrations := registry.registrations
  deregistrations := registry.deregistrations + 1

end Registry

end TrackedMemory
