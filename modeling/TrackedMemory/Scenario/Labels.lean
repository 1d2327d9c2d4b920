import TrackedMemory.Space
import TrackedMemory.Address

/-!
# Named blocks

A scenario names the blocks that it receives and points to them by name and offset, so that it need
not know their addresses. Labels remember where each named block lies, whether it was freed, and
which allocations came after that. An address is written by the name of the block that it lies in.
-/

namespace TrackedMemory

inductive Place where
  | null
  | address (addr : Addr)
  /-- So many bytes into a named block; the sum wraps. -/
  | within (name : String) (offset : Size)
  deriving DecidableEq

structure Label where
  name : String
  start : Addr
  size : Size
  /-- The manager that keeps the block; none keeps a buffer of the scenario's own. -/
  owner : Option Nat := none
  /-- Number of allocations that had succeeded when the block was freed. -/
  freedAfter : Option Nat := none

namespace Label

def isLive (label : Label) : Bool :=
  label.freedAfter.isNone

def holds (label : Label) (offset bytes : Size) : Bool :=
  offset.toNat + bytes.toNat ≤ label.size.toNat

def text? (label : Label) (addr : Addr) : Option String :=
  let offset := addr - label.start
  if offset = 0 then some label.name
  else if offset < label.size then some s!"{label.name}+{offset}"
  else none

end Label

/-- Named blocks, the latest one first, and the number of allocations that succeeded. -/
structure Labels where
  entries : List Label := []
  allocations : Nat := 0

namespace Labels

def find? (labels : Labels) (name : String) : Option Label :=
  labels.entries.find? fun label => label.name == name

def live? (labels : Labels) (name : String) : Option Label :=
  (labels.find? name).filter Label.isLive

def add (labels : Labels) (label : Label) : Labels :=
  { labels with entries := label :: labels.entries }

def allocated (labels : Labels) (label : Label) : Labels :=
  { entries := label :: labels.entries, allocations := labels.allocations + 1 }

def free (labels : Labels) (test : Label → Bool) : Labels :=
  { labels with
    entries := labels.entries.map fun label =>
      if label.isLive && test label then { label with freedAfter := some labels.allocations }
      else label }

/-- The address of a place. A name that was never given stands for the null address. -/
def addr (labels : Labels) : Place → Addr
  | .null => 0
  | .address addr => addr
  | .within name offset => ((labels.find? name).map Label.start).getD 0 + offset

/-- The address of a place inside a named block. A freed block serves as long as its memory cannot
have been handed out again. -/
def tracked? (labels : Labels) : Place → Option Addr
  | .null => some 0
  | .address _ => none
  | .within name offset => do
      let label ← labels.find? name
      let stale := label.freedAfter.any fun count => count < labels.allocations
      if stale || label.size ≤ offset then none else some (label.start + offset)

def range? (labels : Labels) (name : String) (offset bytes : Size) : Option Addr := do
  let label ← labels.live? name
  if label.holds offset bytes then some (label.start + offset) else none

def covers (labels : Labels) (addr : Addr) (bytes : Size) : Bool :=
  labels.entries.any fun label =>
    label.isLive && addr - label.start < label.size && label.holds (addr - label.start) bytes

/-- Writes an address by the name of the block that it lies in, and else as a number. -/
def text (labels : Labels) (addr : Addr) : String :=
  (labels.entries.findSome? fun label => label.text? addr).getD (Word.hexText addr)

end Labels

end TrackedMemory
