import TrackedMemory.Backend.Failure

/-!
# Layouts

Before a block is taken from the system its size is checked against the rules of the place that it
is taken from. A heap block has an alignment that is a power of two, and size and alignment together
must not exceed half the address space. A mapped block is rounded up to whole pages.
-/

namespace TrackedMemory

structure Layout where
  size : Size
  align : Size
  deriving DecidableEq

/-- Power of two that fits into a word. -/
structure Alignment where
  bytes : Size
  isPowerOfTwo : bytes.toNat.isPowerOfTwo

namespace Alignment

def ofBytes? (bytes : Size) : Except Failure Alignment :=
  if isPowerOfTwo : bytes.toNat.isPowerOfTwo then .ok ⟨bytes, isPowerOfTwo⟩
  else .error (.invalidLayout 0 bytes)

/-- The alignment of a heap that asks for none. -/
def standard : Alignment where
  bytes := 256
  isPowerOfTwo := by decide

/-- The greatest sum of the size and the alignment of a heap block: half the address space. -/
def limit : Nat := UInt64.size / 2

def layout (align : Alignment) (bytes : Size) : Except Failure Layout :=
  if bytes.toNat + align.bytes.toNat ≤ limit then .ok ⟨bytes, align.bytes⟩
  else .error (.invalidLayout bytes align.bytes)

/-- The layout of a heap block that holds at least one byte. -/
def blockLayout (align : Alignment) (bytes : Size) : Except Failure Layout :=
  if bytes = 0 then .error (.invalidLayout bytes align.bytes) else align.layout bytes

end Alignment

def requireValid (space : Space) : Except Failure Unit :=
  if space.isValid then .ok () else .error (.unsupportedSpace space)

namespace Page

def size : Size := 4096

def layout (length : Size) : Layout :=
  ⟨length, size⟩

/-- The least multiple of the page size that is not below a size, if it is a word. -/
def mapped? (bytes : Size) : Option Size :=
  let length := (bytes.toNat + (size.toNat - 1)) / size.toNat * size.toNat
  if length < UInt64.size then some (UInt64.ofNat length) else none

def length (bytes : Size) : Except Failure Size :=
  match mapped? bytes with
  | some length => .ok length
  | none => .error (.invalidLayout bytes size)

def blockLength (bytes : Size) : Except Failure Size :=
  match mapped? bytes with
  | some length => if length = 0 then .error (.invalidLayout bytes size) else .ok length
  | none => .error (.invalidLayout bytes size)

end Page

end TrackedMemory
