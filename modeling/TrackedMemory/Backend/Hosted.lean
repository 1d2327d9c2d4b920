import TrackedMemory.Backend.Request
import TrackedMemory.Backend.Layout
import TrackedMemory.Memory

/-!
# Backends over real memory

`System` is what hands out address ranges: an allocator or the mapping calls of an operating system.
A heap and a page backend check the layout of each request and leave the rest to their system. All
spaces are ordinary memory here, so a copy moves bytes whatever the spaces are.
-/

namespace TrackedMemory

inductive Grant where
  /-- The range starts here; the null address stands for no range at all. -/
  | placed (addr : Addr)
  | exhausted
  | refused (reason : String)
  deriving DecidableEq

/-- Hands out address ranges and takes them back. -/
class System (σ : Type) where
  /-- Asks for a range of a layout. -/
  obtain : Layout → σ → Grant × σ
  /-- Gives a range of a layout back; the answer is the reason for a refusal. -/
  release : Ptr → Layout → σ → Option String × σ

structure Host (σ : Type) where
  system : σ
  memory : Memory := .zero

namespace Host

variable {σ : Type}

def move (transfer : Transfer) (host : Host σ) : Host σ :=
  { host with
    memory := host.memory.move transfer.dst.addr transfer.src.addr transfer.bytes }

end Host

/-- Backend whose blocks lie in a host's memory. -/
class Hosting (β : Type) (σ : outParam Type) where
  host : β → Host σ
  setHost : Host σ → β → β

/-- Backend that takes blocks of one alignment from an allocator. -/
structure Heap (σ : Type) where
  align : Alignment
  host : Host σ

namespace Heap

variable {σ : Type} [System σ]

def allocLayout (align : Alignment) (space : Space) (bytes : Size) : Except Failure Layout := do
  requireValid space
  align.blockLayout bytes

def freeLayout (align : Alignment) (space : Space) (bytes : Size) : Except Failure Layout := do
  requireValid space
  align.layout bytes

def alloc (space : Space) (bytes : Size) (heap : Heap σ) : Reply Ptr × Heap σ :=
  match allocLayout heap.align space bytes with
  | .error failure => (.refused failure, heap)
  | .ok layout =>
      let (grant, system) := System.obtain layout heap.host.system
      let answer : Reply Ptr := match grant with
        | .placed addr =>
            match Ptr.ofAddr? addr with
            | some ptr => .granted ptr
            | none => .refused (.outOfMemory space bytes)
        | .exhausted | .refused _ => .refused (.outOfMemory space bytes)
      (answer, { heap with host := { heap.host with system := system } })

def free (space : Space) (ptr : Ptr) (bytes : Size) (heap : Heap σ) : Reply Unit × Heap σ :=
  match freeLayout heap.align space bytes with
  | .error failure => (.refused failure, heap)
  | .ok layout =>
      let (_, system) := System.release ptr layout heap.host.system
      (.granted (), { heap with host := { heap.host with system := system } })

instance : Backend (Heap σ) where
  alloc := alloc
  free := free
  copy transfer heap := (.granted (), { heap with host := heap.host.move transfer })

instance : Hosting (Heap σ) σ where
  host := Heap.host
  setHost host heap := { heap with host := host }

end Heap

/-- Backend that maps whole pages. -/
structure Pages (σ : Type) where
  host : Host σ

namespace Pages

variable {σ : Type} [System σ]

def allocLength (space : Space) (bytes : Size) : Except Failure Size := do
  requireValid space
  Page.blockLength bytes

def freeLength (space : Space) (bytes : Size) : Except Failure Size := do
  requireValid space
  Page.length bytes

def alloc (space : Space) (bytes : Size) (pages : Pages σ) : Reply Ptr × Pages σ :=
  match allocLength space bytes with
  | .error failure => (.refused failure, pages)
  | .ok length =>
      let (grant, system) := System.obtain (Page.layout length) pages.host.system
      let answer : Reply Ptr := match grant with
        | .placed addr =>
            match Ptr.ofAddr? addr with
            | some ptr => .granted ptr
            | none => .refused (.system "mmap returned null")
        | .exhausted => .refused (.outOfMemory space bytes)
        | .refused reason => .refused (.system reason)
      (answer, { pages with host := { pages.host with system := system } })

def free (space : Space) (ptr : Ptr) (bytes : Size) (pages : Pages σ) : Reply Unit × Pages σ :=
  match freeLength space bytes with
  | .error failure => (.refused failure, pages)
  | .ok length =>
      let (refusal, system) := System.release ptr (Page.layout length) pages.host.system
      let answer : Reply Unit := match refusal with
        | none => .granted ()
        | some reason => .refused (.system reason)
      (answer, { pages with host := { pages.host with system := system } })

instance : Backend (Pages σ) where
  alloc := alloc
  free := free
  copy transfer pages := (.granted (), { pages with host := pages.host.move transfer })

instance : Hosting (Pages σ) σ where
  host := Pages.host
  setHost host _ := ⟨host⟩

end Pages

end TrackedMemory
