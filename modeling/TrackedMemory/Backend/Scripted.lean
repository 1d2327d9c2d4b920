import TrackedMemory.Backend.Request

/-!
# A backend that follows a script

Each call takes the next cue of a script; without one it succeeds. A block that no cue places is
given a fresh address. Freed blocks are not handed out again, and nothing is copied.
-/

namespace TrackedMemory

/-- What the script has a call do. -/
inductive Cue where
  | succeed
  /-- Succeeds; an allocation returns the block at this address. -/
  | place (ptr : Ptr)
  | fail (failure : Failure)
  | breakOff (reason : String)
  deriving DecidableEq

structure Scripted where
  script : List Cue := []
  /-- Number of blocks handed out at fresh addresses. -/
  fresh : Nat := 0

namespace Scripted

/-- The fresh address of a number: the addresses are `0x10000` apart, from `0x10000000` on. -/
def freshAddr (number : Nat) : Addr :=
  UInt64.ofNat (0x10000000 + number * 0x10000)

def follow (script : List Cue) (backend : Scripted) : Scripted :=
  { backend with script := script }

def cue (backend : Scripted) : Cue :=
  backend.script.head?.getD .succeed

def advance (backend : Scripted) : Scripted :=
  { backend with script := backend.script.tail }

def alloc (space : Space) (bytes : Size) (backend : Scripted) : Reply Ptr × Scripted :=
  match backend.cue with
  | .succeed =>
      match Ptr.ofAddr? (freshAddr backend.fresh) with
      | some ptr => (.granted ptr, { backend.advance with fresh := backend.fresh + 1 })
      | none => (.refused (.outOfMemory space bytes), backend.advance)
  | .place ptr => (.granted ptr, backend.advance)
  | .fail failure => (.refused failure, backend.advance)
  | .breakOff reason => (.raised reason, backend.advance)

def serve (backend : Scripted) : Reply Unit × Scripted :=
  match backend.cue with
  | .succeed | .place _ => (.granted (), backend.advance)
  | .fail failure => (.refused failure, backend.advance)
  | .breakOff reason => (.raised reason, backend.advance)

instance : Backend Scripted where
  alloc := alloc
  free _ _ _ := serve
  copy _ := serve

end Scripted

end TrackedMemory
