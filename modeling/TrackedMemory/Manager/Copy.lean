import TrackedMemory.Manager.Site

/-!
# Copying

A copy between tracked blocks goes ahead only if each end lies inside one live block, of the named
space or of the managed space. A copy of external memory is not checked. Copies change neither a
registry nor a ticket.
-/

namespace TrackedMemory

structure CopyRequest where
  dst : Addr
  src : Addr
  bytes : Size
  dstSpace : Space
  srcSpace : Space
  /-- The caller answers for both ends. -/
  outside : Bool
  deriving DecidableEq

namespace CopyRequest

/-- The transfer that is asked for, unless an end of it is null. -/
def transfer? (request : CopyRequest) : Option Transfer :=
  match Ptr.ofAddr? request.dst, Ptr.ofAddr? request.src with
  | some dst, some src =>
      some ⟨dst, src, request.bytes, request.dstSpace, request.srcSpace⟩
  | _, _ => none

end CopyRequest

inductive End where
  | destination
  | source
  deriving DecidableEq

namespace Transfer

def addr (transfer : Transfer) : End → Addr
  | .destination => transfer.dst.addr
  | .source => transfer.src.addr

/-- Space that the caller names for an end. -/
def space (transfer : Transfer) : End → Space
  | .destination => transfer.dstSpace
  | .source => transfer.srcSpace

def unknownEnd (transfer : Transfer) : End → Remark
  | .destination =>
      .unknownDestination transfer.dst.addr transfer.bytes transfer.dstSpace
  | .source => .unknownSource transfer.src.addr transfer.bytes transfer.srcSpace

end Transfer

namespace Books

def refuseCopy (setup : Setup) (reason : Remark) : Act Books Unit := do
  rejectCopy
  remark setup reason

def copyFailed (failure : Failure) : Act Books Unit := do
  rejectCopy
  backendFailed .copy failure

/-- Whether an end of a transfer lies inside one live block. -/
def coversEnd (books : Books) (transfer : Transfer) (side : End) : Bool :=
  books.registries.covers (transfer.addr side) transfer.bytes (transfer.space side)

/-- The first end of a transfer, destination before source, that lies in no block. -/
def uncovered? (books : Books) (transfer : Transfer) : Option End :=
  [End.destination, .source].find? fun side => !books.coversEnd transfer side

end Books

namespace Site

variable {β : Type} [Backend β]

/-- Has the backend make a transfer, and tells whether it did. -/
def transfer (transfer : Transfer) : Act (Site β) Bool := do
  match ← askCopy transfer with
  | .ok () => pure true
  | .error failure =>
      onBooks (Books.copyFailed failure)
      pure false

/-- Copies bytes, and tells whether they were copied. Nothing is to be done for zero bytes. -/
def copy (setup : Setup) (request : CopyRequest) : Act (Site β) Bool := do
  if request.bytes = 0 then pure true
  else match request.transfer? with
    | none =>
        onBooks (Books.refuseCopy setup .copyOfNull)
        pure false
    | some transfer =>
        let books := (← Act.read).books
        match if request.outside then none else books.uncovered? transfer with
        | some side =>
            onBooks (Books.refuseCopy setup (transfer.unknownEnd side))
            pure false
        | none => Site.transfer transfer

end Site

end TrackedMemory
