import TrackedMemory.Backend.Failure

/-!
# Requests to a backend

A backend hands out blocks, takes them back and copies bytes between them. `Request` is one such
call as data, so that the calls of a run can be listed; `Backend` is what answers them. An answer is
a value, an error, or a break-off with a reason.
-/

namespace TrackedMemory

structure Transfer where
  dst : Ptr
  src : Ptr
  bytes : Size
  dstSpace : Space
  srcSpace : Space
  deriving DecidableEq

inductive Request where
  | alloc (space : Space) (bytes : Size)
  | free (space : Space) (ptr : Ptr) (bytes : Size)
  | copy (transfer : Transfer)
  deriving DecidableEq

inductive Reply (α : Type) where
  | granted (value : α)
  | refused (failure : Failure)
  | raised (reason : String)
  deriving DecidableEq

def Reply.map {α γ : Type} (change : α → γ) : Reply α → Reply γ
  | .granted value => .granted (change value)
  | .refused failure => .refused failure
  | .raised reason => .raised reason

/-- Answers requests and may change while it does so. -/
class Backend (β : Type) where
  alloc : Space → Size → β → Reply Ptr × β
  free : Space → Ptr → Size → β → Reply Unit × β
  copy : Transfer → β → Reply Unit × β

end TrackedMemory
