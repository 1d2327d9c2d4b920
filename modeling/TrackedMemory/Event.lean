import TrackedMemory.Figures
import TrackedMemory.Violation
import TrackedMemory.Backend.Failure

/-!
# Log lines

Everything that is logged is an `Event`; `Event.level` and `Event.text` give the line. A `Remark`
is what a manager says about a call that it turns down or corrects, and is logged only if the
configuration asks for it.
-/

namespace TrackedMemory

inductive Level where
  | error
  | warn
  | info
  | debug
  | trace
  deriving DecidableEq

def Level.name : Level → String
  | .error => "error"
  | .warn => "warn"
  | .info => "info"
  | .debug => "debug"
  | .trace => "trace"

/-- Call of a manager, as its log lines name it. -/
inductive Operation where
  | allocate
  | deallocate
  | copy
  | sizeOf
  | allocationCount
  | deallocationCount
  deriving DecidableEq

def Operation.name : Operation → String
  | .allocate => "allocate"
  | .deallocate => "deallocate"
  | .copy => "copy"
  | .sizeOf => "size_of"
  | .allocationCount => "allocation_count"
  | .deallocationCount => "deallocation_count"

/-- What a manager says about a call that it turns down or corrects. -/
inductive Remark where
  | zeroBytes
  | unsupportedSpace (operation : Operation) (space : Space)
  | freeOfNull
  | freeOfUnknown (addr : Addr) (space : Space)
  | sizeDiffers (addr : Addr) (registered given : Size)
  | copyOfNull
  | unknownDestination (addr : Addr) (bytes : Size) (space : Space)
  | unknownSource (addr : Addr) (bytes : Size) (space : Space)
  | sizeUnknown (addr : Addr)
  deriving DecidableEq

namespace Remark

def operation : Remark → Operation
  | .zeroBytes => .allocate
  | .unsupportedSpace operation _ => operation
  | .freeOfNull | .freeOfUnknown .. | .sizeDiffers .. => .deallocate
  | .copyOfNull | .unknownDestination .. | .unknownSource .. => .copy
  | .sizeUnknown _ => .sizeOf

def text (write : AddressText) : Remark → String
  | .zeroBytes => "number of bytes is 0"
  | .unsupportedSpace _ space => s!"unsupported memory space {space.name}"
  | .freeOfNull => "deallocating null pointer not possible"
  | .freeOfUnknown addr space =>
      s!"deallocating unknown pointer {write addr} or double freeing in {space.name} not possible"
  | .sizeDiffers addr registered given =>
      s!"{write addr} was allocated with {registered} bytes, not {given}; freeing {registered}"
  | .copyOfNull => "copying from or to null pointer not possible"
  | .unknownDestination addr bytes space =>
      s!"copying to unknown destination {write addr} ({bytes} bytes, {space.name}) not possible"
  | .unknownSource addr bytes space =>
      s!"copying from unknown source {write addr} ({bytes} bytes, {space.name}) not possible"
  | .sizeUnknown addr =>
      s!"{write addr} not allocated by this manager or not pointing to the first element, " ++
        "returning 0"

end Remark

inductive Event where
  | violated (violation : Violation)
  | registerIgnored (addr : Addr) (space : Space)
  | deregisterIgnored (addr : Addr) (space : Space)
  | mismatched (mismatch : Mismatch)
  | remarked (remark : Remark)
  | backendFailed (operation : Operation) (failure : Failure)
  | allocated (bytes : Size) (space : Space) (addr : Addr) (ticket : Nat)
  | deallocated (bytes : Size) (space : Space) (addr : Addr) (ticket : Nat)
  | abandoned (ticket : Nat)
  | leaked (report : LeakReport)
  | releaseFailed (addr : Addr) (space : Space) (failure : Failure)
  deriving DecidableEq

namespace Event

def level : Event → Level
  | .violated _ | .registerIgnored .. | .deregisterIgnored .. | .mismatched _
  | .backendFailed .. | .releaseFailed .. => .error
  | .remarked _ | .leaked _ => .warn
  | .abandoned _ => .debug
  | .allocated .. | .deallocated .. => .trace

/-- Wording of an event behind the common tag. -/
def body (write : AddressText) : Event → String
  | .violated violation => violation.text write
  | .registerIgnored addr space =>
      s!"register: {write addr} already registered in {space.name} registry, ignoring"
  | .deregisterIgnored addr space =>
      s!"deregister: {write addr} not registered in {space.name} registry, ignoring"
  | .mismatched mismatch => mismatch.text
  | .remarked remark => s!"{remark.operation.name}: {remark.text write}"
  | .backendFailed operation failure =>
      s!"{operation.name}: backend call failed: {failure.text}"
  | .allocated bytes space addr ticket =>
      s!"allocate: {bytes} bytes in {space.name} at {write addr} (ticket {ticket})"
  | .deallocated bytes space addr ticket =>
      s!"deallocate: {bytes} bytes in {space.name} at {write addr} (ticket {ticket})"
  | .abandoned ticket => s!"ticket {ticket} abandoned, retiring it"
  | .leaked report => s!"leaked allocations at teardown: {report.text}"
  | .releaseFailed addr space failure =>
      s!"teardown: freeing {write addr} in {space.name} failed: {failure.text}"

def text (write : AddressText) (event : Event) : String :=
  s!"[memory] {event.body write}"

end Event

end TrackedMemory
