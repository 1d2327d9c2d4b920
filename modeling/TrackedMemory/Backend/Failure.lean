import TrackedMemory.Space
import TrackedMemory.Address

/-!
# Backend failures

The errors that a backend returns. An error is an answer like any other; a backend that breaks off
instead raises a `Fault`.
-/

namespace TrackedMemory

inductive Failure where
  | outOfMemory (space : Space) (bytes : Size)
  | invalidLayout (bytes align : Size)
  | unsupportedSpace (space : Space)
  | system (reason : String)
  deriving DecidableEq

def Failure.text : Failure → String
  | .outOfMemory space bytes => s!"out of {space.name} memory allocating {bytes} bytes"
  | .invalidLayout bytes align => s!"invalid layout: {bytes} bytes aligned to {align}"
  | .unsupportedSpace space => s!"unsupported memory space: {space.name}"
  | .system reason => s!"OS memory call failed: {reason}"

end TrackedMemory
