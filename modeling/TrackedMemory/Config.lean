/-!
# Builds and settings

A build either enforces contracts or leaves them out. A configuration says how much a manager
checks, logs and releases. `Setup` is the pair that every operation of a manager runs under.
-/

namespace TrackedMemory

/-- Whether contracts and arithmetic are checked. -/
inductive Build where
  | checked
  | unchecked
  deriving DecidableEq

def Build.isChecked : Build → Bool
  | .checked => true
  | .unchecked => false

structure Config where
  /-- Compare each registry's counters with its records around every change. -/
  verifyInvariants : Bool
  /-- Log every call that is turned down. -/
  logRejections : Bool
  /-- At teardown, log the spaces that still hold blocks. -/
  reportLeaks : Bool
  /-- At teardown, give the blocks that are still live back to the backend. -/
  releaseBlocks : Bool
  deriving DecidableEq

namespace Config

/-- Everything is logged and released; invariants are verified in checked builds. -/
def standard (build : Build) : Config where
  verifyInvariants := build.isChecked
  logRejections := true
  reportLeaks := true
  releaseBlocks := true

def quiet (build : Build) : Config :=
  { standard build with logRejections := false, reportLeaks := false }

end Config

/-- What an operation of a manager runs under. -/
structure Setup where
  build : Build
  config : Config

def Setup.standard (build : Build) : Setup :=
  ⟨build, .standard build⟩

end TrackedMemory
