import TrackedMemory.Space
import TrackedMemory.Address
import TrackedMemory.Config

/-!
# Figures and reports

Snapshots that a manager hands out: the figures of one registry, the figures of the three areas
together with the tally of turned-down calls, and the report on blocks that were never freed.
-/

namespace TrackedMemory

/-- Snapshot of one registry. -/
structure Figures where
  liveCount : Nat := 0
  liveBytes : Size := 0
  registrations : Nat := 0
  deregistrations : Nat := 0
  deriving DecidableEq

/-- Calls that were turned down, and backend calls that returned an error. -/
structure Tally where
  allocations : Nat := 0
  deallocations : Nat := 0
  copies : Nat := 0
  backendFailures : Nat := 0
  deriving DecidableEq

structure Statistics where
  device : Figures := {}
  host : Figures := {}
  managed : Figures := {}
  rejected : Tally := {}
  deriving DecidableEq

namespace Statistics

def area (statistics : Statistics) : Area → Figures
  | .device => statistics.device
  | .host => statistics.host
  | .managed => statistics.managed

/-- Figures of a space, if it keeps a registry. -/
def space? (statistics : Statistics) (space : Space) : Option Figures :=
  space.area?.map statistics.area

/-- Sum of the three byte figures, or nothing where a checked build finds it too large. -/
def totalLiveBytes? (statistics : Statistics) : Build → Option Size
  | .unchecked =>
      some (statistics.device.liveBytes + statistics.host.liveBytes + statistics.managed.liveBytes)
  | .checked =>
      (Word.checkedAdd statistics.device.liveBytes statistics.host.liveBytes).bind
        fun both => Word.checkedAdd both statistics.managed.liveBytes

end Statistics

structure Leak where
  space : Space
  count : Nat
  bytes : Size
  deriving DecidableEq

structure LeakReport where
  leaks : List Leak := []
  deriving DecidableEq

namespace LeakReport

def isClean (report : LeakReport) : Bool :=
  report.leaks.isEmpty

/-- One phrase for each space, or a fixed phrase for a clean report. -/
def text (report : LeakReport) : String :=
  if report.isClean then "no leaked allocations"
  else ", ".intercalate
    (report.leaks.map fun leak => s!"{leak.space.name}: {leak.count} blocks ({leak.bytes} bytes)")

end LeakReport

end TrackedMemory
