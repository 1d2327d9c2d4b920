/-!
# Memory spaces

A block lives in device, host or managed memory. `Space` is what callers name, and it has a fourth
value for a pointer that is tracked nowhere; `Area` holds only the three spaces that keep a
registry. The two are joined by `Area.space` and `Space.area?`.
-/

namespace TrackedMemory

/-- Space that a caller names, or `invalid` for a pointer that no registry knows. -/
inductive Space where
  | device
  | host
  | managed
  | invalid
  deriving DecidableEq

/-- Space that keeps a registry of its own. -/
inductive Area where
  | device
  | host
  | managed
  deriving DecidableEq

namespace Area

/-- Every area, in the order in which a pointer is looked up. -/
def all : List Area := [.device, .host, .managed]

def index : Area → Nat
  | .device => 0
  | .host => 1
  | .managed => 2

def space : Area → Space
  | .device => .device
  | .host => .host
  | .managed => .managed

theorem mem_all (area : Area) : area ∈ all := by
  cases area <;> decide

end Area

namespace Space

def area? : Space → Option Area
  | .device => some .device
  | .host => some .host
  | .managed => some .managed
  | .invalid => none

def isValid (space : Space) : Bool :=
  space.area?.isSome

/-- Position in the order device, host, managed, invalid. -/
def rank : Space → Nat
  | .device => 0
  | .host => 1
  | .managed => 2
  | .invalid => 3

instance : Ord Space where
  compare first second := compare first.rank second.rank

def name : Space → String
  | .device => "device"
  | .host => "host"
  | .managed => "managed"
  | .invalid => "invalid"

@[simp] theorem area?_space (area : Area) : area.space.area? = some area := by
  cases area <;> rfl

theorem area?_eq_some_iff {space : Space} {area : Area} :
    space.area? = some area ↔ space = area.space := by
  cases space <;> cases area <;> decide

theorem area?_eq_none_iff {space : Space} : space.area? = none ↔ space = .invalid := by
  cases space <;> decide

end Space

theorem Area.space_ne_invalid (area : Area) : area.space ≠ .invalid := by
  cases area <;> decide

theorem Area.space_injective {first second : Area} (same : first.space = second.space) :
    first = second := by
  simpa using congrArg Space.area? same

end TrackedMemory
