import TrackedMemory.Manager.Command

/-!
# Managers that share a backend

A fleet is any number of managers over one backend. A manager that is dropped keeps its books as
they were left, and takes no further commands.
-/

namespace TrackedMemory

structure Member where
  setup : Setup
  books : Books := {}
  dropped : Bool := false

/-- Managers that share a backend. -/
structure Fleet (β : Type) where
  members : List Member
  backend : β

namespace Fleet

variable {β α : Type}

/-- The manager of a number, unless it was dropped. -/
def active? (fleet : Fleet β) (index : Nat) : Option Member :=
  fleet.members[index]?.filter fun member => !member.dropped

def onMember (fleet : Fleet β) (index : Nat) (act : Setup → Act (Site β) α) :
    Option (Outcome (Fleet β) α) :=
  (fleet.active? index).map fun member =>
    let outcome := act member.setup ⟨member.books, fleet.backend⟩
    ⟨outcome.result,
      ⟨fleet.members.set index { member with books := outcome.state.books },
        outcome.state.backend⟩,
      outcome.trace⟩

def strike (fleet : Fleet β) (index : Nat) : Fleet β :=
  { fleet with
    members := fleet.members.modify index fun member => { member with dropped := true } }

variable [Backend β]

def run? (fleet : Fleet β) (index : Nat) (command : Command) :
    Option (Outcome (Fleet β) Answer) :=
  fleet.onMember index fun setup => Site.run setup command

def drop? (fleet : Fleet β) (index : Nat) : Option (Outcome (Fleet β) Unit) :=
  (fleet.onMember index Site.teardown).map fun outcome =>
    { outcome with state := outcome.state.strike index }

end Fleet

end TrackedMemory
