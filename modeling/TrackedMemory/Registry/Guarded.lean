import TrackedMemory.Registry.Basic
import TrackedMemory.Outcome

/-!
# Changing a registry under contract

`register` takes a block up and `deregister` gives one up. A checked build breaks off where a
contract does not hold; an unchecked build logs the breach and leaves the registry as it was. The
contracts come in a fixed order: the precondition, the invariant before, the change, the
postcondition, the invariant after.
-/

namespace TrackedMemory

/-- What the contracts of one registry depend on. -/
structure Watch where
  build : Build
  /-- Check the invariant in unchecked builds too. -/
  verify : Bool
  space : Space

/-- Requires a condition in checked builds: a breach is logged and breaks off. -/
def Build.require {σ : Type} (build : Build) (clause : Clause) (holds : Bool)
    (statement : Statement) : Act σ Unit :=
  if build.isChecked && !holds then do
    Act.log (.violated ⟨clause, statement⟩)
    Act.fail (.violated ⟨clause, statement⟩)
  else pure ()

namespace Watch

def mismatch (watch : Watch) (moment : Moment) (registry : Registry) : Mismatch where
  space := watch.space
  moment := moment
  registrations := registry.registrations
  deregistrations := registry.deregistrations
  live := registry.liveCount

/-- Checks that the counters agree with the records: in checked builds as a contract, in unchecked
builds only if that is asked for, and then a breach is logged. -/
def verifyAt (watch : Watch) (moment : Moment) : Act Registry Unit := do
  let registry ← Act.read
  if watch.build.isChecked || watch.verify then
    watch.build.require .invariant registry.isConsistent
      (.inconsistent (watch.mismatch moment registry))
    if registry.isConsistent then pure ()
    else Act.log (.mismatched (watch.mismatch moment registry))
  else pure ()

end Watch

namespace Registry

def register (watch : Watch) (addr : Addr) (bytes : Size) : Act Registry Bool := do
  let present := (← Act.read).contains addr
  watch.build.require .precondition (!present) (.alreadyRegistered watch.space addr)
  watch.verifyAt .beforeRegister
  if present then
    Act.log (.registerIgnored addr watch.space)
    pure false
  else
    Act.update (·.insert ⟨addr, bytes⟩)
    let recorded := (← Act.read).contains addr
    watch.build.require .postcondition recorded (.missingAfterRegister watch.space addr)
    watch.verifyAt .afterRegister
    pure true

/-- Drops the record of a block, and tells the size that it was recorded with. -/
def deregister (watch : Watch) (addr : Addr) : Act Registry (Option Size) := do
  let found := (← Act.read).find? addr
  watch.build.require .precondition found.isSome (.notRegistered watch.space addr)
  watch.verifyAt .beforeDeregister
  match found with
  | none =>
      Act.log (.deregisterIgnored addr watch.space)
      pure none
  | some block =>
      Act.update (·.erase block)
      let recorded := (← Act.read).contains addr
      watch.build.require .postcondition (!recorded) (.presentAfterDeregister watch.space addr)
      watch.verifyAt .afterDeregister
      pure (some block.size)

end Registry

end TrackedMemory
