import TrackedMemory.Space
import TrackedMemory.Address

/-!
# Contract violations

A checked build stops a call that breaks a contract. A `Violation` names the clause that was broken
and the statement that did not hold. Addresses are written by a function that the reader supplies.
-/

namespace TrackedMemory

abbrev AddressText := Addr → String

inductive Clause where
  | precondition
  | postcondition
  | invariant
  deriving DecidableEq

def Clause.name : Clause → String
  | .precondition => "precondition"
  | .postcondition => "postcondition"
  | .invariant => "invariant"

inductive Moment where
  | beforeRegister
  | afterRegister
  | beforeDeregister
  | afterDeregister
  deriving DecidableEq

def Moment.name : Moment → String
  | .beforeRegister => "before register"
  | .afterRegister => "after register"
  | .beforeDeregister => "before deregister"
  | .afterDeregister => "after deregister"

structure Mismatch where
  space : Space
  moment : Moment
  registrations : Nat
  deregistrations : Nat
  live : Nat
  deriving DecidableEq

def Mismatch.text (mismatch : Mismatch) : String :=
  s!"{mismatch.space.name} registry inconsistent {mismatch.moment.name}: " ++
    s!"{mismatch.registrations} registrations, {mismatch.deregistrations} deregistrations, " ++
    s!"{mismatch.live} live"

/-- What a contract found to be false. -/
inductive Statement where
  | alreadyRegistered (space : Space) (addr : Addr)
  | notRegistered (space : Space) (addr : Addr)
  | missingAfterRegister (space : Space) (addr : Addr)
  | presentAfterDeregister (space : Space) (addr : Addr)
  | inconsistent (mismatch : Mismatch)
  | blockNotFound (space : Space) (addr : Addr)
  | asserted (statement : String)
  deriving DecidableEq

def Statement.text (write : AddressText) : Statement → String
  | .alreadyRegistered space addr =>
      s!"{space.name} registry: {write addr} is already registered"
  | .notRegistered space addr => s!"{space.name} registry: {write addr} is not registered"
  | .missingAfterRegister space addr =>
      s!"{space.name} registry: {write addr} missing after register"
  | .presentAfterDeregister space addr =>
      s!"{space.name} registry: {write addr} still present after deregister"
  | .inconsistent mismatch => mismatch.text
  | .blockNotFound space addr => s!"allocate: {write addr} not found in {space.name} registry"
  | .asserted statement => statement

structure Violation where
  clause : Clause
  statement : Statement
  deriving DecidableEq

def Violation.text (write : AddressText) (violation : Violation) : String :=
  s!"{violation.clause.name} violated: {violation.statement.text write}"

end TrackedMemory
