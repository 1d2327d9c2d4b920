import TrackedMemory.Manager.Allocate
import TrackedMemory.Manager.Copy
import TrackedMemory.Manager.Query
import TrackedMemory.Manager.Teardown

/-!
# Commands

`Command` is the whole interface of a manager as data, so that runs are lists of commands.
`Site.run` carries one command out.
-/

namespace TrackedMemory

inductive Command where
  | allocate (bytes : Size) (space : Space)
  | deallocate (addr : Addr) (bytes : Size) (space : Space)
  | copy (request : CopyRequest)
  | query (query : Query)
  deriving DecidableEq

/-- Whether a command draws a ticket if it is not turned down. -/
def Command.drawsTicket : Command → Bool
  | .allocate .. | .deallocate .. => true
  | .copy _ | .query _ => false

def Site.run {β : Type} [Backend β] (setup : Setup) : Command → Act (Site β) Answer
  | .allocate bytes space => do
      let ptr ← Site.allocate setup bytes space
      pure (.block ptr)
  | .deallocate addr bytes space => do
      let freed ← Site.deallocate setup addr bytes space
      pure (.verdict freed)
  | .copy request => do
      let copied ← Site.copy setup request
      pure (.verdict copied)
  | .query query => Site.onBooks (Books.query setup query)

end TrackedMemory
