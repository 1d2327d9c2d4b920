import TrackedMemory.Manager.Books

/-!
# Queries

A query reads the books and changes nothing; at most it logs a remark.
-/

namespace TrackedMemory

inductive Query where
  | spaceOf (addr : Addr)
  | sizeOf (addr : Addr)
  | allocationCount (space : Space)
  | deallocationCount (space : Space)
  | liveCount (space : Space)
  | liveBytes (space : Space)
  | figures (space : Space)
  | statistics
  | totalLiveBytes
  | leakReport
  | isConsistent
  | config
  deriving DecidableEq

inductive Answer where
  | block (ptr : Option Ptr)
  | verdict (holds : Bool)
  | space (space : Space)
  | bytes (bytes : Size)
  | count (count : Nat)
  | figures (figures : Option Figures)
  | statistics (statistics : Statistics)
  | report (report : LeakReport)
  | config (config : Config)
  deriving DecidableEq

namespace Books

/-- Answers with a size that was looked up, and remarks on zero. -/
def answerSize (setup : Setup) (addr : Addr) (size : Size) : Act Books Answer := do
  if size = 0 then remark setup (.sizeUnknown addr) else pure ()
  pure (.bytes size)

/-- Registered size of the block that starts at an address, in the area where it is found. -/
def sizeOf (books : Books) (addr : Addr) : Size :=
  match books.registries.areaOf? addr with
  | some area => (books.registries.get area).sizeOf addr
  | none => 0

/-- Answers with a lifetime counter of a space; a space without a registry is remarked on. -/
def answerCount (setup : Setup) (operation : Operation) (space : Space)
    (counter : Figures → Nat) : Act Books Answer := do
  match (← Act.read).statistics.space? space with
  | some figures => pure (.count (counter figures))
  | none =>
      remark setup (.unsupportedSpace operation space)
      pure (.count 0)

def query (setup : Setup) (query : Query) : Act Books Answer := do
  let books ← Act.read
  match query with
  | .spaceOf addr => pure (.space (books.registries.spaceOf addr))
  | .sizeOf addr => answerSize setup addr (books.sizeOf addr)
  | .allocationCount space =>
      answerCount setup .allocationCount space Figures.registrations
  | .deallocationCount space =>
      answerCount setup .deallocationCount space Figures.deregistrations
  | .liveCount space =>
      pure (.count (((books.statistics.space? space).map Figures.liveCount).getD 0))
  | .liveBytes space =>
      pure (.bytes (((books.statistics.space? space).map Figures.liveBytes).getD 0))
  | .figures space => pure (.figures (books.statistics.space? space))
  | .statistics => pure (.statistics books.statistics)
  | .totalLiveBytes =>
      match books.statistics.totalLiveBytes? setup.build with
      | some bytes => pure (.bytes bytes)
      | none => Act.fail .overflow
  | .leakReport => pure (.report books.registries.leakReport)
  | .isConsistent => pure (.verdict books.registries.areConsistent)
  | .config => pure (.config setup.config)

end Books

end TrackedMemory
