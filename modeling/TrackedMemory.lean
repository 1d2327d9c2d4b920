import TrackedMemory.Backend.Arena
import TrackedMemory.Backend.Recycling
import TrackedMemory.Concurrent.Rehearsal
import TrackedMemory.Proofs.Concurrent.Glimpses
import TrackedMemory.Proofs.Concurrent.Progress
import TrackedMemory.Proofs.Concurrent.Replay
import TrackedMemory.Proofs.Concurrent.Reuse
import TrackedMemory.Scenario.Trial
import TrackedMemory.Scenario.Workbench
import TrackedMemory.Proofs.Ticket.Answers
import TrackedMemory.Proofs.Manager.Ending
import TrackedMemory.Proofs.Manager.Inventory
import TrackedMemory.Proofs.Manager.Refinement
import TrackedMemory.Proofs.Manager.Tallies
import TrackedMemory.Proofs.Manager.Diagnostics
import TrackedMemory.Proofs.Registry.Ranges
import TrackedMemory.Proofs.Balance
import TrackedMemory.Proofs.Layouts
import TrackedMemory.Proofs.Reach
import TrackedMemory.Proofs.Copying
import TrackedMemory.Proofs.Fleet.Builds
import TrackedMemory.Proofs.Fleet.Bytes
import TrackedMemory.Proofs.Fleet.Contents
import TrackedMemory.Proofs.Fleet.Courses
import TrackedMemory.Proofs.Fleet.Holdings
import TrackedMemory.Proofs.Fleet.Estate
import TrackedMemory.Proofs.Fleet.Recycling
import TrackedMemory.Proofs.Fleet.Partition
import TrackedMemory.Proofs.Failing
import TrackedMemory.Proofs.Unsupported
