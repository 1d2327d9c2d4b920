import TrackedMemory.Backend.Hosted
import TrackedMemory.Scenario.Labels

/-!
# A backend on its own

A workbench calls a backend over real memory without a manager in between. It names the blocks that
it receives, and refuses calls that would touch memory outside of them. A name that is given again
stands for the later block from then on, even while the earlier one is live. A block can be freed
only with its own size, unless the backend itself turns the size down.
-/

namespace TrackedMemory

structure Workbench (β : Type) where
  backend : β
  labels : Labels := {}

inductive BenchAnswer where
  | allocated (name : String) (ptr : Ptr)
  | done
  | contents (data : List UInt8)
  | failed (failure : Failure)
  | brokeOff (reason : String)
  | outOfBlock

namespace Workbench

variable {β σ : Type} [Backend β] [Hosting β σ]

def editMemory (bench : Workbench β) (change : Memory → Memory) : Workbench β :=
  let host := Hosting.host bench.backend
  { bench with
    backend := Hosting.setHost { host with memory := change host.memory } bench.backend }

def alloc (bench : Workbench β) (name : String) (space : Space) (bytes : Size) :
    BenchAnswer × Workbench β :=
  let (reply, backend) := Backend.alloc space bytes bench.backend
  let served := { bench with backend := backend }
  match reply with
  | .granted ptr =>
      let cleared := served.editMemory fun memory => memory.clear ptr.addr bytes
      let label := { name := name, start := ptr.addr, size := bytes }
      (.allocated name ptr, { cleared with labels := cleared.labels.allocated label })
  | .refused failure => (.failed failure, served)
  | .raised reason => (.brokeOff reason, served)

/-- Gives a block back. `refuses` tells whether the backend turns a size down. -/
def free (bench : Workbench β) (refuses : Size → Bool) (name : String) (space : Space)
    (bytes : Size) : BenchAnswer × Workbench β :=
  match bench.labels.live? name with
  | none => (.outOfBlock, bench)
  | some label =>
      if space.isValid && bytes != label.size && !refuses bytes then (.outOfBlock, bench)
      else match Ptr.ofAddr? label.start with
        | none => (.outOfBlock, bench)
        | some ptr =>
            let (reply, backend) := Backend.free space ptr bytes bench.backend
            let served := { bench with backend := backend }
            match reply with
            | .granted () =>
                let labels := served.labels.free fun other => other.start == label.start
                (.done, { served with labels := labels })
            | .refused failure => (.failed failure, served)
            | .raised reason => (.brokeOff reason, served)

def copy (bench : Workbench β) (dst src : String × Size) (bytes : Size)
    (dstSpace srcSpace : Space) : BenchAnswer × Workbench β :=
  let ends := do
    let dst ← bench.labels.range? dst.1 dst.2 bytes
    let src ← bench.labels.range? src.1 src.2 bytes
    pure (← Ptr.ofAddr? dst, ← Ptr.ofAddr? src)
  match ends with
  | none => (.outOfBlock, bench)
  | some (dst, src) =>
      let (reply, backend) := Backend.copy ⟨dst, src, bytes, dstSpace, srcSpace⟩ bench.backend
      let served := { bench with backend := backend }
      match reply with
      | .granted () => (.done, served)
      | .refused failure => (.failed failure, served)
      | .raised reason => (.brokeOff reason, served)

def read (bench : Workbench β) (name : String) (offset bytes : Size) : BenchAnswer :=
  match bench.labels.range? name offset bytes with
  | some addr => .contents ((Hosting.host bench.backend).memory.read addr bytes.toNat)
  | none => .outOfBlock

def write (bench : Workbench β) (name : String) (offset : Size) (data : ByteArray) :
    BenchAnswer × Workbench β :=
  match bench.labels.range? name offset (UInt64.ofNat data.size) with
  | some addr => (.done, bench.editMemory fun memory => memory.write addr data)
  | none => (.outOfBlock, bench)

end Workbench

end TrackedMemory
