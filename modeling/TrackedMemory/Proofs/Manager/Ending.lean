import Mathlib.Data.List.Basic
import TrackedMemory.Backend.Scripted
import TrackedMemory.Proofs.Manager.Diagnostics
import TrackedMemory.Proofs.Reach

/-!
# What the end of a manager does

A manager that is dropped first warns of its leaks and then gives every live block back, if it is
asked to do either. The loops walk lists of blocks that were taken before the first of them goes.
`Sweeps` says what such a walk leaves in a trace: a free for each block in the order of the list,
and an error behind each free that failed. Walks follow one another, and none of them stops unless
the backend breaks off.
-/

namespace TrackedMemory

/-! ## What is due -/

/-- What a request to free gives back: the space, the address and the size of a block. -/
def Request.freed? : Request → Option (Space × Addr × Size)
  | .free space ptr bytes => some (space, ptr.addr, bytes)
  | .alloc .. | .copy _ => none

namespace Registries

/-- The live blocks of an area, in the order of their addresses. -/
def duesOf (registries : Registries) (area : Area) : List (Space × Addr × Size) :=
  (registries.get area).blocks.map fun block => (area.space, block.start, block.size)

def dues (registries : Registries) (areas : List Area) : List (Space × Addr × Size) :=
  areas.flatMap registries.duesOf

def isOccupied (registries : Registries) (area : Area) : Bool :=
  !(registries.get area).blocks.isEmpty

/-- A leak report has a line for each area with live blocks: their number, and the byte figure. -/
theorem leaks_leakReport (registries : Registries) :
    registries.leakReport.leaks = (Area.all.filter registries.isOccupied).map fun area =>
      ⟨area.space, (registries.get area).blocks.length, (registries.get area).liveBytes⟩ := by
  rw [leakReport]
  generalize Area.all = areas
  induction areas with
  | nil => rfl
  | cons area rest ih =>
    cases blocks : (registries.get area).blocks with
    | nil => simpa [isOccupied, Registry.liveCount, blocks] using ih
    | cons block others => simpa [isOccupied, Registry.liveCount, blocks] using ih

theorem isClean_leakReport (registries : Registries) :
    registries.leakReport.isClean = !Area.all.any registries.isOccupied := by
  rw [LeakReport.isClean, leaks_leakReport, List.isEmpty_map]
  generalize Area.all = areas
  induction areas with
  | nil => rfl
  | cons area rest ih => cases here : registries.isOccupied area <;> simp [here, ih]

end Registries

/-! ## Walks over blocks -/

namespace Trace

def IsCalm (trace : Trace) : Prop :=
  ∀ call ∈ trace.calls, ∀ reason, call.2 ≠ .raised reason

/-- What is logged of a backend call that frees a block at the end of a manager: an error if the
call failed. -/
def failures : Request × Reply (Option Ptr) → List Event
  | (.free space ptr _, .refused failure) => [.releaseFailed ptr.addr space failure]
  | _ => []

def told (call : Request × Reply (Option Ptr)) : Trace :=
  .called call.1 call.2 :: (failures call).map .logged

theorem events_append (first second : Trace) :
    Trace.events (first ++ second) = Trace.events first ++ Trace.events second :=
  List.filterMap_append

theorem errors_told (calls : List (Request × Reply (Option Ptr))) :
    (Trace.events (calls.flatMap told)).filter (fun event => event.level = .error) =
      calls.flatMap failures := by
  induction calls with
  | nil => rfl
  | cons call rest ih =>
    have own : (Trace.events (told call)).filter (fun event => event.level = .error) =
        failures call := by
      unfold told failures
      split <;> rfl
    rw [List.flatMap_cons, events_append, List.filter_append, own, ih, List.flatMap_cons]

end Trace

/-- What a walk over blocks leaves in a trace: nothing but its calls and what is logged of each, and
one call for each block, in order, if none of them breaks off. -/
structure Sweeps (dues : List (Space × Addr × Size)) (trace : Trace) : Prop where
  told : trace = trace.calls.flatMap Trace.told
  freed : trace.IsCalm → trace.calls.map (fun call => call.1.freed?) = dues.map some

namespace Sweeps

variable {first second : List (Space × Addr × Size)} {one two trace : Trace} {space : Space}
  {ptr : Ptr} {bytes : Size} {reason : String}

theorem nil : Sweeps [] [] :=
  ⟨rfl, fun _ => rfl⟩

theorem block (space : Space) (ptr : Ptr) (bytes : Size) (reply : Reply (Option Ptr)) :
    Sweeps [(space, ptr.addr, bytes)] (Trace.told (.free space ptr bytes, reply)) := by
  cases reply <;> exact ⟨rfl, fun _ => rfl⟩

theorem append (before : Sweeps first one) (behind : Sweeps second two) :
    Sweeps (first ++ second) (one ++ two) where
  told := by
    conv_lhs => rw [before.told, behind.told]
    rw [Trace.calls_append, List.flatMap_append]
  freed calm := by
    rw [Trace.IsCalm, Trace.calls_append] at calm
    rw [Trace.calls_append, List.map_append, List.map_append,
      before.freed fun call inside => calm call (List.mem_append_left _ inside),
      behind.freed fun call inside => calm call (List.mem_append_right _ inside)]

/-- A walk that breaks off does not come to the blocks that are left. -/
theorem broken (sweeps : Sweeps first trace) (raised : ¬trace.IsCalm) : Sweeps second trace :=
  ⟨sweeps.told, fun calm => absurd calm raised⟩

end Sweeps

namespace Site

variable {β : Type} [Backend β] {site : Site β} {setup : Setup} {area : Area} {areas : List Area}

theorem Releases.not_isCalm {outcome : Outcome (Site β) Unit} {fault : Fault}
    (releases : Releases areas site outcome) (broke : outcome.result = .error fault) :
    ¬outcome.trace.IsCalm := by
  obtain ⟨space, ptr, bytes, reason, -, called⟩ := releases.broken fault broke
  exact fun calm => calm _ called reason rfl

theorem releaseBlocks_sweeps (settled : site.books.IsSettled) {blocks : List Block}
    (listed : (site.books.registries.get area).blocks = blocks) :
    Sweeps (blocks.map fun block => (area.space, block.start, block.size))
      (releaseBlocks setup area blocks site).trace := by
  induction blocks generalizing site with
  | nil => exact .nil
  | cons block rest ih =>
    obtain ⟨start, bytes⟩ := block
    have inside : ⟨start, bytes⟩ ∈ (site.books.registries.get area).blocks := by simp [listed]
    obtain ⟨ptr, rfl⟩ : ∃ ptr : Ptr, ptr.addr = start :=
      ⟨⟨start, (settled.genuine area _ inside).1⟩, rfl⟩
    have later : ∀ backend : β,
        Sweeps (rest.map fun block => (area.space, block.start, block.size))
          (releaseBlocks setup area rest (site.release area ptr backend)).trace := fun backend =>
      ih (isSettled_release settled area ptr backend) (blocks_release settled listed backend)
    have own := Sweeps.block area.space ptr bytes
    rw [releaseBlocks]
    cases answered : Backend.free area.space ptr bytes site.backend with
    | mk reply backend =>
      cases reply with
      | granted value =>
        rw [Act.bind_of_ok (releaseBlock_freed settled inside answered)]
        exact (own (.granted none)).append (later backend)
      | refused failure =>
        rw [Act.bind_of_ok (releaseBlock_failed settled inside answered)]
        exact (own (.refused failure)).append (later backend)
      | raised reason =>
        rw [Act.bind_of_error (releaseBlock_raised answered)]
        refine (own (.raised reason)).broken fun calm => ?_
        exact calm (.free area.space ptr bytes, .raised reason) List.mem_cons_self reason rfl

/-- The lists of later areas are as they were before the earlier ones were walked. -/
theorem releaseAreas_sweeps (settled : site.books.IsSettled) (once : areas.Nodup) :
    Sweeps (site.books.registries.dues areas) (releaseAreas setup areas site).trace := by
  induction areas generalizing site with
  | nil => exact .nil
  | cons area rest ih =>
    obtain ⟨apart, once⟩ := List.nodup_cons.1 once
    have own : Sweeps (site.books.registries.duesOf area)
        (releaseBlocks setup area (site.books.registries.get area).blocks site).trace :=
      releaseBlocks_sweeps settled rfl
    have releases : Releases [area] site
        (releaseBlocks setup area (site.books.registries.get area).blocks site) :=
      releaseBlocks_releases settled rfl
    rw [releaseAreas, Act.read_bind_apply]
    cases result : (releaseBlocks setup area (site.books.registries.get area).blocks
        site).result with
    | error fault =>
      rw [Act.bind_apply_error result]
      exact own.broken (releases.not_isCalm result)
    | ok value =>
      rw [Act.bind_apply_ok result]
      have kept : (releaseBlocks setup area (site.books.registries.get area).blocks
          site).state.books.registries.dues rest = site.books.registries.dues rest := by
        refine List.flatMap_congr fun other listed => ?_
        have differs : other ∉ [area] := fun same => apart (List.mem_singleton.1 same ▸ listed)
        rw [Registries.duesOf, Registries.duesOf, releases.elsewhere other differs]
      have later := ih releases.settled once
      rw [kept] at later
      exact own.append later

/-! ## The end of a manager -/

structure EndsInOrder (setup : Setup) (registries : Registries) (outcome : Outcome (Site β) Unit) :
    Prop where
  completed : outcome.result = .ok ()
  /-- Each live block is freed once, in the order of areas and addresses, and nothing else is
  called. -/
  freed : outcome.trace.calls.map (fun call => call.1.freed?) =
    (if setup.config.releaseBlocks then registries.dues Area.all else []).map some
  ascending : ∀ area, (registries.get area).blocks.Pairwise fun first second =>
    first.start < second.start
  /-- A warning comes first, if it is asked for and there is a live block; an error is logged right
  behind each call that failed, and nothing else. -/
  told : outcome.trace =
    (if setup.config.reportLeaks = true ∧ ∃ area ∈ Area.all, registries.isOccupied area = true then
      [.logged (.leaked registries.leakReport)] else []) ++ outcome.trace.calls.flatMap Trace.told
  errors : outcome.trace.events.filter (fun event => event.level = .error) =
    outcome.trace.calls.flatMap Trace.failures
  /-- The warning has a line for each area with live blocks. -/
  listed : registries.leakReport.leaks = (Area.all.filter registries.isOccupied).map fun area =>
    ⟨area.space, (registries.get area).blocks.length, (registries.get area).liveBytes⟩

theorem leakTrace_eq (setup : Setup) (registries : Registries) :
    leakTrace setup registries =
      if setup.config.reportLeaks = true ∧ ∃ area ∈ Area.all, registries.isOccupied area = true then
        [.logged (.leaked registries.leakReport)] else [] := by
  simp [leakTrace, Registries.isClean_leakReport]

theorem teardown_sweeps (settled : site.books.IsSettled) (setup : Setup) :
    ∃ walk, (teardown setup site).trace = leakTrace setup site.books.registries ++ walk ∧
      Sweeps (if setup.config.releaseBlocks then site.books.registries.dues Area.all else [])
        walk := by
  rw [teardown_apply, Outcome.trace_behind]
  refine ⟨_, rfl, ?_⟩
  split
  · exact releaseAreas_sweeps settled (by decide)
  · exact .nil

/-- However a manager came to rest, over whichever backend, it ends in order as long as the backend
does not break off: every live block is freed once whichever frees fail, if that is asked for, and
the leaks are warned of before, if that is. -/
theorem ends_in_order {books : Books} (rest : books.Rest) (setup : Setup) (backend : β)
    (calm : (teardown setup ⟨books, backend⟩).trace.IsCalm) :
    EndsInOrder setup books.registries (teardown setup ⟨books, backend⟩) := by
  have settled : (Site.mk books backend).books.IsSettled := rest.isSettled
  obtain ⟨walk, traced, sweeps⟩ := teardown_sweeps settled setup
  have calls : (teardown setup ⟨books, backend⟩).trace.calls = walk.calls := by
    rw [traced, Trace.calls_append, calls_leakTrace, List.nil_append]
  have undisturbed : walk.IsCalm := by
    rw [Trace.IsCalm, ← calls]
    exact calm
  exact {
    completed := by
      cases result : (teardown setup ⟨books, backend⟩).result with
      | ok value => rfl
      | error fault => exact absurd calm ((teardown_releases settled setup).not_isCalm result)
    freed := by
      rw [calls]
      exact sweeps.freed undisturbed
    ascending := fun area => (settled.sound area).ascending
    told := by
      rw [calls, ← sweeps.told, traced, leakTrace_eq]
    errors := by
      have warned : (leakTrace setup books.registries).events.filter
          (fun event => event.level = .error) = [] := by
        rw [leakTrace]
        split <;> rfl
      rw [calls, traced, Trace.events_append, List.filter_append, warned, List.nil_append]
      conv_lhs => rw [sweeps.told]
      exact Trace.errors_told walk.calls
    listed := Registries.leaks_leakReport books.registries }

/-- A manager with two blocks of device memory, the one at the greater address allocated first, and
one of managed memory. -/
def legacy : Fleet Scripted :=
  (Fleet.launch [.standard .checked]
      { script := [.place ⟨0x9000, by decide⟩, .place ⟨0x8800, by decide⟩,
        .place ⟨0x8000, by decide⟩] }).after
    [.command 0 (.allocate 16 .device), .command 0 (.allocate 8 .device),
      .command 0 (.allocate 32 .managed)]

/-- The second free of its end fails, and the third one is made all the same. -/
theorem ends_in_order_legacy : ∃ member ∈ legacy.members,
    let outcome := teardown (.standard .checked)
      ⟨member.books, ({ script := [.succeed, .fail (.system "busy")] } : Scripted)⟩
    EndsInOrder (.standard .checked) member.books.registries outcome ∧
      outcome.trace.calls.map (fun call => call.1.freed?) =
        [some (.device, 0x8800, 8), some (.device, 0x9000, 16), some (.managed, 0x8000, 32)] ∧
      outcome.trace.calls.flatMap Trace.failures =
        [.releaseFailed 0x9000 .device (.system "busy")] := by
  have made : ∃ member ∈ legacy.members, (teardown (.standard .checked) ⟨member.books,
      ({ script := [.succeed, .fail (.system "busy")] } : Scripted)⟩).trace.calls =
        [(.free .device ⟨0x8800, by decide⟩ 8, .granted none),
          (.free .device ⟨0x9000, by decide⟩ 16, .refused (.system "busy")),
          (.free .managed ⟨0x8000, by decide⟩ 32, .granted none)] := by
    decide +kernel
  obtain ⟨member, inside, calls⟩ := made
  refine ⟨member, inside, ?_, by rw [calls]; rfl, by rw [calls]; rfl⟩
  refine ends_in_order (.fleet _ _ _ member inside) (.standard .checked) _ ?_
  rw [Trace.IsCalm, calls]
  simp

end Site

end TrackedMemory
