import Mathlib.Algebra.Order.Group.Multiset
import Mathlib.Tactic.Abel
import TrackedMemory.Proofs.Concurrent.Runs
import TrackedMemory.Proofs.Ranges

/-!
# Blocks on record and in the hands of calls

A parcel is a block together with its area. `Registries.parcels` are the blocks on record, over all
areas, and `Machine.gather` collects what the calls of a machine have in hand. Both are multisets,
so that a step which hands a block on is an equation between sums.
-/

namespace TrackedMemory

structure Parcel where
  area : Area
  start : Addr
  bytes : Size
  deriving DecidableEq

namespace Parcel

def block (parcel : Parcel) : Block :=
  ⟨parcel.start, parcel.bytes⟩

/-- Blocks in two parts of a collection without common starts start at different addresses. -/
theorem start_ne_of_mem_add {left right : Multiset Parcel}
    (distinct : ((left + right).map Parcel.start).Nodup) {first second : Parcel}
    (inLeft : first ∈ left) (inRight : second ∈ right) : first.start ≠ second.start := by
  rw [Multiset.map_add, Multiset.nodup_add] at distinct
  exact Multiset.disjoint_iff_ne.1 distinct.2.2 _ (Multiset.mem_map_of_mem _ inLeft) _
    (Multiset.mem_map_of_mem _ inRight)

end Parcel

namespace Registries

variable {registries : Registries} {area : Area} {ptr : Ptr} {bytes : Size} {parcel : Parcel}

def parcelsIn (area : Area) (registry : Registry) : Multiset Parcel :=
  ↑(registry.blocks.map fun block => Parcel.mk area block.start block.size)

def parcels (registries : Registries) : Multiset Parcel :=
  parcelsIn .device registries.device + parcelsIn .host registries.host +
    parcelsIn .managed registries.managed

theorem mem_parcelsIn {registry : Registry} :
    parcel ∈ parcelsIn area registry ↔
      parcel.area = area ∧ ⟨parcel.start, parcel.bytes⟩ ∈ registry.blocks := by
  unfold parcelsIn
  rw [Multiset.mem_coe, List.mem_map]
  constructor
  · rintro ⟨block, member, rfl⟩
    exact ⟨rfl, member⟩
  · rintro ⟨rfl, member⟩
    exact ⟨_, member, rfl⟩

theorem mem_parcels : parcel ∈ registries.parcels ↔
    ⟨parcel.start, parcel.bytes⟩ ∈ (registries.get parcel.area).blocks := by
  obtain ⟨area, start, bytes⟩ := parcel
  simp only [parcels, Multiset.mem_add, mem_parcelsIn]
  cases area <;> simp [get]

theorem parcels_set (registries : Registries) (registry : Registry) (area : Area) :
    (registries.set registry area).parcels + parcelsIn area (registries.get area) =
      registries.parcels + parcelsIn area registry := by
  cases area <;> simp only [parcels, set, get] <;> abel

theorem parcelsIn_insert {registry : Registry} {block : Block}
    (absent : registry.contains block.start = false) :
    parcelsIn area (registry.insert block) =
      ⟨area, block.start, block.size⟩ ::ₘ parcelsIn area registry := by
  have added := Registry.insertBlock_perm (Registry.forall_start_ne absent)
  exact Multiset.coe_eq_coe.2 (added.map fun block => Parcel.mk area block.start block.size)

theorem parcelsIn_erase {registry : Registry} {block : Block} (sound : registry.IsSound)
    (member : block ∈ registry.blocks) :
    parcelsIn area registry =
      ⟨area, block.start, block.size⟩ ::ₘ parcelsIn area (registry.erase block) := by
  have removed := Registry.perm_cons_filter sound.ascending member
  exact Multiset.coe_eq_coe.2 (removed.map fun block => Parcel.mk area block.start block.size)

theorem parcels_register (absent : (registries.get area).contains ptr.addr = false) :
    (registries.apply (.register area ptr bytes)).parcels =
      ⟨area, ptr.addr, bytes⟩ ::ₘ registries.parcels := by
  have replaced := parcels_set registries ((registries.get area).insert ⟨ptr.addr, bytes⟩) area
  rw [parcelsIn_insert absent, Multiset.add_cons, ← Multiset.cons_add] at replaced
  simp only [apply, absent, Bool.false_eq_true, if_false]
  exact add_right_cancel replaced

theorem parcels_deregister (sound : registries.AreSound)
    (member : ⟨area, ptr.addr, bytes⟩ ∈ registries.parcels) :
    registries.parcels =
      ⟨area, ptr.addr, bytes⟩ ::ₘ (registries.apply (.deregister area ptr)).parcels := by
  have recorded : ⟨ptr.addr, bytes⟩ ∈ (registries.get area).blocks := mem_parcels.1 member
  have found := (sound area).find?_of_mem recorded
  have replaced := parcels_set registries ((registries.get area).erase ⟨ptr.addr, bytes⟩) area
  rw [parcelsIn_erase (sound area) recorded, Multiset.add_cons, ← Multiset.cons_add] at replaced
  simp only [apply, found]
  exact (add_right_cancel replaced).symm

theorem contains_eq_false (absent : ∀ parcel ∈ registries.parcels, parcel.start ≠ ptr.addr)
    (area : Area) : (registries.get area).contains ptr.addr = false := by
  rw [← Bool.not_eq_true, Registry.contains_iff]
  rintro ⟨block, member, start⟩
  exact absent ⟨area, block.start, block.size⟩ (mem_parcels.2 member) start

end Registries

namespace Machine

variable {α : Type} {setup : Setup} {machine : Machine} {index : Nat} {call : Call} {books : Books}
  {phase : Phase} {trace : Trace}

/-- What the calls of a machine have in hand. -/
def gather (part : Call → Option α) (machine : Machine) : Multiset α :=
  ↑(machine.calls.filterMap part)

theorem mem_gather {part : Call → Option α} {thing : α} :
    thing ∈ machine.gather part ↔
      ∃ (index : Nat) (call : Call),
        machine.calls[index]? = some call ∧ part call = some thing := by
  rw [gather, Multiset.mem_coe, List.mem_filterMap]
  constructor
  · rintro ⟨call, member, has⟩
    obtain ⟨index, called⟩ := List.mem_iff_getElem?.1 member
    exact ⟨index, call, called, has⟩
  · rintro ⟨index, call, called, has⟩
    exact ⟨call, List.mem_of_getElem? called, has⟩

theorem gather_eq_zero {part : Call → Option α}
    (nothing : machine.Every fun call => part call = none) : machine.gather part = 0 := by
  refine Multiset.eq_zero_of_forall_notMem fun thing gathered => ?_
  obtain ⟨index, call, called, has⟩ := mem_gather.1 gathered
  cases (nothing called).symm.trans has

/-- Calls that have the same in hand are one call, if nothing is in hand twice. -/
theorem eq_of_gather_nodup {part : Call → Option α} (nodup : (machine.gather part).Nodup)
    {first second : Nat} {left right : Call} {thing : α}
    (one : machine.calls[first]? = some left) (two : machine.calls[second]? = some right)
    (leftward : part left = some thing) (rightward : part right = some thing) : first = second := by
  have apart := List.pairwise_iff_getElem.1
    (List.pairwise_filterMap.1 (Multiset.coe_nodup.1 nodup))
  obtain ⟨inLeft, rfl⟩ := List.getElem?_eq_some_iff.1 one
  obtain ⟨inRight, rfl⟩ := List.getElem?_eq_some_iff.1 two
  rcases Nat.lt_trichotomy first second with less | same | more
  · exact absurd rfl (apart first second inLeft inRight less _ leftward _ rightward)
  · exact same
  · exact absurd rfl (apart second first inRight inLeft more _ rightward _ leftward)

theorem gather_start (part : Call → Option α) (command : Command) :
    (machine.start command).gather part = machine.gather part + ↑(part { command }).toList := by
  rw [gather, Machine.start, List.filterMap_append, ← Multiset.coe_add]
  cases got : part { command } <;> simp [gather, got]

theorem coe_filterMap_cons (part : Call → Option α) (call : Call) (rest : List Call) :
    (↑((call :: rest).filterMap part) : Multiset α) =
      ↑(part call).toList + ↑(rest.filterMap part) := by
  rw [List.filterMap_cons]
  cases part call <;> simp

theorem coe_filterMap_set (part : Call → Option α) {calls : List Call} {index : Nat} {call : Call}
    (next : Call) (called : calls[index]? = some call) :
    (↑((calls.set index next).filterMap part) : Multiset α) + ↑(part call).toList =
      ↑(calls.filterMap part) + ↑(part next).toList := by
  induction calls generalizing index with
  | nil => simp at called
  | cons first rest ih =>
    cases index with
    | zero =>
      cases called
      rw [List.set_cons_zero, coe_filterMap_cons, coe_filterMap_cons]
      abel
    | succ index =>
      have later := ih called
      rw [List.set_cons_succ, coe_filterMap_cons, coe_filterMap_cons, add_assoc, later, add_assoc]

theorem gather_goOn (part : Call → Option α) (books : Books) (phase : Phase) (trace : Trace)
    (called : machine.calls[index]? = some call) :
    (machine.goOn index call books phase trace).gather part + ↑(part call).toList =
      machine.gather part + ↑(part { call with phase, trace := call.trace ++ trace }).toList :=
  coe_filterMap_set part _ called

variable {part : Call → Option α} {thing : α}

theorem gather_goOn_of_eq (called : machine.calls[index]? = some call)
    (same : part { call with phase, trace := call.trace ++ trace } = part call) :
    (machine.goOn index call books phase trace).gather part = machine.gather part :=
  add_right_cancel ((gather_goOn part books phase trace called).trans (by rw [same]))

/-- A step whose call takes something into its hand. -/
theorem gather_goOn_of_gain (called : machine.calls[index]? = some call)
    (before : part call = none)
    (after : part { call with phase, trace := call.trace ++ trace } = some thing) :
    (machine.goOn index call books phase trace).gather part = thing ::ₘ machine.gather part := by
  have replaced := gather_goOn part books phase trace called
  rw [before, after] at replaced
  simpa [add_comm] using replaced

/-- A step whose call lets go of what it had in hand. -/
theorem gather_goOn_of_loss (called : machine.calls[index]? = some call)
    (before : part call = some thing)
    (after : part { call with phase, trace := call.trace ++ trace } = none) :
    machine.gather part = thing ::ₘ (machine.goOn index call books phase trace).gather part := by
  have replaced := gather_goOn part books phase trace called
  rw [before, after] at replaced
  simpa [add_comm] using replaced.symm

end Machine

end TrackedMemory
