import TrackedMemory.Backend.Recycling
import TrackedMemory.Proofs.Fleet.Estate
import TrackedMemory.Proofs.Fleet.Holdings

/-!
# Managers over a backend that recycles addresses

Over a recycling backend every address that was ever handed out is in exactly one place: on the free
list, on record with a manager, or left behind by a manager that was dropped. So an address that is
handed out is new to all managers, no contract breaks, and a call breaks off only where the backend
was told to break off a free.
-/

namespace TrackedMemory

namespace Recycling

variable {backend : Recycling} {area : Area} {bytes : Size}

def address (number : Nat) : Addr :=
  UInt64.ofNat (0x10000000 + number * 0x10000)

def breakOff (ptr : Ptr) : String :=
  s!"fake backend: free of {Word.hexText ptr.addr} failed"

theorem toNat_address {number : Nat} (small : number ≤ 2 ^ 47) :
    (address number).toNat = 0x10000000 + number * 0x10000 := by
  rw [address, UInt64.toNat_ofNat_of_lt']
  simp only [UInt64.size]
  omega

theorem address_ne_zero {number : Nat} (small : number ≤ 2 ^ 47) : address number ≠ 0 := by
  intro zero
  have sum := toNat_address small
  rw [zero] at sum
  simp only [UInt64.toNat_zero] at sum
  omega

theorem address_injective {first second : Nat} (one : first ≤ 2 ^ 47) (two : second ≤ 2 ^ 47)
    (same : address first = address second) : first = second := by
  have left := toNat_address one
  have right := toNat_address two
  rw [same] at left
  omega

theorem address_add_stride (number : Nat) : address number + stride = address (number + 1) := by
  refine UInt64.toNat_inj.1 ?_
  simp only [address, stride, UInt64.toNat_add, UInt64.toNat_ofNat, UInt64.toNat_ofNat']
  omega

/-- A request for a block is refused, or answered with the address that is to be taken next. -/
theorem alloc_cases (area : Area) (bytes : Size) (real : (take backend).1 ≠ 0) :
    (∃ failure, alloc area.space bytes backend =
      (.refused failure, { backend with failingAllocs := backend.failingAllocs - 1 })) ∨
    bytes ≤ stride ∧ ∃ ptr : Ptr, ptr.addr = (take backend).1 ∧
      alloc area.space bytes backend = (.granted ptr, { (take backend).2 with
        failingAllocs := backend.failingAllocs - 1
        allocs := backend.allocs + 1 }) := by
  have valid : area.space.isValid = true := by simp [Space.isValid]
  unfold alloc
  simp only [valid, Bool.not_true, Bool.false_eq_true, if_false]
  split
  next => exact .inl ⟨_, rfl⟩
  next accepted =>
    have short : bytes ≤ stride := by
      simp only [Bool.or_eq_true, decide_eq_true_eq, not_or] at accepted
      exact UInt64.not_lt.1 accepted.2
    refine .inr ⟨short, ?_⟩
    cases list : backend.freeList with
    | nil =>
      simp only [take, list] at real ⊢
      exact ⟨⟨backend.next, real⟩, rfl, by simp [Ptr.ofAddr?, real]⟩
    | cons addr rest =>
      simp only [take, list] at real ⊢
      exact ⟨⟨addr, real⟩, rfl, by simp [Ptr.ofAddr?, real]⟩

/-- A free breaks off if the backend was told so, and takes the block back otherwise. -/
theorem free_cases (backend : Recycling) (ptr : Ptr) :
    (0 < backend.failingFrees ∧ free ptr backend =
      (.raised (breakOff ptr), { backend with failingFrees := backend.failingFrees - 1 })) ∨
    backend.failingFrees = 0 ∧ free ptr backend =
      (.granted (), { backend with
        frees := backend.frees + 1, freeList := ptr.addr :: backend.freeList }) := by
  unfold free
  split
  next failing => exact .inl ⟨failing, rfl⟩
  next calm => exact .inr ⟨Nat.eq_zero_of_not_pos calm, rfl⟩

end Recycling

namespace Fleet

def handedOut (history : List Entry) : Finset Addr :=
  ((history.filterMap Entry.granted?).map Ptr.addr).toFinset

section HandedOut

variable {history : List Entry} {entry : Entry}

theorem handedOut_concat_of_some {ptr : Ptr} (granted : entry.granted? = some ptr) :
    handedOut (history ++ [entry]) = insert ptr.addr (handedOut history) := by
  ext addr
  simp [handedOut, granted, eq_comm]

theorem handedOut_concat_of_none (silent : entry.granted? = none) :
    handedOut (history ++ [entry]) = handedOut history := by
  simp [handedOut, silent]

theorem handedOut_subset_append (first second : List Entry) :
    handedOut first ⊆ handedOut (first ++ second) := by
  intro addr member
  simp only [handedOut, List.filterMap_append, List.map_append, List.toFinset_append] at member ⊢
  exact Finset.mem_union_left _ member

end HandedOut

/-- What holds of managers and their recycling backend when so many fresh addresses were handed
out: each of them is on the free list or on record, and in one place only. -/
structure Recycles (history : List Entry) (registries : List Registries) (backend : Recycling)
    (count : Nat) : Prop where
  small : count < 2 ^ 47
  next : backend.next = Recycling.address count
  handed : handedOut history = (Finset.range count).image Recycling.address
  parts : (Multiset.range count).map Recycling.address =
    ↑backend.freeList + (recorded registries).map Parcel.start
  counts : backend.allocs = backend.frees + (recorded registries).card
  sizes : ∀ parcel ∈ recorded registries, parcel.bytes ≤ Recycling.stride

namespace Recycles

variable {history : List Entry} {registries : List Registries} {backend : Recycling} {count : Nat}

theorem injOn_address (small : count ≤ 2 ^ 47) :
    Set.InjOn Recycling.address (Finset.range count) := by
  intro first one second two same
  simp only [Finset.coe_range, Set.mem_Iio] at one two
  exact Recycling.address_injective (by omega) (by omega) same

theorem card_handed (small : count ≤ 2 ^ 47) :
    ((Finset.range count).image Recycling.address).card = count := by
  rw [Finset.card_image_of_injOn (injOn_address small), Finset.card_range]

theorem val_handed (small : count ≤ 2 ^ 47) :
    ((Finset.range count).image Recycling.address).val =
      (Multiset.range count).map Recycling.address := by
  rw [Finset.image_val_of_injOn (injOn_address small), Finset.range_val]

theorem nodup_parts (kept : Recycles history registries backend count) :
    ((↑backend.freeList : Multiset Addr) + (recorded registries).map Parcel.start).Nodup := by
  rw [← kept.parts, ← val_handed (Nat.le_of_lt kept.small)]
  exact Finset.nodup _

theorem exists_address (kept : Recycles history registries backend count) {addr : Addr}
    (placed : addr ∈ backend.freeList ∨ ∃ parcel ∈ recorded registries, parcel.start = addr) :
    ∃ number < count, Recycling.address number = addr := by
  have listed : addr ∈ (Multiset.range count).map Recycling.address := by
    rw [kept.parts, Multiset.mem_add, Multiset.mem_coe, Multiset.mem_map]
    exact placed
  simpa using listed

theorem take_ne_zero (kept : Recycles history registries backend count) :
    (Recycling.take backend).1 ≠ 0 := by
  have small := kept.small
  cases list : backend.freeList with
  | nil =>
    simp only [Recycling.take, list, kept.next]
    exact Recycling.address_ne_zero (Nat.le_of_lt small)
  | cons addr rest =>
    obtain ⟨number, less, same⟩ := kept.exists_address (.inl (list ▸ List.mem_cons_self))
    simp only [Recycling.take, list, ← same]
    exact Recycling.address_ne_zero (by omega)

theorem take_fresh (kept : Recycles history registries backend count) :
    ∀ parcel ∈ recorded registries, parcel.start ≠ (Recycling.take backend).1 := by
  intro parcel member same
  have small := kept.small
  cases list : backend.freeList with
  | nil =>
    simp only [Recycling.take, list, kept.next] at same
    obtain ⟨number, less, other⟩ := kept.exists_address (.inr ⟨parcel, member, same⟩)
    exact Nat.ne_of_lt less (Recycling.address_injective (by omega) (by omega) other)
  | cons addr rest =>
    simp only [Recycling.take, list] at same
    have distinct := kept.nodup_parts
    rw [list, Multiset.nodup_add] at distinct
    exact Multiset.disjoint_left.1 distinct.2.2 (Multiset.mem_coe.2 List.mem_cons_self)
      (Multiset.mem_map.2 ⟨parcel, member, same⟩)

/-- Where addresses are has nothing to do with how many calls are to fail, nor with copies. -/
theorem withOrders (kept : Recycles history registries backend count)
    (failingAllocs failingFrees copies : Nat) :
    Recycles history registries { backend with failingAllocs, failingFrees, copies } count :=
  { kept with }

theorem concat (kept : Recycles history registries backend count) {entry : Entry}
    (silent : entry.granted? = none) : Recycles (history ++ [entry]) registries backend count :=
  { kept with handed := (handedOut_concat_of_none silent).trans kept.handed }

variable {index : Nat} {own : Registries} {area : Area} {ptr : Ptr} {bytes : Size}

theorem contains_eq_false (kept : Recycles history registries backend count)
    (owned : registries[index]? = some own) (taken : ptr.addr = (Recycling.take backend).1)
    (area : Area) : (own.get area).contains ptr.addr = false := by
  refine Registries.contains_eq_false (fun parcel member => ?_) area
  rw [taken]
  exact kept.take_fresh parcel (Multiset.mem_of_le (parcels_le_recorded owned) member)

theorem register (kept : Recycles history registries backend count)
    (owned : registries[index]? = some own) (taken : ptr.addr = (Recycling.take backend).1)
    (short : bytes ≤ Recycling.stride)
    (few : (handedOut (history ++ [Handout.grant ⟨index, area.space, ptr, bytes⟩])).card < 2 ^ 47)
    (failingAllocs : Nat) :
    ∃ count, Recycles (history ++ [Handout.grant ⟨index, area.space, ptr, bytes⟩])
      (registries.set index (own.apply (.register area ptr bytes)))
      { (Recycling.take backend).2 with failingAllocs, allocs := backend.allocs + 1 } count := by
  have small := kept.small
  have absent := kept.contains_eq_false owned taken area
  have added : recorded (registries.set index (own.apply (.register area ptr bytes))) =
      ⟨area, ptr.addr, bytes⟩ ::ₘ recorded registries := recorded_register owned absent
  have counts : backend.allocs + 1 = backend.frees +
      (recorded (registries.set index (own.apply (.register area ptr bytes)))).card := by
    rw [added, Multiset.card_cons, kept.counts, add_assoc]
  have sizes : ∀ parcel ∈ recorded (registries.set index (own.apply (.register area ptr bytes))),
      parcel.bytes ≤ Recycling.stride := by
    rw [added]
    exact Multiset.forall_mem_cons.2 ⟨short, kept.sizes⟩
  have handed : handedOut (history ++ [Handout.grant ⟨index, area.space, ptr, bytes⟩]) =
      insert ptr.addr (handedOut history) := handedOut_concat_of_some rfl
  rw [handed, kept.handed] at few
  cases list : backend.freeList with
  | nil =>
    -- The bound on the addresses handed out gives that on the number of fresh ones.
    simp only [Recycling.take, list] at taken ⊢
    rw [taken, kept.next, ← Finset.image_insert, ← Finset.range_add_one,
      card_handed (by omega)] at few
    refine ⟨count + 1, few, ?_, ?_, ?_, counts, sizes⟩
    · rw [kept.next]
      exact Recycling.address_add_stride count
    · rw [handed, kept.handed, taken, kept.next, Finset.range_add_one, Finset.image_insert]
    · rw [Multiset.range_succ, Multiset.map_cons, kept.parts, added, taken, kept.next, list]
      simp
  | cons addr rest =>
    -- A recycled address was handed out before, so none is new.
    obtain ⟨number, less, same⟩ := kept.exists_address (.inl (list ▸ List.mem_cons_self))
    simp only [Recycling.take, list] at taken ⊢
    refine ⟨count, small, kept.next, ?_, ?_, counts, sizes⟩
    · rw [handed, kept.handed, taken, ← same]
      exact Finset.insert_eq_self.2 (Finset.mem_image_of_mem _ (Finset.mem_range.2 less))
    · rw [kept.parts, added, taken, list, Multiset.map_cons, Multiset.add_cons,
        ← Multiset.cons_coe, Multiset.cons_add]

theorem deregister (kept : Recycles history registries backend count)
    (owned : registries[index]? = some own) (sound : own.AreSound)
    (member : ⟨ptr.addr, bytes⟩ ∈ (own.get area).blocks) :
    Recycles history (registries.set index (own.apply (.deregister area ptr)))
      { backend with
        frees := backend.frees + 1, freeList := ptr.addr :: backend.freeList } count := by
  have removed := recorded_deregister owned sound member
  have counts := kept.counts
  have sizes := kept.sizes
  rw [removed] at counts sizes
  refine ⟨kept.small, kept.next, kept.handed, ?_, ?_, fun parcel inside => sizes parcel ?_⟩
  · rw [kept.parts, removed, Multiset.map_cons, Multiset.add_cons, ← Multiset.cons_coe,
      Multiset.cons_add]
  · rw [Multiset.card_cons] at counts
    simp only
    omega
  · exact Multiset.mem_cons_of_mem inside

end Recycles

/-- The property of runs over a recycling backend that every exchange keeps. -/
theorem exchangesKeep_recycles :
    ExchangesKeep fun history registries (backend : Recycling) =>
      (handedOut history).card < 2 ^ 47 → ∃ count, Recycles history registries backend count := by
  intro history registries backend index own request reply next after before owned sound genuine
    exchange few
  have fewer : (handedOut history).card < 2 ^ 47 :=
    Nat.lt_of_le_of_lt (Finset.card_le_card (handedOut_subset_append _ _)) few
  obtain ⟨count, kept⟩ := before fewer
  cases exchange with
  | granted area bytes ptr positive answered =>
    rcases Recycling.alloc_cases area bytes kept.take_ne_zero with
      ⟨failure, refused⟩ | ⟨short, taken, same, granted⟩
    · cases answered.symm.trans refused
    · cases answered.symm.trans granted
      exact kept.register owned same short few _
  | @denied _ reply area bytes positive answered nothing =>
    rcases Recycling.alloc_cases area bytes kept.take_ne_zero with
      ⟨failure, refused⟩ | ⟨short, taken, same, granted⟩
    · cases answered.symm.trans refused
      rw [set_own owned]
      exact ⟨count, (kept.withOrders _ _ _).concat rfl⟩
    · cases answered.symm.trans granted
      exact absurd rfl (nothing taken)
  | @returned _ reply area ptr bytes member answered calm =>
    rcases Recycling.free_cases backend ptr with ⟨-, raised⟩ | ⟨-, freed⟩
    · cases answered.symm.trans raised
      exact absurd rfl (calm _)
    · cases answered.symm.trans freed
      exact ⟨count, (kept.deregister owned sound member).concat rfl⟩
  | raised area ptr bytes reason member answered =>
    rcases Recycling.free_cases backend ptr with ⟨-, raised⟩ | ⟨-, freed⟩
    · cases answered.symm.trans raised
      rw [set_own owned]
      exact ⟨count, (kept.withOrders _ _ _).concat rfl⟩
    · cases answered.symm.trans freed
  | copied transfer answered =>
    cases answered
    rw [set_own owned]
    exact ⟨count, (kept.withOrders _ _ _).concat rfl⟩

end Fleet

end TrackedMemory
