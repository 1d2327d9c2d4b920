import TrackedMemory.Proofs.Copying
import TrackedMemory.Proofs.Manager.Inventory
import TrackedMemory.Proofs.Registry.Bytes

/-!
# A manager shows what its inventory decides

The registries of a manager have an inventory, and every call does to them what it does to the
inventory. So no sequence of commands, whatever the backend answers, lets a client or the backend
tell a manager and the reference manager apart. The byte figures are no function of the inventory,
but they are the sums of its sizes as long as these are words.
-/

namespace TrackedMemory

theorem Space.exists_area {space : Space} (valid : space ≠ .invalid) :
    ∃ area : Area, space = area.space := by
  cases served : space.area? with
  | none => exact absurd (area?_eq_none_iff.1 served) valid
  | some area => exact ⟨area, area?_eq_some_iff.1 served⟩

theorem Inventory.spaces_eq : Inventory.spaces = Area.all.map Area.space := rfl

theorem Inventory.mem_starts {inventory : Inventory} {space : Space} {addr : Addr} :
    addr ∈ inventory.starts space ↔ (space, addr) ∈ inventory.sizes := by
  simp [starts, Finmap.mem_keys]

namespace Registries

variable {registries : Registries} {area : Area} {space : Space} {addr : Addr} {ptr : Ptr}
  {bytes : Size}

def entriesIn (area : Area) (registry : Registry) : List (Sigma fun _ : Space × Addr => Size) :=
  registry.blocks.map fun block => ⟨(area.space, block.start), block.size⟩

def sizes (registries : Registries) : Finmap fun _ : Space × Addr => Size :=
  (Area.all.flatMap fun area => entriesIn area (registries.get area)).toFinmap

/-- A counter of each space; the invalid space counts nothing. -/
def counted (registries : Registries) (counter : Registry → Nat) (space : Space) : Nat :=
  (space.area?.map fun area => counter (registries.get area)).getD 0

def inventory (registries : Registries) : Inventory where
  sizes := registries.sizes
  registrations := registries.counted Registry.registrations
  deregistrations := registries.counted Registry.deregistrations

/-! ## Looking up in the inventory -/

@[simp] theorem registrations_inventory (registries : Registries) :
    registries.inventory.registrations = registries.counted Registry.registrations := rfl

@[simp] theorem deregistrations_inventory (registries : Registries) :
    registries.inventory.deregistrations = registries.counted Registry.deregistrations := rfl

@[simp] theorem counted_space (registries : Registries) (counter : Registry → Nat) (area : Area) :
    registries.counted counter area.space = counter (registries.get area) := by
  simp [counted]

@[simp] theorem counted_invalid (registries : Registries) (counter : Registry → Nat) :
    registries.counted counter .invalid = 0 := rfl

theorem dlookup_entriesIn (area : Area) (space : Space) (registry : Registry) (addr : Addr) :
    (entriesIn area registry).dlookup (space, addr) =
      if space = area.space then (registry.find? addr).map Block.size else none := by
  unfold entriesIn Registry.find?
  induction registry.blocks with
  | nil => simp
  | cons first rest ih =>
    by_cases key : (space, addr) = (area.space, first.start)
    · obtain ⟨rfl, rfl⟩ := Prod.mk.inj key
      simp
    · rw [List.map_cons, List.dlookup_cons_ne _ _ key, ih]
      by_cases same : space = area.space
      · have differ : first.start ≠ addr := fun start => key (by rw [same, start])
        simp [same, differ]
      · simp [same]

@[simp] theorem size?_inventory (registries : Registries) (area : Area) (addr : Addr) :
    registries.inventory.size? area.space addr =
      ((registries.get area).find? addr).map Block.size := by
  simp only [Inventory.size?, inventory, sizes, Finmap.dlookup_list_toFinmap, Area.all,
    List.flatMap_cons, List.flatMap_nil, List.dlookup_append, dlookup_entriesIn]
  cases area <;> simp [Area.space]

@[simp] theorem size?_inventory_invalid (registries : Registries) (addr : Addr) :
    registries.inventory.size? .invalid addr = none := by
  simp [Inventory.size?, inventory, sizes, Area.all, dlookup_entriesIn, Area.space]

@[simp] theorem mem_sizes :
    (area.space, addr) ∈ registries.inventory.sizes ↔
      (registries.get area).contains addr = true := by
  have looked := size?_inventory registries area addr
  rw [Inventory.size?] at looked
  rw [← Finmap.lookup_isSome, looked, Registry.contains, Option.isSome_map]

theorem starts_inventory (registries : Registries) (area : Area) :
    registries.inventory.starts area.space =
      ((registries.get area).blocks.map Block.start).toFinset := by
  ext addr
  rw [Inventory.mem_starts, mem_sizes, Registry.contains_iff, List.mem_toFinset, List.mem_map]

theorem starts_inventory_invalid (registries : Registries) :
    registries.inventory.starts .invalid = ∅ := by
  refine Finset.eq_empty_of_forall_notMem fun addr member => ?_
  have found := Finmap.lookup_isSome.2 (Inventory.mem_starts.1 member)
  have missing := size?_inventory_invalid registries addr
  rw [Inventory.size?] at missing
  rw [missing] at found
  cases found

theorem liveCount_inventory (sound : registries.AreSound) (area : Area) :
    registries.inventory.liveCount area.space = (registries.get area).liveCount := by
  rw [Inventory.liveCount, starts_inventory,
    List.toFinset_card_of_nodup (sound area).nodup_starts, List.length_map, Registry.liveCount]

@[simp] theorem liveCount_inventory_invalid (registries : Registries) :
    registries.inventory.liveCount .invalid = 0 := by
  rw [Inventory.liveCount, starts_inventory_invalid, Finset.card_empty]

theorem total_inventory (sound : registries.AreSound) (area : Area) :
    registries.inventory.total area.space = (registries.get area).recordedBytes := by
  rw [Inventory.total, starts_inventory, List.sum_toFinset _ (sound area).nodup_starts,
    List.map_map, Registry.recordedBytes]
  refine congrArg List.sum (List.map_congr_left fun block member => ?_)
  simp [(sound area).find?_of_mem member]

@[simp] theorem total_inventory_invalid (registries : Registries) :
    registries.inventory.total .invalid = 0 := by
  rw [Inventory.total, starts_inventory_invalid, Finset.sum_empty]

theorem spaceOf_inventory (registries : Registries) (addr : Addr) :
    registries.inventory.spaceOf addr = registries.spaceOf addr := by
  have found : (fun space => decide ((space, addr) ∈ registries.inventory.sizes)) ∘ Area.space =
      fun area => (registries.get area).contains addr := by
    funext area
    simp
  rw [Inventory.spaceOf, Inventory.spaces_eq, List.find?_map, found, spaceOf, areaOf?]

/-- A block is hidden by the areas that are looked into before its own. -/
theorem isHidden_inventory : registries.inventory.isHidden area.space addr = false ↔
    ∀ other ∈ Area.all.takeWhile (· ≠ area), (registries.get other).contains addr = false := by
  have before : (fun space => decide (space ≠ area.space)) ∘ Area.space =
      fun other => decide (other ≠ area) := by
    funext other
    exact decide_eq_decide.2 (not_congr ⟨Area.space_injective, congrArg _⟩)
  rw [Inventory.isHidden, Inventory.spaces_eq, List.takeWhile_map, before, List.any_map]
  simp

theorem covers_inventory (sound : registries.AreSound) (area : Area) (addr : Addr)
    (bytes : Size) :
    registries.inventory.Covers area.space addr bytes ↔
      (registries.get area).covers addr bytes = true := by
  rw [Registry.covers_iff, Inventory.Covers, starts_inventory]
  simp only [List.mem_toFinset, List.mem_map, size?_inventory]
  constructor
  · rintro ⟨_, ⟨block, member, rfl⟩, below, last, size, known, inside⟩
    rw [(sound area).find?_of_mem member] at known
    cases known
    refine ⟨block, (sound area).nearest?_eq_some_iff.2 ⟨member, below, ?_⟩, inside⟩
    exact fun other listed reaches => last _ ⟨other, listed, rfl⟩ reaches
  · rintro ⟨block, nearest, inside⟩
    obtain ⟨member, below, last⟩ := (sound area).nearest?_eq_some_iff.1 nearest
    refine ⟨block.start, ⟨block, member, rfl⟩, below, ?_, block.size, ?_, inside⟩
    · rintro _ ⟨other, listed, rfl⟩ reaches
      exact last other listed reaches
    · rw [(sound area).find?_of_mem member]
      rfl

theorem covers_inventory_or (sound : registries.AreSound) :
    registries.inventory.Covers space addr bytes ∨ registries.inventory.Covers .managed addr bytes ↔
      registries.covers addr bytes space = true := by
  simp only [covers, List.any_eq_true, mem_candidates, ← covers_inventory sound]
  constructor
  · rintro (own | managed)
    · have valid : space ≠ .invalid := by
        rintro rfl
        obtain ⟨start, member, -⟩ := own
        rw [starts_inventory_invalid] at member
        exact absurd member (Finset.notMem_empty start)
      obtain ⟨area, rfl⟩ := Space.exists_area valid
      exact ⟨area, .inl rfl, own⟩
    · exact ⟨.managed, .inr rfl, managed⟩
  · rintro ⟨area, rfl | rfl, covered⟩
    · exact .inl covered
    · exact .inr covered

/-! ## Mutations of the inventory -/

theorem counted_update {next : Registries} {counter : Registry → Nat} {count : Nat}
    (own : counter (next.get area) = count)
    (others : ∀ other ≠ area, counter (next.get other) = counter (registries.get other)) :
    next.counted counter = Function.update (registries.counted counter) area.space count := by
  funext space
  by_cases valid : space = .invalid
  · subst valid
    rw [Function.update_of_ne area.space_ne_invalid.symm]
    rfl
  · obtain ⟨other, rfl⟩ := Space.exists_area valid
    by_cases same : other = area
    · subst same
      simp [own]
    · rw [Function.update_of_ne fun space => same (Area.space_injective space), counted_space,
        counted_space, others other same]

theorem counted_congr {next : Registries} {counter : Registry → Nat}
    (same : ∀ area, counter (next.get area) = counter (registries.get area)) :
    next.counted counter = registries.counted counter := by
  funext space
  cases space.area? <;> simp [counted, same]

/-- The map of registries is the one in which every look-up finds what is on record. -/
theorem sizes_eq {sizes : Finmap fun _ : Space × Addr => Size}
    (found : ∀ area addr, sizes.lookup (area.space, addr) =
      ((registries.get area).find? addr).map Block.size)
    (missing : ∀ addr, sizes.lookup (.invalid, addr) = none) :
    registries.inventory.sizes = sizes := by
  refine Finmap.ext_lookup ?_
  rintro ⟨space, addr⟩
  by_cases valid : space = .invalid
  · subst valid
    exact (size?_inventory_invalid registries addr).trans (missing addr).symm
  · obtain ⟨area, rfl⟩ := Space.exists_area valid
    exact (size?_inventory registries area addr).trans (found area addr).symm

theorem inventory_register (sound : registries.AreSound) (area : Area) (ptr : Ptr) (bytes : Size) :
    (registries.apply (.register area ptr bytes)).inventory =
      registries.inventory.insert area.space ptr.addr bytes := by
  cases present : (registries.get area).contains ptr.addr with
  | true =>
    rw [Inventory.insert, if_pos (mem_sizes.2 present), apply, present, if_pos rfl]
  | false =>
    have absent : (area.space, ptr.addr) ∉ registries.inventory.sizes := by simp [present]
    have new : ∀ other, (registries.apply (.register area ptr bytes)).get other = _ :=
      get_apply_register present
    rw [Inventory.insert, if_neg absent]
    refine Inventory.ext (sizes_eq (fun other addr => ?_) fun addr => ?_) ?_ ?_
    · rw [find?_register sound present]
      by_cases key : (other.space, addr) = (area.space, ptr.addr)
      · obtain ⟨same, rfl⟩ := Prod.mk.inj key
        rw [same, Finmap.lookup_insert, if_pos ⟨Area.space_injective same, rfl⟩]
        rfl
      · rw [Finmap.lookup_insert_of_ne _ key, if_neg]
        · exact size?_inventory registries other addr
        · rintro ⟨rfl, rfl⟩
          exact key rfl
    · rw [Finmap.lookup_insert_of_ne]
      · exact size?_inventory_invalid registries addr
      · exact fun key => area.space_ne_invalid (Prod.mk.inj key).1.symm
    · refine counted_update ?_ fun other apart => ?_
      · rw [new, if_pos rfl]
        simp [inventory, Registry.insert]
      · rw [new, if_neg apart]
    · refine counted_congr fun other => ?_
      rw [new]
      split
      next same => rw [same, Registry.insert]
      next => rfl

theorem inventory_deregister (sound : registries.AreSound)
    (member : ⟨ptr.addr, bytes⟩ ∈ (registries.get area).blocks) :
    (registries.apply (.deregister area ptr)).inventory =
      registries.inventory.erase area.space ptr.addr := by
  have left : ∀ other, (registries.apply (.deregister area ptr)).get other = _ :=
    get_apply_deregister ((sound area).find?_of_mem member)
  refine Inventory.ext (sizes_eq (fun other addr => ?_) fun addr => ?_) ?_ ?_
  · rw [find?_deregister sound member]
    by_cases key : (other.space, addr) = (area.space, ptr.addr)
    · obtain ⟨same, rfl⟩ := Prod.mk.inj key
      rw [if_pos ⟨Area.space_injective same, rfl⟩, same]
      exact Finmap.lookup_erase _ _
    · rw [if_neg]
      · exact (Finmap.lookup_erase_ne key).trans (size?_inventory registries other addr)
      · rintro ⟨rfl, rfl⟩
        exact key rfl
  · refine (Finmap.lookup_erase_ne fun key => ?_).trans (size?_inventory_invalid registries addr)
    exact area.space_ne_invalid (Prod.mk.inj key).1.symm
  · refine counted_congr fun other => ?_
    rw [left]
    split
    next same => rw [same, Registry.erase]
    next => rfl
  · refine counted_update ?_ fun other apart => ?_
    · rw [left, if_pos rfl]
      simp [inventory, Registry.erase]
    · rw [left, if_neg apart]

/-- A byte figure goes up and down with the sizes on record, but stops at both ends of a word. -/
theorem liveBytes_apply (sound : registries.AreSound) (mutation : Mutation) (area : Area) :
    ((registries.apply mutation).get area).liveBytes.toNat =
      min ((registries.get area).liveBytes.toNat +
          (((registries.apply mutation).get area).recordedBytes -
            (registries.get area).recordedBytes)) (UInt64.size - 1) -
        ((registries.get area).recordedBytes -
          ((registries.apply mutation).get area).recordedBytes) := by
  have bound := (registries.get area).liveBytes.toNat_lt_size
  rcases get_apply_cases registries mutation area with
    same | ⟨ptr, bytes, -, absent, added⟩ | ⟨ptr, block, -, found, dropped⟩
  · rw [same]
    omega
  · rw [added, Registry.toNat_liveBytes_insert, Registry.recordedBytes_insert absent]
    omega
  · have member := ((sound area).find?_eq_some_iff.1 found).1
    rw [dropped, Registry.toNat_liveBytes_erase,
      Registry.recordedBytes_erase (sound area) member]
    omega

end Registries

/-! ## The gauges of books -/

theorem Statistics.totalLiveBytes?_eq (statistics : Statistics) (build : Build) :
    statistics.totalLiveBytes? build =
      let sum := statistics.device.liveBytes.toNat + statistics.host.liveBytes.toNat +
        statistics.managed.liveBytes.toNat
      if build = .checked ∧ UInt64.size ≤ sum then none else some (UInt64.ofNat sum) := by
  extract_lets sum
  cases build with
  | unchecked => simp [totalLiveBytes?, sum]
  | checked =>
    by_cases large : UInt64.size ≤ sum
    · rw [if_pos ⟨rfl, large⟩]
      refine Option.eq_none_iff_forall_ne_some.2 fun total found => ?_
      have fits := total.toNat_lt_size
      rw [← totalLiveBytes?_checked_eq_some_iff.1 found] at fits
      exact absurd large (Nat.not_le.2 fits)
    · rw [if_neg fun both => large both.2]
      refine totalLiveBytes?_checked_eq_some_iff.2 ?_
      exact (UInt64.toNat_ofNat_of_lt' (Nat.not_le.1 large)).symm

namespace Books

variable {books : Books} {setup : Setup} {area : Area} {ptr : Ptr} {bytes : Size}

def gauges (books : Books) : Gauges where
  bytes := books.registries.counted fun registry => registry.liveBytes.toNat
  tally := books.tally

@[simp] theorem bytes_gauges (books : Books) (area : Area) :
    books.gauges.bytes area.space = (books.registries.get area).liveBytes.toNat := by
  simp [gauges]

theorem figures_inventory (sound : books.registries.AreSound) (area : Area) :
    books.registries.inventory.figures books.gauges area.space =
      (books.registries.get area).figures := by
  simp [Inventory.figures, Registries.liveCount_inventory sound, Registry.figures, gauges]

theorem statistics_inventory (sound : books.registries.AreSound) :
    (⟨books.registries.inventory.figures books.gauges .device,
      books.registries.inventory.figures books.gauges .host,
      books.registries.inventory.figures books.gauges .managed, books.gauges.tally⟩ : Statistics) =
      books.statistics := by
  have device := figures_inventory sound .device
  have host := figures_inventory sound .host
  have managed := figures_inventory sound .managed
  exact (Statistics.mk.injEq ..).mpr ⟨device, host, managed, rfl⟩

theorem leakReport_inventory (sound : books.registries.AreSound) :
    (⟨Inventory.spaces.filterMap fun space =>
      if books.registries.inventory.liveCount space = 0 then none
      else some ⟨space, books.registries.inventory.liveCount space,
        UInt64.ofNat (books.gauges.bytes space)⟩⟩ : LeakReport) = books.registries.leakReport := by
  rw [Registries.leakReport, Inventory.spaces_eq, List.filterMap_map]
  refine congrArg LeakReport.mk (List.filterMap_congr fun area _ => ?_)
  simp [Registries.liveCount_inventory sound]

theorem answer_inventory (setup : Setup) (sound : books.registries.AreSound) (query : Query) :
    books.registries.inventory.answer setup books.gauges query =
      (Books.query setup query books).result := by
  cases query with
  | spaceOf addr => simp [Inventory.answer, Books.query, Registries.spaceOf_inventory]
  | sizeOf addr =>
    simp only [Inventory.answer, Books.query, Act.read_bind_apply, answerSize_apply,
      Registries.spaceOf_inventory, Registries.spaceOf, sizeOf]
    cases books.registries.areaOf? addr <;> simp [Registry.sizeOf]
  | allocationCount space =>
    cases known : space.area? <;>
      simp [Inventory.answer, Books.query, answerCount_apply, Statistics.space?, known,
        Registries.counted, Registry.figures]
  | deallocationCount space =>
    cases known : space.area? <;>
      simp [Inventory.answer, Books.query, answerCount_apply, Statistics.space?, known,
        Registries.counted, Registry.figures]
  | liveCount space =>
    cases known : space.area? with
    | none =>
      rw [Space.area?_eq_none_iff.1 known]
      simp [Inventory.answer, Books.query, Statistics.space?, Space.area?]
    | some area =>
      rw [Space.area?_eq_some_iff.1 known]
      simp [Inventory.answer, Books.query, Statistics.space?, Registry.figures,
        Registries.liveCount_inventory sound]
  | liveBytes space =>
    cases known : space.area? <;>
      simp [Inventory.answer, Books.query, Statistics.space?, known, Registries.counted, gauges,
        Registry.figures]
  | figures space =>
    cases known : space.area? with
    | none =>
      rw [Space.area?_eq_none_iff.1 known]
      simp [Inventory.answer, Books.query, Statistics.space?, Space.area?]
    | some area =>
      rw [Space.area?_eq_some_iff.1 known]
      simp [Inventory.answer, Books.query, Statistics.space?, figures_inventory sound,
        area.space_ne_invalid]
  | statistics => simp [Inventory.answer, Books.query, statistics_inventory sound]
  | totalLiveBytes =>
    have device : books.gauges.bytes .device = _ := bytes_gauges books .device
    have host : books.gauges.bytes .host = _ := bytes_gauges books .host
    have managed : books.gauges.bytes .managed = _ := bytes_gauges books .managed
    have total := books.statistics.totalLiveBytes?_eq setup.build
    simp only [Inventory.answer, Books.query, Act.read_bind_apply, device, host, managed]
    by_cases large : setup.build = .checked ∧ UInt64.size ≤
        (books.registries.get .device).liveBytes.toNat +
          (books.registries.get .host).liveBytes.toNat +
          (books.registries.get .managed).liveBytes.toNat
    · rw [if_pos large, total.trans (if_pos large)]
      rfl
    · rw [if_neg large, total.trans (if_neg large)]
      rfl
  | leakReport =>
    simp [Inventory.answer, Books.query, leakReport_inventory sound]
  | isConsistent =>
    simp [Inventory.answer, Books.query, Registries.areConsistent, (sound _).isConsistent]
  | config => rfl

theorem received_inventory (sound : books.registries.AreSound) (setup : Setup) (area : Area)
    (ptr : Ptr) (bytes : Size) :
    books.registries.inventory.received setup.build area.space ptr =
      (Site.granted setup books area ptr bytes).map .block := by
  unfold Inventory.received Site.granted Registries.breach?
  cases setup.build with
  | unchecked => rfl
  | checked =>
    cases present : (books.registries.get area).contains ptr.addr with
    | true => simp [present, Except.map]
    | false =>
      have found :
          (books.registries.apply (.register area ptr bytes)).areaOf? ptr.addr = some area ↔
            books.registries.inventory.isHidden area.space ptr.addr = false :=
        (Registries.areaOf?_register sound present).trans Registries.isHidden_inventory.symm
      cases hidden : books.registries.inventory.isHidden area.space ptr.addr with
      | false => simp [present, found.2 hidden, Except.map]
      | true =>
        have missing := found.not.2 (by simp [hidden])
        simp [present, missing, Except.map]

theorem transferOf_of_admits (sound : books.registries.AreSound) {request : CopyRequest}
    (admitted : books.registries.inventory.Admits request) :
    books.transferOf request = .ok (request.between admitted.1) := by
  have named : request.transfer? = some (request.between admitted.1) :=
    CopyRequest.transfer?_eq_some_iff.2 rfl
  rw [transferOf, named]
  rcases admitted.2 with vouched | ⟨dst, src⟩
  · simp only [vouched, if_true]
  · have covered : books.uncovered? (request.between admitted.1) = none := by
      refine uncovered?_eq_none.2 fun side => ?_
      cases side with
      | destination => exact (Registries.covers_inventory_or sound).1 dst
      | source => exact (Registries.covers_inventory_or sound).1 src
    simp only [covered, ite_self]

theorem admits_of_transferOf (sound : books.registries.AreSound) {request : CopyRequest}
    {transfer : Transfer} (accepted : books.transferOf request = .ok transfer) :
    books.registries.inventory.Admits request := by
  cases outside : request.outside with
  | false =>
    obtain ⟨rfl, covered⟩ := (transferOf_eq_ok_iff outside).1 accepted
    exact ⟨⟨transfer.dst.addr_ne_zero, transfer.src.addr_ne_zero⟩,
      .inr ⟨(Registries.covers_inventory_or sound).2 (covered .destination),
        (Registries.covers_inventory_or sound).2 (covered .source)⟩⟩
  | true =>
    cases named : request.transfer? with
    | none => simp [transferOf, named] at accepted
    | some asked =>
      have same := CopyRequest.transfer?_eq_some_iff.1 named
      rw [← same] at outside ⊢
      exact ⟨⟨asked.dst.addr_ne_zero, asked.src.addr_ne_zero⟩, .inl outside⟩

end Books

namespace Site

variable {β : Type} [Backend β] {setup : Setup} {site : Site β} {command : Command}
  {outcome : Outcome (Site β) Answer}

def reference (site : Site β) : Reference β where
  inventory := site.books.registries.inventory
  gauges := site.books.gauges
  backend := site.backend

theorem Runs.exists_apply (runs : Runs setup site command outcome) :
    ∃ mutation, outcome.state.books.registries = site.books.registries.apply mutation := by
  cases runs with
  | @allocateGranted bytes area ptr => exact ⟨.register area ptr bytes, rfl⟩
  | deallocateFreed area ptr | deallocateFailed area ptr => exact ⟨.deregister area ptr, rfl⟩
  | _ => exact ⟨.nothing, rfl⟩

/-- Every command does to the registries what it does to their inventory. -/
theorem Runs.run_inventory (runs : Runs setup site command outcome)
    (sound : site.books.registries.AreSound) :
    site.books.registries.inventory.run setup site.books.gauges site.backend command =
      (⟨outcome.trace.calls, outcome.result⟩, outcome.state.books.registries.inventory,
        outcome.state.backend) := by
  cases runs with
  | @allocateRefused bytes space remark refused =>
    have barred : bytes = 0 ∨ space = .invalid := by
      by_contra positive
      obtain ⟨area, rfl⟩ := Space.exists_area (not_or.1 positive).2
      rw [allocationArea_eq_ok_iff.2 ⟨(not_or.1 positive).1, rfl⟩] at refused
      cases refused
    simp [Inventory.run, Inventory.allocate, barred]
  | allocateFailed area failure backend positive answered
  | allocateRaised area reason backend positive answered =>
    simp [Inventory.run, Inventory.allocate, positive, area.space_ne_invalid, answered]
  | @allocateGranted bytes area ptr backend positive answered =>
    simp [Inventory.run, Inventory.allocate, positive, area.space_ne_invalid, answered,
      Books.received_inventory sound setup area ptr bytes, Registries.inventory_register sound,
      Books.settle]
  | @deallocateRefused addr bytes space remark refused =>
    have barred : ¬(addr ≠ 0 ∧ space ≠ .invalid) := by
      rintro ⟨valid, served⟩
      obtain ⟨area, rfl⟩ := Space.exists_area served
      rw [deallocationTarget_eq_ok_iff.2 (⟨rfl, rfl⟩ :
        addr = (⟨addr, valid⟩ : Ptr).addr ∧ area.space = area.space)] at refused
      cases refused
    simp only [Inventory.run, Inventory.deallocate, dif_neg barred, Trace.calls_remarks]
  | deallocateUnknown area ptr absent =>
    have missing : (site.books.registries.get area).find? ptr.addr = none := by
      simpa [Registry.contains] using absent
    simp [Inventory.run, Inventory.deallocate, missing]
  | deallocateFreed area ptr registered backend member answered
  | deallocateFailed area ptr registered failure backend member answered =>
    have found := (sound area).find?_of_mem member
    simp [Inventory.run, Inventory.deallocate, ptr.addr_ne_zero, area.space_ne_invalid, found,
      answered, Registries.inventory_deregister sound member, Books.settle]
  | deallocateRaised area ptr registered reason backend member answered =>
    have found := (sound area).find?_of_mem member
    simp [Inventory.run, Inventory.deallocate, ptr.addr_ne_zero, area.space_ne_invalid, found,
      answered, Books.settle, Registries.apply]
  | copyNothing nothing => simp [Inventory.run, Inventory.copy, nothing]
  | copyRefused remark positive refused =>
    have barred : ¬site.books.registries.inventory.Admits _ := fun admitted => by
      rw [Books.transferOf_of_admits sound admitted] at refused
      cases refused
    simp [Inventory.run, Inventory.copy, positive, barred]
  | copyGranted transfer backend positive accepted answered
  | copyFailed transfer failure backend positive accepted answered
  | copyRaised transfer reason backend positive accepted answered =>
    have admitted := Books.admits_of_transferOf sound accepted
    rw [Books.transferOf_of_admits sound admitted] at accepted
    cases accepted
    simp [Inventory.run, Inventory.copy, positive, admitted, answered]
  | query query =>
    simp [Inventory.run, Books.answer_inventory setup sound, Books.query_calls]

theorem Runs.tally_after (runs : Runs setup site command outcome) :
    outcome.state.books.tally =
      site.books.tally.after command ⟨outcome.trace.calls, outcome.result⟩ := by
  cases runs with
  | @allocateGranted bytes area ptr =>
    have ends : granted setup site.books area ptr bytes = .ok (some ptr) ∨
        ∃ fault, granted setup site.books area ptr bytes = .error fault := by
      unfold granted
      split
      · exact .inr ⟨_, rfl⟩
      · exact .inl rfl
    rcases ends with ends | ⟨fault, ends⟩ <;>
      simp [Tally.after, Except.map, Books.settle, ends]
  | query query => simp [Tally.after, Books.query_calls]
  | _ => simp [Tally.after, Books.settle]

theorem Runs.gauges_after (runs : Runs setup site command outcome)
    (sound : site.books.registries.AreSound) :
    outcome.state.books.gauges =
      site.books.gauges.after site.books.registries.inventory
        outcome.state.books.registries.inventory command
        ⟨outcome.trace.calls, outcome.result⟩ := by
  obtain ⟨mutation, applied⟩ := runs.exists_apply
  refine Gauges.ext (funext fun space => ?_) runs.tally_after
  by_cases valid : space = .invalid
  · subst valid
    simp [Gauges.after, Books.gauges]
  · obtain ⟨area, rfl⟩ := Space.exists_area valid
    simp only [Gauges.after, Books.bytes_gauges, applied, Registries.total_inventory sound,
      Registries.total_inventory (sound.apply mutation)]
    exact Registries.liveBytes_apply sound mutation area

/-- Every command does to a site what it does to the reference manager. -/
theorem step_reference (settled : site.books.IsSettled) (command : Command) :
    site.reference.step setup command =
      (⟨(run setup command site).trace.calls, (run setup command site).result⟩,
        (run setup command site).state.reference) := by
  have done : Runs setup site command (run setup command site) := runs settled command
  have ran := done.run_inventory settled.sound
  simp only [Reference.step, reference, ran, done.gauges_after settled.sound]

/-- A manager that starts with settled books shows what the reference manager shows that starts with
their inventory. -/
theorem observe_reference (commands : List Command) {site : Site β}
    (settled : site.books.IsSettled) :
    observe setup commands site = Reference.observe setup commands site.reference := by
  induction commands generalizing site with
  | nil => rfl
  | cons command rest ih =>
    rw [observe, Reference.observe, step_reference settled command]
    exact congrArg _ (ih ((runs settled command).isSettled settled))

end Site

/-! ## Byte figures and sums -/

theorem Inventory.total_eq_zero {inventory : Inventory} {space : Space}
    (cleared : inventory.liveCount space = 0) : inventory.total space = 0 := by
  rw [total, Finset.card_eq_zero.1 cleared, Finset.sum_empty]

namespace Reference

variable {β : Type} [Backend β] {setup : Setup} {reference : Reference β} {space : Space}

theorem after_append (first second : List Command) :
    Reference.after setup (first ++ second) reference =
      Reference.after setup second (Reference.after setup first reference) :=
  List.foldl_append

theorem bytes_after_le (commands : List Command)
    (bounded : reference.gauges.bytes space ≤ reference.inventory.total space) :
    (Reference.after setup commands reference).gauges.bytes space ≤
      (Reference.after setup commands reference).inventory.total space := by
  induction commands generalizing reference with
  | nil => exact bounded
  | cons command rest ih =>
    refine ih ?_
    simp only [step, Gauges.after]
    omega

/-- A byte figure that is the sum of the sizes is so as long as the sum is a word. -/
theorem bytes_after_eq (commands : List Command)
    (exact : reference.gauges.bytes space = reference.inventory.total space)
    (fits : ∀ part, part <+: commands →
      (Reference.after setup part reference).inventory.total space < UInt64.size) :
    (Reference.after setup commands reference).gauges.bytes space =
      (Reference.after setup commands reference).inventory.total space := by
  induction commands generalizing reference with
  | nil => exact exact
  | cons command rest ih =>
    have now : reference.inventory.total space < UInt64.size := fits [] List.nil_prefix
    have next : (reference.step setup command).2.inventory.total space < UInt64.size :=
      fits [command] (List.prefix_append [command] rest)
    refine ih ?_ fun part start => fits (command :: part) (List.cons_prefix_cons.2 ⟨rfl, start⟩)
    simp only [step, Gauges.after] at next ⊢
    omega

end Reference

namespace Site

variable {β : Type} [Backend β]

/-- What is seen of a new manager over a backend. -/
structure ShowsInventory (setup : Setup) (commands : List Command) (backend : β) : Prop where
  /-- The backend calls in their order, their answers and how every command ends. -/
  shown : observe setup commands { backend } = Reference.observe setup commands { backend }
  bounded : ∀ space,
    (Reference.after setup commands { backend }).gauges.bytes space ≤
      (Reference.after setup commands { backend }).inventory.total space
  /-- A byte figure is the sum of the sizes if that has been a word since no block was live. -/
  exact : ∀ space before since, commands = before ++ since →
    (Reference.after setup before { backend }).inventory.liveCount space = 0 →
    (∀ part, part <+: since →
      (Reference.after setup (before ++ part) { backend }).inventory.total space < UInt64.size) →
    (Reference.after setup commands { backend }).gauges.bytes space =
      (Reference.after setup commands { backend }).inventory.total space

/-- Over any backend a new manager shows what the reference manager shows, which decides everything
by its inventory but the byte figures and the tally. -/
theorem shows_inventory (setup : Setup) (commands : List Command) (backend : β) :
    ShowsInventory setup commands backend where
  shown := by
    have fresh : ({ backend } : Site β).reference = { backend } := by
      refine (Reference.mk.injEq ..).mpr ⟨Inventory.ext rfl ?_ ?_, Gauges.ext ?_ rfl, rfl⟩ <;>
        exact funext fun space => by cases space <;> rfl
    rw [observe_reference commands Books.isSettled_empty, fresh]
  bounded space := Reference.bytes_after_le commands (Nat.zero_le _)
  exact space before since split cleared fits := by
    subst split
    have bounded : (Reference.after setup before { backend }).gauges.bytes space ≤ _ :=
      Reference.bytes_after_le before (Nat.zero_le _)
    rw [Inventory.total_eq_zero cleared] at bounded
    rw [Reference.after_append]
    refine Reference.bytes_after_eq since ?_ fun part start => ?_
    · rw [Inventory.total_eq_zero cleared, Nat.le_zero.1 bounded]
    · rw [← Reference.after_append]
      exact fits part start

/-- Commands that leave one block of eight bytes behind. Its size is lost when the byte figure stops
at the greatest word, so the figure is zero. -/
def swollen : List Command :=
  [.allocate 0xffffffffffffffff .host, .allocate 8 .host,
    .deallocate 0x10000000 0xffffffffffffffff .host]

/-- Commands that leave the same block behind, with a byte figure of eight. -/
def slender : List Command :=
  [.allocate 1 .host, .allocate 8 .host, .deallocate 0x10000000 1 .host]

/-- What the byte figure is, no inventory can tell: there is one that has it at zero once and at
eight another time. -/
theorem liveBytes_beyond_inventory :
    ¬∃ answer : Inventory → Except Fault Answer, ∀ commands ∈ [swollen, slender],
      (observe (.standard .checked) (commands ++ [.query (.liveBytes .host)])
          { backend := ({} : Scripted) }).getLast?.map Observation.result =
        some (answer (Reference.after (.standard .checked) commands
          { backend := ({} : Scripted) }).inventory) := by
  rintro ⟨answer, shown⟩
  have first := shown swollen (by simp)
  have second := shown slender (by simp)
  have same : (Reference.after (.standard .checked) swollen
      { backend := ({} : Scripted) }).inventory = (Reference.after (.standard .checked) slender
      { backend := ({} : Scripted) }).inventory := by
    refine Inventory.ext ?_ (funext fun space => ?_) (funext fun space => ?_)
    · rfl
    · cases space <;> rfl
    · cases space <;> rfl
  rw [same, ← second] at first
  revert first
  decide +kernel

end Site

end TrackedMemory
