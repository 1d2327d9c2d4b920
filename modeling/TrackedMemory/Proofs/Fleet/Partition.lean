import Mathlib.Algebra.Order.BigOperators.Group.Multiset
import Mathlib.Algebra.Order.Ring.Nat
import Mathlib.Algebra.Group.Action.Defs
import TrackedMemory.Proofs.Fleet.Recycling

/-!
# Where the addresses of a recycling backend are

In every run of managers over a recycling backend, in which blocks are allocated, freed and copied,
managers are dropped, and the backend is told to fail allocations or to break off frees, the
addresses handed out so far are divided between the free list, the live blocks and the blocks left
behind. Nothing breaks off but a free that was to break off: a new block hides behind no other, and
the sizes of all blocks together are a word.
-/

namespace TrackedMemory

/-! ## What can break off -/

namespace Recycling

variable {own next : Registries} {backend after : Recycling} {request : Request}
  {reply : Reply (Option Ptr)} {reason : String}

theorem failingFrees_take (backend : Recycling) :
    (take backend).2.failingFrees = backend.failingFrees := by
  cases list : backend.freeList with
  | nil => simp only [take, list]
  | cons addr rest => simp only [take, list]

/-- A request for a block never breaks off, and leaves the orders to break off frees alone. -/
theorem alloc_calm (space : Space) (bytes : Size) (backend : Recycling) :
    (alloc space bytes backend).2.failingFrees = backend.failingFrees ∧
      ∀ reason, (alloc space bytes backend).1 ≠ .raised reason := by
  simp only [alloc]
  split
  · exact ⟨rfl, nofun⟩
  · split
    · exact ⟨rfl, nofun⟩
    · split <;> exact ⟨by rw [failingFrees_take], nofun⟩

/-- A call that does not use up an order to break off a free does not break off. One that does is a
free, and it breaks off. -/
theorem exchange_cases (exchange : Exchange own backend request reply next after) :
    (after.failingFrees = backend.failingFrees ∧ ∀ reason, reply ≠ .raised reason) ∨
      0 < backend.failingFrees ∧ after.failingFrees = backend.failingFrees - 1 ∧
        ∃ space ptr bytes, request = .free space ptr bytes ∧ reply = .raised (breakOff ptr) := by
  cases exchange with
  | granted area bytes ptr positive answered =>
    have calm := (alloc_calm area.space bytes backend).1
    rw [show alloc area.space bytes backend = _ from answered] at calm
    exact .inl ⟨calm, nofun⟩
  | @denied _ reply area bytes positive answered nothing =>
    obtain ⟨calm, unbroken⟩ := alloc_calm area.space bytes backend
    rw [show alloc area.space bytes backend = _ from answered] at calm unbroken
    refine .inl ⟨calm, fun reason broke => ?_⟩
    cases reply with
    | granted | refused => cases broke
    | raised other => exact unbroken other rfl
  | @returned _ reply area ptr bytes member answered calm =>
    rcases free_cases backend ptr with ⟨-, raised⟩ | ⟨-, freed⟩
    · cases answered.symm.trans raised
      exact absurd rfl (calm _)
    · cases answered.symm.trans freed
      exact .inl ⟨rfl, nofun⟩
  | raised area ptr bytes reason member answered =>
    rcases free_cases backend ptr with ⟨ordered, raised⟩ | ⟨-, freed⟩
    · cases answered.symm.trans raised
      exact .inr ⟨ordered, rfl, area.space, ptr, bytes, rfl, rfl⟩
    · cases answered.symm.trans freed
  | copied transfer answered =>
    cases answered
    exact .inl ⟨rfl, nofun⟩

theorem of_raised_mem {calls : List (Request × Reply (Option Ptr))}
    (course : Course own backend calls next after) (broke : (request, .raised reason) ∈ calls) :
    0 < backend.failingFrees ∧
      ∃ space ptr bytes, request = .free space ptr bytes ∧ reason = breakOff ptr := by
  induction course with
  | done => cases broke
  | call exchange further ih =>
    rcases exchange_cases exchange, List.mem_cons.1 broke with
      ⟨⟨kept, unbroken⟩ | ⟨ordered, used, space, ptr, bytes, freed, raised⟩, same | later⟩
    · cases same
      exact absurd rfl (unbroken reason)
    · exact kept ▸ ih later
    · cases same
      cases raised
      exact ⟨ordered, space, ptr, bytes, freed, rfl⟩
    · exact ⟨ordered, (ih later).2⟩

end Recycling

theorem Registries.breach?_eq_none {registries : Registries} {ptr : Ptr}
    (sound : registries.AreSound)
    (fresh : ∀ area, (registries.get area).contains ptr.addr = false) (area : Area)
    (bytes : Size) : registries.breach? area ptr bytes = none := by
  have found : (registries.apply (.register area ptr bytes)).areaOf? ptr.addr = some area :=
    (Registries.areaOf?_register sound (fresh area)).2 fun other _ => fresh other
  rw [breach?, if_neg (by simp [fresh area]), if_pos found]

/-- Only the sum of all byte figures can break a query off. -/
theorem Books.totalLiveBytes?_eq_none {books : Books} {setup : Setup} {query : Query}
    {fault : Fault} (broke : (Books.query setup query books).result = .error fault) :
    books.statistics.totalLiveBytes? setup.build = none := by
  cases query with
  | sizeOf addr => simp [Books.query, Books.answerSize_apply] at broke
  | allocationCount space => simp [Books.query, Books.answerCount_apply] at broke
  | deallocationCount space => simp [Books.query, Books.answerCount_apply] at broke
  | totalLiveBytes =>
    simp only [Books.query, Act.read_bind_apply] at broke
    cases total : books.statistics.totalLiveBytes? setup.build with
    | none => rfl
    | some bytes => simp [total] at broke
  | _ => cases broke

theorem Statistics.totalLiveBytes?_ne_none {statistics : Statistics}
    (fits : statistics.device.liveBytes.toNat + statistics.host.liveBytes.toNat +
      statistics.managed.liveBytes.toNat < UInt64.size) (build : Build) :
    statistics.totalLiveBytes? build ≠ none := by
  obtain ⟨total, -, found⟩ := exists_totalLiveBytes? fits
  simp [found build]

theorem eq_error_of_map_eq_error {α γ : Type} {result : Except Fault α} {change : α → γ}
    {fault : Fault} (broke : result.map change = .error fault) : result = .error fault := by
  cases result with
  | ok value => cases broke
  | error other => simpa [Except.map] using broke

namespace Fleet

variable {history : List Entry} {registries : List Registries} {backend : Recycling}
  {count index : Nat} {own : Registries}

theorem Recycles.total_lt (kept : Recycles history registries backend count)
    (owned : registries[index]? = some own) (measured : own.AreMeasured) :
    own.device.liveBytes.toNat + own.host.liveBytes.toNat + own.managed.liveBytes.toNat <
      UInt64.size := by
  have small := kept.small
  have part := parcels_le_recorded owned
  have sizes : ∀ size ∈ own.parcels.map (fun parcel => parcel.bytes.toNat), size ≤ 0x10000 := by
    intro size member
    obtain ⟨parcel, inside, rfl⟩ := Multiset.mem_map.1 member
    exact UInt64.le_iff_toNat_le.1 (kept.sizes parcel (Multiset.mem_of_le part inside))
  have number := congrArg Multiset.card kept.parts
  have fewer := Multiset.card_le_card part
  have total := measured.total_le
  have bound := Multiset.sum_le_card_nsmul _ _ sizes
  simp only [Multiset.card_map, Multiset.card_range, Multiset.card_add, smul_eq_mul] at number bound
  simp only [UInt64.size]
  omega

theorem Recycles.exists_raised (kept : Recycles history registries backend count)
    (owned : registries[index]? = some own) (measured : own.AreMeasured) {books : Books}
    (same : books.registries = own) (settled : books.IsSettled) {setup : Setup}
    {command : Command} {outcome : Outcome (Site Recycling) Answer}
    (runs : Site.Runs setup ⟨books, backend⟩ command outcome) {fault : Fault}
    (broke : outcome.result = .error fault) :
    ∃ request reason, fault = .raised reason ∧ (request, .raised reason) ∈ outcome.trace.calls := by
  subst same
  cases runs with
  | allocateRefused | allocateFailed | deallocateRefused | deallocateUnknown | deallocateFreed
  | deallocateFailed | copyNothing | copyRefused | copyGranted | copyFailed => cases broke
  | allocateRaised area reason backend positive answered =>
    cases broke
    exact ⟨_, reason, rfl, List.mem_singleton_self _⟩
  | deallocateRaised area ptr registered reason backend member answered =>
    cases broke
    exact ⟨.free area.space ptr registered, reason, rfl, by simp⟩
  | copyRaised transfer reason backend positive accepted answered =>
    cases broke
    exact ⟨_, reason, rfl, List.mem_singleton_self _⟩
  | query query =>
    -- The byte figures saturate, but the sizes on record add up to less than a word.
    have large := Books.totalLiveBytes?_eq_none broke
    exact absurd large (Statistics.totalLiveBytes?_ne_none (kept.total_lt owned measured) _)
  | allocateGranted area ptr after positive answered =>
    rcases Recycling.alloc_cases area _ kept.take_ne_zero with
      ⟨failure, refused⟩ | ⟨-, taken, start, granted⟩
    · cases answered.symm.trans refused
    · cases answered.symm.trans granted
      have calm := Registries.breach?_eq_none settled.sound (kept.contains_eq_false owned start)
      simp [Site.granted, calm, Except.map] at broke

/-! ## Runs -/

inductive Drill where
  | command (index : Nat) (command : Command)
  | drop (index : Nat)
  | failAllocs (count : Nat)
  | failFrees (count : Nat)

def Drill.step : Drill → Step Recycling
  | .command index asked => .command index asked
  | .drop index => .drop index
  | .failAllocs count => .adjust fun backend => { backend with failingAllocs := count }
  | .failFrees count => .adjust fun backend => { backend with failingFrees := count }

/-- The fleet in a run over a recycling backend that was new. -/
def drilled (setups : List Setup) (drills : List Drill) : Fleet Recycling :=
  (launch setups {}).after (drills.map Drill.step)

def drillHistory (setups : List Setup) (drills : List Drill) : List Entry :=
  (launch setups ({} : Recycling)).history (drills.map Drill.step)

/-- The addresses that were handed out are the fresh ones from the first on. Each is in one place,
and in one place only: on the free list, on record with a live manager, or left behind. -/
structure Divides (fleet : Fleet Recycling) (history : List Entry) (abandoned : Multiset Parcel) :
    Prop where
  handed : (handedOut history).image UInt64.toNat =
    (Finset.range (handedOut history).card).image fun number => 0x10000000 + number * 0x10000
  parts : (handedOut history).val =
    ↑fleet.backend.freeList + fleet.live.map Parcel.start + abandoned.map Parcel.start
  counts : fleet.backend.allocs = fleet.backend.frees + (fleet.live.card + abandoned.card)
  apart : ∀ first ∈ fleet.live, ∀ second ∈ fleet.live, first ≠ second →
    ¬first.block.Overlaps second.block

/-- A step breaks off because a free does that the backend was told to break off. -/
def BreaksOffToOrder (fleet : Fleet Recycling) (outcome : Outcome (Fleet Recycling) (Option Answer))
    (fault : Fault) : Prop :=
  0 < fleet.backend.failingFrees ∧ ∃ space ptr bytes,
    fault = .raised (Recycling.breakOff ptr) ∧
      (.free space ptr bytes, .raised (Recycling.breakOff ptr)) ∈ outcome.trace.calls

section Drills

variable {setups : List Setup} {drills : List Drill}

theorem recycles_launch (setups : List Setup) :
    Recycles [] (launch setups ({} : Recycling)).registries {} 0 where
  small := by omega
  next := rfl
  handed := rfl
  parts := by simp [recorded_launch]
  counts := by simp [recorded_launch]
  sizes := by simp [recorded_launch]

/-- After every run in which few fresh addresses were handed out, each of them is in its place. -/
theorem exists_recycles (few : (handedOut (drillHistory setups drills)).card < 2 ^ 47) :
    ∃ count, Recycles (drillHistory setups drills) (drilled setups drills).registries
      (drilled setups drills).backend count := by
  have adjusted : ∀ change, .adjust change ∈ drills.map Drill.step →
      ∀ history registries (backend : Recycling),
        ((handedOut history).card < 2 ^ 47 → ∃ count, Recycles history registries backend count) →
        (handedOut history).card < 2 ^ 47 →
          ∃ count, Recycles history registries (change backend) count := by
    intro change member history registries backend before few
    obtain ⟨drill, -, same⟩ := List.mem_map.1 member
    obtain ⟨count, kept⟩ := before few
    refine ⟨count, ?_⟩
    cases drill with
    | command | drop => cases same
    | failAllocs failing =>
      cases same
      exact kept.withOrders failing _ _
    | failFrees failing =>
      cases same
      exact kept.withOrders _ failing _
  exact launch_keeps_exchanges exchangesKeep_recycles adjusted
    (fun _ => ⟨0, recycles_launch setups⟩) few

theorem areMeasured_drilled (setups : List Setup) (drills : List Drill) :
    ∀ own ∈ (drilled setups drills).registries, own.AreMeasured := by
  have start : ∀ own ∈ (launch setups ({} : Recycling)).registries, own.AreMeasured := by
    intro own inside
    obtain ⟨member, listed, rfl⟩ := List.mem_map.1 inside
    obtain ⟨setup, -, rfl⟩ := List.mem_map.1 listed
    exact Registries.areMeasured_empty
  have kept : ExchangesKeep fun _ registries (_ : Recycling) =>
      ∀ own ∈ registries, Registries.AreMeasured own := exchangesKeep_areMeasured
  exact launch_keeps_exchanges kept (fun _ _ _ _ _ holds => holds) start

theorem Recycles.not_overlaps (kept : Recycles history registries backend count)
    {first second : Parcel} (one : first ∈ recorded registries) (two : second ∈ recorded registries)
    (other : first ≠ second) : ¬first.block.Overlaps second.block := by
  have small := kept.small
  obtain ⟨left, leftLess, leftStart⟩ := kept.exists_address (.inr ⟨first, one, rfl⟩)
  obtain ⟨right, rightLess, rightStart⟩ := kept.exists_address (.inr ⟨second, two, rfl⟩)
  have apart : left ≠ right := by
    rintro rfl
    have distinct := (Multiset.nodup_add.1 kept.nodup_parts).2.1
    exact other (Multiset.inj_on_of_nodup_map distinct first one second two
      (leftStart.symm.trans rightStart))
  have leftSize : first.bytes.toNat ≤ 0x10000 := UInt64.le_iff_toNat_le.1 (kept.sizes first one)
  have rightSize : second.bytes.toNat ≤ 0x10000 := UInt64.le_iff_toNat_le.1 (kept.sizes second two)
  have leftAddress := Recycling.toNat_address (Nat.le_of_lt (Nat.lt_trans leftLess small))
  have rightAddress := Recycling.toNat_address (Nat.le_of_lt (Nat.lt_trans rightLess small))
  rw [leftStart] at leftAddress
  rw [rightStart] at rightAddress
  simp only [Block.Overlaps, Block.stop, Parcel.block]
  omega

/-- The addresses are divided as the records of all managers are into live ones and others. -/
theorem Recycles.divides {fleet : Fleet Recycling} {abandoned : Multiset Parcel}
    (kept : Recycles history fleet.registries fleet.backend count)
    (split : recorded fleet.registries = fleet.live + abandoned) :
    Divides fleet history abandoned := by
  have small := kept.small
  have number : (handedOut history).card = count := by
    rw [kept.handed, card_handed (Nat.le_of_lt small)]
  have listed : (handedOut history).val = (Multiset.range count).map Recycling.address := by
    rw [kept.handed, Recycles.val_handed (Nat.le_of_lt small)]
  refine ⟨?_, ?_, ?_, fun first one second two => kept.not_overlaps ?_ ?_⟩
  · rw [number, kept.handed, Finset.image_image]
    refine Finset.image_congr fun place less => ?_
    simp only [Finset.coe_range, Set.mem_Iio] at less
    rw [Function.comp_apply, Recycling.toNat_address (by omega)]
  · rw [listed, kept.parts, split, Multiset.map_add, add_assoc]
  · rw [kept.counts, split, Multiset.card_add]
  · exact split ▸ Multiset.mem_add.2 (.inl one)
  · exact split ▸ Multiset.mem_add.2 (.inl two)

theorem Recycles.breaksOffToOrder {fleet : Fleet Recycling}
    (kept : Recycles history fleet.registries fleet.backend count) (settled : fleet.IsSettled)
    (measured : ∀ own ∈ fleet.registries, own.AreMeasured) {step : Step Recycling} {fault : Fault}
    (broke : (fleet.perform step).result = .error fault) :
    BreaksOffToOrder fleet (fleet.perform step) fault := by
  have done := fleet.performs step
  generalize fleet.perform step = outcome at done broke ⊢
  cases done with
  | idle | adjust => cases broke
  | command index member command outcome active done =>
    have own := settled.of_active active
    have runs : Site.Runs member.setup ⟨member.books, fleet.backend⟩ command outcome :=
      done ▸ Site.runs own command
    have owned := getElem?_registries active
    obtain ⟨request, reason, rfl, called⟩ := kept.exists_raised owned
      (measured _ (List.mem_of_getElem? owned)) rfl own runs (eq_error_of_map_eq_error broke)
    obtain ⟨ordered, space, ptr, bytes, rfl, rfl⟩ := Recycling.of_raised_mem runs.course called
    exact ⟨ordered, space, ptr, bytes, rfl, called⟩
  | drop index member outcome active done =>
    have own := settled.of_active active
    have releases : Site.Releases _ ⟨member.books, fleet.backend⟩ outcome :=
      done ▸ Site.teardown_releases own member.setup
    obtain ⟨space, ptr, bytes, reason, rfl, called⟩ :=
      releases.broken fault (eq_error_of_map_eq_error broke)
    obtain ⟨ordered, _, _, _, same, rfl⟩ := Recycling.of_raised_mem releases.course called
    cases same
    exact ⟨ordered, space, ptr, bytes, rfl, called⟩

/-- The addresses of every run over a recycling backend are divided between the free list, the live
blocks and the blocks left behind, as long as there are fewer than `2 ^ 47` of them. And every step
of the run that breaks off does so because a free was to break off. -/
theorem drilled_divides (setups : List Setup) (drills : List Drill)
    (few : (handedOut (drillHistory setups drills)).card < 2 ^ 47) :
    Divides (drilled setups drills) (drillHistory setups drills)
      ((launch setups {}).abandoned (drills.map Drill.step)) ∧
    ∀ before drill rest, drills = before ++ drill :: rest →
      ∀ fault, ((drilled setups before).perform drill.step).result = .error fault →
        BreaksOffToOrder (drilled setups before) ((drilled setups before).perform drill.step)
          fault := by
  constructor
  · obtain ⟨count, kept⟩ := exists_recycles few
    exact kept.divides (recorded_after setups ({} : Recycling) (drills.map Drill.step))
  · rintro before drill rest rfl fault broke
    -- What was handed out before the step is part of what the whole run hands out.
    have fewer : (handedOut (drillHistory setups before)).card < 2 ^ 47 := by
      refine Nat.lt_of_le_of_lt (Finset.card_le_card ?_) few
      rw [drillHistory, drillHistory, List.map_append, history_append]
      exact handedOut_subset_append _ _
    obtain ⟨count, kept⟩ := exists_recycles fewer
    have settled : (drilled setups before).IsSettled :=
      (isSettled_launch setups ({} : Recycling)).after _
    exact kept.breaksOffToOrder settled (areMeasured_drilled setups before) broke

end Drills

/-- A manager that releases its blocks, one that does not, and one more that does. -/
def crew : List Setup :=
  [.standard .checked, ⟨.checked, { Config.standard .checked with releaseBlocks := false }⟩,
    .standard .checked]

/-- Each manager of the crew allocates. A free of the first manager breaks off, the next one goes
through, and the second manager is handed the same address in another space. -/
def relay : List Drill :=
  [.command 0 (.allocate 8 .host), .command 1 (.allocate 4 .device),
    .command 0 (.allocate 2 .device), .failFrees 1, .command 0 (.deallocate 0x10000000 8 .host),
    .command 0 (.deallocate 0x10000000 3 .host), .command 1 (.allocate 16 .managed), .failAllocs 1,
    .command 0 (.allocate 4 .host), .command 2 (.allocate 4 .host), .failFrees 1]

/-- After the relay the crew is dropped. The release of the last manager breaks off. -/
def retreat : List Drill :=
  [.drop 1, .drop 0]

/-- Of the four addresses one is on the free list in the end, and the other three were left
behind: two by the manager that does not release blocks, and one by the release that broke off. -/
theorem drilled_divides_relay :
    Divides (drilled crew (relay ++ .drop 2 :: retreat))
      (drillHistory crew (relay ++ .drop 2 :: retreat))
      {⟨.managed, 0x10000000, 16⟩, ⟨.device, 0x10010000, 4⟩, ⟨.host, 0x10030000, 4⟩} ∧
    (drilled crew (relay ++ .drop 2 :: retreat)).backend.freeList = [0x10020000] ∧
    ∃ fault, ((drilled crew relay).perform (.drop 2)).result = .error fault ∧
      BreaksOffToOrder (drilled crew relay) ((drilled crew relay).perform (.drop 2)) fault := by
  have four : (handedOut (drillHistory crew (relay ++ .drop 2 :: retreat))).card = 4 := by
    decide +kernel
  have few : (handedOut (drillHistory crew (relay ++ .drop 2 :: retreat))).card < 2 ^ 47 := by
    rw [four]
    decide
  have left : (launch crew {}).abandoned ((relay ++ .drop 2 :: retreat).map Drill.step) =
      {⟨.managed, 0x10000000, 16⟩, ⟨.device, 0x10010000, 4⟩, ⟨.host, 0x10030000, 4⟩} := by
    decide +kernel
  have broken : ((drilled crew relay).perform (.drop 2)).result.toOption = none := by
    decide +kernel
  obtain ⟨divides, toOrder⟩ := drilled_divides crew (relay ++ .drop 2 :: retreat) few
  refine ⟨left ▸ divides, by decide +kernel, ?_⟩
  cases result : ((drilled crew relay).perform (.drop 2)).result with
  | ok answer => simp [result, Except.toOption] at broken
  | error fault => exact ⟨fault, rfl, toOrder relay (.drop 2) retreat rfl fault result⟩

end Fleet

end TrackedMemory
