import Mathlib.Algebra.BigOperators.Group.Finset.Basic
import Mathlib.Order.Interval.Finset.Nat
import TrackedMemory.Proofs.Disjoint
import TrackedMemory.Proofs.Fleet.Estate
import TrackedMemory.Proofs.Fleet.Holdings
import TrackedMemory.Proofs.Registry.Bytes

/-!
# Byte figures of blocks that lie apart

A backend that keeps apart hands out ranges of addresses that end where the addresses end, or
before, and that have no byte in common with a block still outstanding. Then the blocks on record
with a manager, over all areas, are disjoint ranges below `2 ^ 64` that leave out the address zero,
and their sizes add up to less than `2 ^ 64`. So the byte figures never saturate: each is the sum of
the sizes of the live blocks of its area, and the total of all three is found in either build.
-/

namespace TrackedMemory

/-! ## Ranges of addresses -/

namespace Block

def range (block : Block) : Finset Nat :=
  Finset.Ico block.start.toNat block.stop

theorem card_range (block : Block) : block.range.card = block.size.toNat := by
  rw [range, stop, Nat.card_Ico, Nat.add_sub_cancel_left]

theorem disjoint_range {first second : Block} (apart : ¬first.Overlaps second) :
    Disjoint first.range second.range := by
  refine Finset.disjoint_left.2 fun addr inFirst inSecond => apart ?_
  rw [range, Finset.mem_Ico] at inFirst inSecond
  exact ⟨Nat.lt_of_le_of_lt inFirst.1 inSecond.2, Nat.lt_of_le_of_lt inSecond.1 inFirst.2⟩

end Block

/-- The sizes of blocks that lie apart add up to less than the number of addresses, for no block
contains the address zero. -/
theorem Parcel.sum_bytes_lt {parcels : Multiset Parcel} (once : parcels.Nodup)
    (inside : ∀ parcel ∈ parcels, parcel.start ≠ 0 ∧
      parcel.start.toNat + parcel.bytes.toNat ≤ UInt64.size)
    (apart : ∀ first ∈ parcels, ∀ second ∈ parcels, first ≠ second →
      ¬first.block.Overlaps second.block) :
    (parcels.map fun parcel => parcel.bytes.toNat).sum < UInt64.size := by
  let covered : Finset Nat := (Finset.mk parcels once).biUnion fun parcel => parcel.block.range
  have number : covered.card = (parcels.map fun parcel => parcel.bytes.toNat).sum := by
    rw [Finset.card_biUnion fun first one second two other =>
      Block.disjoint_range (apart first one second two other)]
    simp only [Block.card_range]
    rfl
  have bounded : covered ⊆ Finset.Ico 1 UInt64.size := by
    refine Finset.biUnion_subset.2 fun parcel member addr here => ?_
    obtain ⟨start, stop⟩ := inside parcel member
    have positive : 0 < parcel.start.toNat := Word.toNat_pos start
    rw [Block.range, Finset.mem_Ico] at here
    exact Finset.mem_Ico.2 ⟨Nat.le_trans positive here.1, Nat.lt_of_lt_of_le here.2 stop⟩
  have fewer := Finset.card_le_card bounded
  rw [number, Nat.card_Ico] at fewer
  exact Nat.lt_of_le_of_lt fewer (Nat.sub_lt (by decide) Nat.one_pos)

/-! ## Byte figures without saturation -/

namespace Registries

variable {registries : Registries} {mutation : Mutation}

/-- The byte figure of every area is the sum of the sizes on record. -/
def AreExact (registries : Registries) : Prop :=
  ∀ area, (registries.get area).IsExact

/-- Sum of the sizes of all live blocks. -/
def recordedBytes (registries : Registries) : Nat :=
  registries.device.recordedBytes + registries.host.recordedBytes + registries.managed.recordedBytes

theorem areExact_empty : AreExact {} := by
  intro area
  cases area <;> rfl

theorem recordedBytes_eq (registries : Registries) :
    registries.recordedBytes = (registries.parcels.map fun parcel => parcel.bytes.toNat).sum := by
  simp only [recordedBytes, Registry.recordedBytes, parcels, parcelsIn, Multiset.map_add,
    Multiset.sum_add, Multiset.map_coe, Multiset.sum_coe, List.map_map, Function.comp_def]

theorem recordedBytes_get_le (registries : Registries) (area : Area) :
    (registries.get area).recordedBytes ≤ registries.recordedBytes := by
  cases area <;> simp only [get, recordedBytes] <;> omega

/-- The figures stay exact while all sizes together add up to a word. -/
theorem AreExact.apply (exact : registries.AreExact) (sound : registries.AreSound)
    (fits : (registries.apply mutation).recordedBytes < UInt64.size) :
    (registries.apply mutation).AreExact := by
  intro area
  have part := Nat.lt_of_le_of_lt (recordedBytes_get_le _ area) fits
  rcases get_apply_cases registries mutation area with
    same | ⟨ptr, bytes, -, absent, added⟩ | ⟨ptr, block, -, found, dropped⟩
  · rw [same]
    exact exact area
  · rw [added] at part ⊢
    exact (exact area).insert absent part
  · rw [dropped]
    exact (exact area).erase (sound area) ((sound area).find?_eq_some_iff.1 found).1

theorem nodup_parcelsIn {registry : Registry} (sound : registry.IsSound) (area : Area) :
    (parcelsIn area registry).Nodup := by
  have distinct : registry.blocks.Nodup := sound.ascending.imp fun {first second} less same => by
    subst same
    exact UInt64.lt_irrefl first.start less
  refine Multiset.coe_nodup.2 (distinct.map fun first second same => ?_)
  cases first
  cases second
  cases same
  rfl

theorem nodup_parcels (sound : registries.AreSound) : registries.parcels.Nodup := by
  have elsewhere : ∀ {one two : Area} {first second : Registry}, one ≠ two →
      Disjoint (parcelsIn one first) (parcelsIn two second) := fun differ =>
    Multiset.disjoint_left.2 fun inFirst inSecond =>
      differ ((mem_parcelsIn.1 inFirst).1.symm.trans (mem_parcelsIn.1 inSecond).1)
  refine Multiset.nodup_add.2 ⟨Multiset.nodup_add.2 ⟨nodup_parcelsIn (sound .device) .device,
    nodup_parcelsIn (sound .host) .host, elsewhere (by decide)⟩,
    nodup_parcelsIn (sound .managed) .managed, ?_⟩
  exact Multiset.disjoint_add_left.2 ⟨elsewhere (by decide), elsewhere (by decide)⟩

end Registries

/-! ## Backends that keep apart -/

namespace Fleet

def Entry.handout? : Entry → Option Handout
  | ⟨owner, .alloc space bytes, .granted (some ptr)⟩ => some ⟨owner, space, ptr, bytes⟩
  | _ => none

def handoutAt (history : List Entry) (place : Nat) : Option Handout :=
  history[place]?.bind Entry.handout?

def Handout.block (handout : Handout) : Block :=
  ⟨handout.ptr.addr, handout.bytes⟩

/-- A block that is handed out in a place of a history ends where the addresses end, or before, and
overlaps no block that was handed out earlier and that no free has given back since. -/
def Handout.FitsAt (history : List Entry) (place : Nat) (block : Handout) : Prop :=
  block.ptr.addr.toNat + block.bytes.toNat ≤ UInt64.size ∧
    ∀ first < place, ∀ earlier ∈ handoutAt history first, earlier.block.Overlaps block.block →
      ∃ middle < place, first < middle ∧ returnedAt history middle = some earlier.ptr

instance (history : List Entry) (place : Nat) (block : Handout) :
    Decidable (block.FitsAt history place) :=
  inferInstanceAs (Decidable (_ ∧ ∀ first < place, ∀ earlier ∈ _, Block.Overlaps _ _ →
    ∃ middle < place, first < middle ∧ returnedAt history middle = some _))

/-- Every block that is handed out fits where it is. -/
def KeepsApart (history : List Entry) : Prop :=
  ∀ place < history.length, ∀ block ∈ handoutAt history place, block.FitsAt history place

instance (history : List Entry) : Decidable (KeepsApart history) :=
  inferInstanceAs (Decidable (∀ place < history.length, ∀ block ∈ _, Handout.FitsAt _ _ block))

def IsSized (history : List Entry) : Prop :=
  ∀ (place : Nat) (handout : Handout), history[place]? = some handout.grant → handout.bytes ≠ 0

section History

variable {history : List Entry} {entry : Entry} {place other : Nat} {handout second : Handout}

theorem handoutAt_concat (history : List Entry) (entry : Entry) (place : Nat) :
    handoutAt (history ++ [entry]) place =
      if place = history.length then entry.handout? else handoutAt history place := by
  rw [handoutAt, getElem?_concat]
  split <;> rfl

theorem handoutAt_of_grant (given : history[place]? = some handout.grant) :
    handoutAt history place = some handout := by
  rw [handoutAt, given]
  rfl

theorem KeepsApart.of_concat (apart : KeepsApart (history ++ [entry])) : KeepsApart history := by
  intro place inside block given
  have old : ∀ {earlier}, earlier ≤ place → earlier ≠ history.length := fun before =>
    Nat.ne_of_lt (Nat.lt_of_le_of_lt before inside)
  obtain ⟨stops, alone⟩ := apart place (by simp; omega) block
    (by rwa [handoutAt_concat, if_neg (old (Nat.le_refl place))])
  refine ⟨stops, fun first before earlier givenFirst overlaps => ?_⟩
  obtain ⟨middle, below, above, returned⟩ := alone first before earlier
    (by rwa [handoutAt_concat, if_neg (old (Nat.le_of_lt before))]) overlaps
  rw [returnedAt_concat, if_neg (old (Nat.le_of_lt below))] at returned
  exact ⟨middle, below, above, returned⟩

theorem IsSized.concat (sized : IsSized history)
    (last : ∀ handout : Handout, entry = handout.grant → handout.bytes ≠ 0) :
    IsSized (history ++ [entry]) := by
  intro place handout given
  rw [getElem?_concat] at given
  split at given
  · exact last handout (Option.some.inj given)
  · exact sized place handout given

/-- A backend that keeps blocks apart that are not empty hands out no address that is held. -/
theorem KeepsApart.lawful (apart : KeepsApart history) (sized : IsSized history) :
    Lawful history := by
  intro last inside first before ptr granted grantedFirst
  obtain ⟨block, rfl, given⟩ := grantedAt_eq_some_iff.1 granted
  obtain ⟨earlier, same, givenFirst⟩ := grantedAt_eq_some_iff.1 grantedFirst
  have overlaps : earlier.block.Overlaps block.block :=
    Block.overlaps_of_start_eq (congrArg Ptr.addr same) (sized first earlier givenFirst)
      (sized last block given)
  rw [← same]
  exact (apart last inside block (handoutAt_of_grant given)).2 first before earlier
    (handoutAt_of_grant givenFirst) overlaps

theorem Holds.stops (apart : KeepsApart history) (holds : Holds history place handout) :
    handout.ptr.addr.toNat + handout.bytes.toNat ≤ UInt64.size :=
  (apart place (lt_length_of_getElem? holds.given) handout (handoutAt_of_grant holds.given)).1

theorem Holds.not_overlaps_later (apart : KeepsApart history) (one : Holds history place handout)
    (two : Holds history other second) (before : place < other) :
    ¬handout.block.Overlaps second.block := by
  intro overlaps
  obtain ⟨-, alone⟩ := apart other (lt_length_of_getElem? two.given) second
    (handoutAt_of_grant two.given)
  obtain ⟨middle, -, above, returned⟩ :=
    alone place before handout (handoutAt_of_grant one.given) overlaps
  exact one.kept middle above returned

theorem Holds.not_overlaps (apart : KeepsApart history) (one : Holds history place handout)
    (two : Holds history other second) (differ : handout ≠ second) :
    ¬handout.block.Overlaps second.block := by
  rcases Nat.lt_trichotomy place other with before | rfl | after
  · exact one.not_overlaps_later apart two before
  · exact absurd (grant_injective (Option.some.inj (one.given.symm.trans two.given))) differ
  · exact fun overlaps => two.not_overlaps_later apart one after overlaps.symm

end History

/-! ## Records of blocks that lie apart -/

/-- The block on record with a manager, as it was handed out. -/
def handoutOf (owner : Nat) (parcel : Parcel) (start : parcel.start ≠ 0) : Handout :=
  ⟨owner, parcel.area.space, ⟨parcel.start, start⟩, parcel.bytes⟩

section Records

variable {history : List Entry} {registries : List Registries} {index : Nat} {own : Registries}

theorem exists_holds (accounts : Accounts history registries)
    (owned : registries[index]? = some own) (genuine : own.AreGenuine) {parcel : Parcel}
    (member : parcel ∈ own.parcels) :
    ∃ (start : parcel.start ≠ 0) (place : Nat),
      Holds history place (handoutOf index parcel start) := by
  have recorded := Registries.mem_parcels.1 member
  exact ⟨(genuine parcel.area _ recorded).1,
    (accounts _).1 ⟨own, owned, parcel.area, rfl, recorded⟩⟩

theorem areDisjoint (accounts : Accounts history registries) (apart : KeepsApart history)
    (owned : registries[index]? = some own) (genuine : own.AreGenuine) : own.AreDisjoint where
  apart first one second two differ := by
    obtain ⟨start, place, holdsFirst⟩ := exists_holds accounts owned genuine one
    obtain ⟨start', other, holdsSecond⟩ := exists_holds accounts owned genuine two
    refine holdsFirst.not_overlaps apart holdsSecond fun same => differ ?_
    obtain ⟨area, start, bytes⟩ := first
    obtain ⟨area', start', bytes'⟩ := second
    simp only [handoutOf, Handout.mk.injEq, Ptr.mk.injEq, true_and] at same
    obtain ⟨space, rfl, rfl⟩ := same
    rw [Area.space_injective space]
  sized parcel member := (genuine parcel.area _ (Registries.mem_parcels.1 member)).2

theorem recordedBytes_lt (accounts : Accounts history registries) (apart : KeepsApart history)
    (owned : registries[index]? = some own) (sound : own.AreSound) (genuine : own.AreGenuine) :
    own.recordedBytes < UInt64.size := by
  rw [Registries.recordedBytes_eq]
  refine Parcel.sum_bytes_lt (Registries.nodup_parcels sound) (fun parcel member => ?_)
    (areDisjoint accounts apart owned genuine).apart
  obtain ⟨start, place, holds⟩ := exists_holds accounts owned genuine member
  exact ⟨start, holds.stops apart⟩

end Records

variable {β : Type} [Backend β]

theorem exchangesKeep_isSized : ExchangesKeep fun history _ (_ : β) => IsSized history := by
  intro history registries backend index own request reply next after sized owned sound genuine
    exchange
  refine sized.concat fun handout same => ?_
  obtain ⟨owner, space, ptr, size⟩ := handout
  cases exchange with
  | granted area bytes ptr positive answered =>
    cases same
    exact positive
  | @denied _ reply area bytes positive answered nothing =>
    cases reply with
    | granted ptr => exact absurd rfl (nothing ptr)
    | refused | raised => cases same
  | returned | raised | copied => cases same

theorem isSized_history (setups : List Setup) (backend : β) (steps : List (Step β)) :
    IsSized ((launch setups backend).history steps) := by
  have none : IsSized [] := fun _ _ given => nomatch given
  exact launch_keeps_exchanges exchangesKeep_isSized (fun _ _ _ _ _ sized => sized) none

theorem exchangesKeep_areExact :
    ExchangesKeep fun history registries (_ : β) => KeepsApart history →
      IsSized history ∧ (Accounts history registries ∧ FreesHoldings history) ∧
        ∀ own ∈ registries, Registries.AreExact own ∧ own.recordedBytes < UInt64.size := by
  intro history registries backend index own request reply next after before owned sound genuine
    exchange apart
  obtain ⟨sized, accounts, figures⟩ := before apart.of_concat
  have sizedNext := exchangesKeep_isSized sized owned sound genuine exchange
  have accountsNext := exchangesKeep_accounts (fun _ => accounts) owned sound genuine exchange
    (apart.lawful sizedNext)
  have renewed : (registries.set index next)[index]? = some next :=
    List.getElem?_set_self (lt_length_of_getElem? owned)
  have fits := recordedBytes_lt accountsNext.1 apart renewed (exchange.areSound sound)
    (exchange.areGenuine genuine)
  have exact := (figures own (List.mem_of_getElem? owned)).1
  have changed : next.AreExact := by
    cases exchange with
    | granted | returned => exact exact.apply sound fits
    | denied | raised | copied => exact exact
  exact ⟨sizedNext, accountsNext, forall_mem_set figures ⟨changed, fits⟩ index⟩

end Fleet

/-- Every byte figure that a manager reports is the sum of the sizes of its live blocks, in both
builds. -/
structure Books.ReportsBytes (books : Books) : Prop where
  live : ∀ area, ∃ bytes : Size, bytes.toNat = (books.registries.get area).recordedBytes ∧
    ∀ setup, (Books.query setup (.liveBytes area.space) books).result = .ok (.bytes bytes)
  total : ∃ bytes : Size, bytes.toNat = books.registries.recordedBytes ∧
    ∀ setup, (Books.query setup .totalLiveBytes books).result = .ok (.bytes bytes)

theorem Books.reportsBytes {books : Books} (exact : books.registries.AreExact)
    (fits : books.registries.recordedBytes < UInt64.size) : books.ReportsBytes where
  live area := by
    refine ⟨(books.registries.get area).liveBytes, exact area, fun setup => ?_⟩
    cases area <;> rfl
  total := by
    have device := exact .device
    have host := exact .host
    have managed := exact .managed
    simp only [Registry.IsExact, Registries.get] at device host managed
    have sum : books.statistics.device.liveBytes.toNat + books.statistics.host.liveBytes.toNat +
        books.statistics.managed.liveBytes.toNat = books.registries.recordedBytes := by
      rw [Registries.recordedBytes, ← device, ← host, ← managed]
      rfl
    obtain ⟨total, whole, found⟩ := Statistics.exists_totalLiveBytes? (sum ▸ fits)
    refine ⟨total, whole.trans sum, fun setup => ?_⟩
    simp only [Books.query, Act.read_bind_apply, found setup.build]
    rfl

namespace Fleet

variable {β : Type} [Backend β]

/-- Over a backend that keeps apart, the byte figures of every manager are those of its live blocks
after every run: none saturates, and the sum of all three is a word, so that it neither breaks a
checked build off nor wraps around in an unchecked one. -/
theorem reportsBytes_after (setups : List Setup) (backend : β) (steps : List (Step β))
    (apart : KeepsApart ((launch setups backend).history steps)) :
    ∀ member ∈ ((launch setups backend).after steps).members, member.books.ReportsBytes := by
  have start : KeepsApart [] → IsSized [] ∧
      (Accounts [] (launch setups backend).registries ∧ FreesHoldings []) ∧
        ∀ own ∈ (launch setups backend).registries,
          Registries.AreExact own ∧ own.recordedBytes < UInt64.size := by
    intro _
    have silent : Lawful [] := fun _ inside => absurd inside (Nat.not_lt_zero _)
    refine ⟨fun _ _ given => ?_, accounts_history setups backend [] silent, fun own inside => ?_⟩
    · rw [List.getElem?_nil] at given
      cases given
    · obtain ⟨member, listed, rfl⟩ := List.mem_map.1 inside
      obtain ⟨setup, -, rfl⟩ := List.mem_map.1 listed
      exact ⟨Registries.areExact_empty, (by decide : 0 < UInt64.size)⟩
  obtain ⟨-, -, figures⟩ := launch_keeps_exchanges exchangesKeep_areExact
    (fun _ _ _ _ _ holds => holds) start apart
  intro member inside
  obtain ⟨exact, fits⟩ := figures member.books.registries (List.mem_map_of_mem inside)
  exact Books.reportsBytes exact fits

/-- A block of all addresses but zero up to the middle, and one of those from the middle on. A free
of the latter breaks off, a second one fails, and its addresses are handed out again. -/
def brim : List (Step Scripted) :=
  [.adjust (Scripted.follow [.place ⟨1, by decide⟩, .place ⟨0x8000000000000000, by decide⟩,
      .breakOff "lost", .fail (.system "busy"), .place ⟨0x8000000000000000, by decide⟩]),
    .command 0 (.allocate 0x7fffffffffffffff .device),
    .command 0 (.allocate 0x8000000000000000 .host),
    .command 0 (.deallocate 0x8000000000000000 1 .host),
    .command 0 (.deallocate 0x8000000000000000 1 .host),
    .command 0 (.allocate 0x8000000000000000 .managed)]

/-- The two live blocks have all addresses but zero, and their sizes are added up. -/
theorem reportsBytes_brim :
    let fleet := (launch [.standard .checked] ({} : Scripted)).after brim
    ∃ member ∈ fleet.members, member.books.ReportsBytes ∧
      member.books.registries.recordedBytes = 0xffffffffffffffff := by
  intro fleet
  have apart : KeepsApart ((launch [.standard .checked] ({} : Scripted)).history brim) := by
    decide +kernel
  have reports := reportsBytes_after [.standard .checked] ({} : Scripted) brim apart
  have full : fleet.members.map (fun member => member.books.registries.recordedBytes) =
      [0xffffffffffffffff] := by decide +kernel
  obtain ⟨member, inside, sum⟩ := List.mem_map.1 (full ▸ List.mem_singleton_self _)
  exact ⟨member, inside, reports member inside, sum⟩

end Fleet

end TrackedMemory
