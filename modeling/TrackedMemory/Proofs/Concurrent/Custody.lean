import TrackedMemory.Proofs.Concurrent.World

/-!
# Custody of blocks

As long as no two calls pursue the same block, every block on record is either live and settled or
outgoing, and every live block is either settled or incoming. So a block that was found on record is
live when its free is made, a new block is absent when it is registered, and a freed block is on
record when its record is dropped.
-/

namespace TrackedMemory

namespace Phase

/-- The blocks that are settled after a step of a call, given those that were. -/
def resettle : Phase → Phase → Multiset Parcel → Multiset Parcel
  | .found area ptr bytes, .inFree .., settled => settled.erase ⟨area, ptr.addr, bytes⟩
  | .inFree _ area ptr bytes, .queued _ (.nothing _), settled
  | .inTurn _ (.register area ptr bytes), .changed .., settled =>
      ⟨area, ptr.addr, bytes⟩ ::ₘ settled
  | _, _, settled => settled

theorem resettle_of_role {phase next : Phase} {settled : Multiset Parcel}
    (role : next.role = phase.role) : phase.resettle next settled = settled := by
  unfold resettle
  split <;> first | rfl | cases role

end Phase

namespace World

/-- The blocks that calls are about to put on record. -/
def incoming (world : World) : Multiset Parcel :=
  world.machine.gather fun call => call.phase.role.incoming?

/-- The blocks on record whose free was made. -/
def outgoing (world : World) : Multiset Parcel :=
  world.machine.gather fun call => call.phase.role.outgoing?

def records (world : World) : Multiset Parcel :=
  world.machine.books.registries.parcels

def TargetsIn (world : World) (settled : Multiset Parcel) : Prop :=
  world.machine.Every fun call => ∀ ⦃parcel : Parcel⦄,
    call.phase.role = .target parcel → parcel ∈ settled

/-- An outgoing block has a smaller ticket than an incoming one at its address. -/
def InOrder (world : World) : Prop :=
  ∀ ⦃first second : Nat⦄ ⦃left right : Call⦄ ⦃old new : Parcel⦄ ⦃before after : Nat⦄,
    world.machine.calls[first]? = some left → left.phase.role = .outgoing old →
    world.machine.calls[second]? = some right → right.phase.role = .incoming new →
    old.start = new.start → left.phase.ticket? = some before → right.phase.ticket? = some after →
    before < after

/-- Where the blocks of a world are. A settled block is on record, and no free was made of it. -/
structure Custody (world : World) (settled : Multiset Parcel) : Prop where
  /-- A live block is settled or incoming. -/
  live : (world.ledger.live : Multiset Parcel) = settled + world.incoming
  /-- A block on record is settled or outgoing. -/
  records : world.records = settled + world.outgoing
  /-- Blocks that are not released start at different addresses. -/
  apart : (world.ledger.occupied.map Parcel.start).Nodup
  /-- Blocks that are not released are not empty. -/
  positive : ∀ parcel ∈ world.ledger.occupied, parcel.bytes ≠ 0
  /-- Blocks on record start at different addresses, also in different areas. -/
  distinct : (world.records.map Parcel.start).Nodup
  targets : world.TargetsIn settled
  order : world.InOrder

variable {setup : Setup} {world : World} {settled : Multiset Parcel} {index : Nat} {call : Call}
  {books : Books} {phase : Phase} {trace : Trace} {ledger : Ledger} {parcel : Parcel}
  {holders : List Nat}

theorem mem_incoming : parcel ∈ world.incoming ↔ ∃ (index : Nat) (call : Call),
    world.machine.calls[index]? = some call ∧ call.phase.role = .incoming parcel := by
  rw [incoming, Machine.mem_gather]
  refine exists_congr fun index => exists_congr fun call => and_congr_right fun _ => ?_
  cases call.phase.role <;> simp [Role.incoming?]

theorem mem_outgoing : parcel ∈ world.outgoing ↔ ∃ (index : Nat) (call : Call),
    world.machine.calls[index]? = some call ∧ call.phase.role = .outgoing parcel := by
  rw [outgoing, Machine.mem_gather]
  refine exists_congr fun index => exists_congr fun call => and_congr_right fun _ => ?_
  cases call.phase.role <;> simp [Role.outgoing?]

@[simp] theorem incoming_start (command : Command) :
    (world.start command).incoming = world.incoming := by
  rw [incoming, World.start, Machine.gather_start]
  exact add_zero _

@[simp] theorem outgoing_start (command : Command) :
    (world.start command).outgoing = world.outgoing := by
  rw [outgoing, World.start, Machine.gather_start]
  exact add_zero _

theorem custody_empty : Custody {} 0 where
  live := rfl
  records := rfl
  apart := Multiset.nodup_zero
  positive := by simp [Ledger.occupied_eq]
  distinct := Multiset.nodup_zero
  targets := Machine.every_empty
  order first second left right old new before after called := by simp at called

theorem TargetsIn.start (targets : world.TargetsIn settled) (command : Command) :
    (world.start command).TargetsIn settled := by
  refine Machine.Every.start targets ?_
  intro parcel target
  cases target

theorem InOrder.start (order : world.InOrder) (command : Command) :
    (world.start command).InOrder := by
  intro first second left right old new before after one out two into
  rcases Machine.getElem?_start_eq_some.1 one with one | ⟨-, rfl⟩
  · rcases Machine.getElem?_start_eq_some.1 two with two | ⟨-, rfl⟩
    · exact order one out two into
    · cases into
  · cases out

/-- Targets after a step are those of the other calls and that of the call itself. -/
theorem TargetsIn.goOn (targets : world.TargetsIn settled)
    (called : world.machine.calls[index]? = some call) {later : Multiset Parcel}
    (mine : ∀ ⦃parcel⦄, phase.role = .target parcel → parcel ∈ later)
    (within : ∀ parcel ∈ settled, parcel ∈ later) :
    (world.goOn index call books phase trace ledger).TargetsIn later :=
  Machine.every_goOn called mine fun _ there parcel target =>
    within parcel (targets there target)

theorem records_goOn (registries : books.registries = world.machine.books.registries) :
    (world.goOn index call books phase trace ledger).records = world.records := by
  rw [records, records, ← registries]
  rfl

theorem ticket?_of_outgoing (outgoing : phase.role = .outgoing parcel) :
    ∃ ticket, phase.ticket? = some ticket := by
  cases phase <;> first | exact ⟨_, rfl⟩ | cases outgoing

/-- A step keeps blocks in order unless its call brings in or takes out another one. -/
theorem InOrder.goOn (order : world.InOrder) (orderly : world.machine.Orderly holders)
    (called : world.machine.calls[index]? = some call)
    (step : Phase.Step setup world.machine.books call.phase books phase trace)
    (outgoing : ∀ {parcel}, phase.role = .outgoing parcel →
      call.phase.role = .outgoing parcel ∨ ∀ other ∈ world.incoming, parcel.start ≠ other.start)
    (incoming : ∀ {parcel}, phase.role = .incoming parcel →
      call.phase.role = .incoming parcel ∨ phase.ticket? = none) :
    (world.goOn index call books phase trace ledger).InOrder := by
  intro first second left right old new before after one out two into same older newer
  rw [World.goOn, Machine.getElem?_goOn called] at one two
  split at one <;> split at two
  · cases one
    cases two
    rw [out] at into
    cases into
  · cases one
    rcases outgoing out with out | apart
    · obtain ⟨held, holds⟩ := ticket?_of_outgoing out
      rcases step.handles.ticket?_eq_some older with older | ⟨free, -⟩
      · exact order called out two into same older newer
      · rw [holds] at free
        cases free
    · exact absurd same (apart new (mem_incoming.2 ⟨second, right, two, into⟩))
  · cases two
    rcases incoming into with into | free
    · rcases step.handles.ticket?_eq_some newer with newer | ⟨-, rfl⟩
      · exact order one out called into same older newer
      · exact orderly.lt_issued one older
    · rw [free] at newer
      cases newer
  · exact order one out two into same older newer

namespace Custody

theorem mem_live (custody : world.Custody settled) (member : parcel ∈ settled) :
    parcel ∈ world.ledger.live := by
  rw [← Multiset.mem_coe, custody.live]
  exact Multiset.mem_add.2 (.inl member)

theorem mem_records (custody : world.Custody settled) (member : parcel ∈ settled) :
    parcel ∈ world.records := by
  rw [custody.records]
  exact Multiset.mem_add.2 (.inl member)

theorem mem_records_of_outgoing (custody : world.Custody settled)
    (goes : parcel ∈ world.outgoing) : parcel ∈ world.records := by
  rw [custody.records]
  exact Multiset.mem_add.2 (.inr goes)

theorem live_nodup (custody : world.Custody settled) :
    ((settled + world.incoming).map Parcel.start).Nodup := by
  have apart := custody.apart
  rw [Ledger.occupied_eq, Multiset.map_add] at apart
  rw [← custody.live]
  exact (Multiset.nodup_add.1 apart).1

theorem nodup_live (custody : world.Custody settled) : world.ledger.live.Nodup := by
  have nodup := Multiset.Nodup.of_map _ custody.live_nodup
  rw [← custody.live] at nodup
  exact Multiset.coe_nodup.1 nodup

theorem incoming_start_ne (custody : world.Custody settled) {other : Parcel}
    (member : parcel ∈ settled) (comes : other ∈ world.incoming) : parcel.start ≠ other.start :=
  Parcel.start_ne_of_mem_add custody.live_nodup member comes

theorem outgoing_start_ne (custody : world.Custody settled) {other : Parcel}
    (member : parcel ∈ settled) (goes : other ∈ world.outgoing) : parcel.start ≠ other.start := by
  have distinct := custody.distinct
  rw [custody.records] at distinct
  exact Parcel.start_ne_of_mem_add distinct member goes

theorem start (custody : world.Custody settled) (command : Command) :
    (world.start command).Custody settled where
  live := by
    rw [incoming_start]
    exact custody.live
  records := by
    rw [outgoing_start]
    exact custody.records
  apart := custody.apart
  positive := custody.positive
  distinct := custody.distinct
  targets := custody.targets.start command
  order := custody.order.start command

theorem release (custody : world.Custody settled) (index : Nat) (parcel : Parcel) :
    (world.release index parcel).Custody settled where
  live := custody.live
  records := custody.records
  apart := by
    have fewer : (world.ledger.release index parcel).occupied ≤ world.ledger.occupied :=
      Ledger.occupied_le rfl (Multiset.coe_le.2 (List.erase_subperm _ _))
    exact Multiset.nodup_of_le (Multiset.map_le_map fewer) custody.apart
  positive := by
    have fewer : (world.ledger.release index parcel).occupied ≤ world.ledger.occupied :=
      Ledger.occupied_le rfl (Multiset.coe_le.2 (List.erase_subperm _ _))
    intro other member
    exact custody.positive other (Multiset.mem_of_le fewer member)
  distinct := custody.distinct
  targets := custody.targets
  order := custody.order

/-! ## Steps that trade blocks -/

section Step

variable (custody : world.Custody settled) (orderly : world.machine.Orderly holders)
  (called : world.machine.calls[index]? = some call)
  (step : Phase.Step setup world.machine.books call.phase books phase trace)
include custody orderly called step

theorem keep (registries : books.registries = world.machine.books.registries)
    (live : ledger.live = world.ledger.live)
    (held : (ledger.held : Multiset (Nat × Parcel)) ≤ world.ledger.held)
    (role : phase.role = call.phase.role) :
    (world.goOn index call books phase trace ledger).Custody settled where
  live := by
    have incoming : (world.goOn index call books phase trace ledger).incoming = world.incoming :=
      Machine.gather_goOn_of_eq called (by rw [role])
    rw [incoming, ← custody.live, ← live]
    rfl
  records := by
    have outgoing : (world.goOn index call books phase trace ledger).outgoing = world.outgoing :=
      Machine.gather_goOn_of_eq called (by rw [role])
    rw [records_goOn registries, outgoing, custody.records]
  apart := Multiset.nodup_of_le (Multiset.map_le_map (Ledger.occupied_le live held)) custody.apart
  positive parcel member :=
    custody.positive parcel (Multiset.mem_of_le (Ledger.occupied_le live held) member)
  distinct := by
    rw [records_goOn registries]
    exact custody.distinct
  targets := custody.targets.goOn called (fun _ target => custody.targets called (role ▸ target))
    fun _ => id
  order := custody.order.goOn orderly called step (fun out => .inl (role ▸ out))
    fun into => .inl (role ▸ into)

/-- A block that is handed out is incoming. -/
theorem take (registries : books.registries = world.machine.books.registries)
    (positive : parcel.bytes ≠ 0) (fits : world.ledger.Fits parcel)
    (before : call.phase.role = .none) (role : phase.role = .incoming parcel)
    (ticketless : phase.ticket? = none) :
    (world.goOn index call books phase trace (world.ledger.grant parcel)).Custody settled where
  live := by
    have incoming : (world.goOn index call books phase trace (world.ledger.grant parcel)).incoming =
        parcel ::ₘ world.incoming :=
      Machine.gather_goOn_of_gain called (congrArg Role.incoming? before)
        (congrArg Role.incoming? role)
    rw [incoming, Multiset.add_cons, ← custody.live]
    rfl
  records := by
    have outgoing : (world.goOn index call books phase trace (world.ledger.grant parcel)).outgoing =
        world.outgoing := Machine.gather_goOn_of_eq called (by rw [role, before]; rfl)
    rw [records_goOn registries, outgoing, custody.records]
  apart := by
    rw [World.goOn, Ledger.occupied_grant, Multiset.map_cons, Multiset.nodup_cons]
    refine ⟨fun member => ?_, custody.apart⟩
    obtain ⟨other, inside, same⟩ := Multiset.mem_map.1 member
    exact fits.start_ne positive inside (custody.positive other inside) same
  positive other member := by
    rw [World.goOn, Ledger.occupied_grant, Multiset.mem_cons] at member
    rcases member with rfl | member
    · exact positive
    · exact custody.positive other member
  distinct := by
    rw [records_goOn registries]
    exact custody.distinct
  targets := custody.targets.goOn called (fun _ target => by rw [role] at target; cases target)
    fun _ => id
  order := custody.order.goOn orderly called step (fun out => by rw [role] at out; cases out)
    fun _ => .inr ticketless

/-- A block that is found on record is settled unless it is outgoing. -/
theorem find (registries : books.registries = world.machine.books.registries)
    (recorded : parcel ∈ world.records) (inside : parcel ∉ world.outgoing)
    (before : call.phase.role = .none) (role : phase.role = .target parcel) :
    (world.goOn index call books phase trace world.ledger).Custody settled where
  live := by
    have incoming : (world.goOn index call books phase trace world.ledger).incoming =
        world.incoming := Machine.gather_goOn_of_eq called (by rw [role, before]; rfl)
    rw [incoming, ← custody.live]
    rfl
  records := by
    have outgoing : (world.goOn index call books phase trace world.ledger).outgoing =
        world.outgoing := Machine.gather_goOn_of_eq called (by rw [role, before]; rfl)
    rw [records_goOn registries, outgoing, custody.records]
  apart := custody.apart
  positive := custody.positive
  distinct := by
    rw [records_goOn registries]
    exact custody.distinct
  targets := by
    refine custody.targets.goOn called (fun parcel target => ?_) fun _ => id
    rw [role] at target
    cases target
    rw [custody.records, Multiset.mem_add] at recorded
    exact recorded.resolve_right inside
  order := custody.order.goOn orderly called step (fun out => by rw [role] at out; cases out)
    fun into => by rw [role] at into; cases into

/-- A settled block whose free is made is outgoing, if no other call is about to free it. -/
theorem free {rest : Multiset Parcel}
    (registries : books.registries = world.machine.books.registries)
    (split : settled = parcel ::ₘ rest)
    (alone : ∀ {other : Nat} {found : Call}, other ≠ index →
      world.machine.calls[other]? = some found → found.phase.role ≠ .target parcel)
    (before : call.phase.role = .target parcel) (role : phase.role = .outgoing parcel) :
    (world.goOn index call books phase trace (world.ledger.free index parcel)).Custody rest := by
  have member : parcel ∈ settled := by simp [split]
  have live := custody.mem_live member
  constructor
  case live =>
    have incoming : (world.goOn index call books phase trace
        (world.ledger.free index parcel)).incoming = world.incoming :=
      Machine.gather_goOn_of_eq called (by rw [role, before]; rfl)
    have removed : (world.ledger.live : Multiset Parcel) =
        parcel ::ₘ ↑(world.ledger.live.erase parcel) :=
      Multiset.coe_eq_coe.2 (List.perm_cons_erase live)
    rw [custody.live, split, Multiset.cons_add, Multiset.cons_inj_right] at removed
    rw [incoming, removed]
    rfl
  case records =>
    have outgoing : (world.goOn index call books phase trace
        (world.ledger.free index parcel)).outgoing = parcel ::ₘ world.outgoing :=
      Machine.gather_goOn_of_gain called (congrArg Role.outgoing? before)
        (congrArg Role.outgoing? role)
    rw [records_goOn registries, outgoing, Multiset.add_cons, ← Multiset.cons_add, ← split,
      custody.records]
  case apart =>
    rw [World.goOn, Ledger.occupied_free live]
    exact custody.apart
  case positive =>
    rw [World.goOn, Ledger.occupied_free live]
    exact custody.positive
  case distinct =>
    rw [records_goOn registries]
    exact custody.distinct
  case targets =>
    refine Machine.every_goOn called (fun parcel target => by rw [role] at target; cases target) ?_
    intro other found differ there another target
    have kept := custody.targets there target
    rw [split, Multiset.mem_cons] at kept
    refine kept.resolve_left ?_
    rintro rfl
    exact alone differ there target
  case order =>
    refine custody.order.goOn orderly called step (fun out => .inr ?_)
      fun into => by rw [role] at into; cases into
    rw [role] at out
    cases out
    exact fun other comes => custody.incoming_start_ne member comes

/-- A block whose free breaks off is settled again. -/
theorem restore (registries : books.registries = world.machine.books.registries)
    (held : (index, parcel) ∈ world.ledger.held)
    (before : call.phase.role = .outgoing parcel) (role : phase.role = .none) :
    (world.goOn index call books phase trace (world.ledger.restore index parcel)).Custody
      (parcel ::ₘ settled) := by
  constructor
  case live =>
    have incoming : (world.goOn index call books phase trace
        (world.ledger.restore index parcel)).incoming = world.incoming :=
      Machine.gather_goOn_of_eq called (by rw [role, before]; rfl)
    rw [incoming, Multiset.cons_add, ← custody.live]
    rfl
  case records =>
    have outgoing : world.outgoing = parcel ::ₘ (world.goOn index call books phase trace
        (world.ledger.restore index parcel)).outgoing :=
      Machine.gather_goOn_of_loss called (congrArg Role.outgoing? before)
        (congrArg Role.outgoing? role)
    rw [records_goOn registries, Multiset.cons_add, ← Multiset.add_cons, ← outgoing,
      custody.records]
  case apart =>
    rw [World.goOn, Ledger.occupied_restore held]
    exact custody.apart
  case positive =>
    rw [World.goOn, Ledger.occupied_restore held]
    exact custody.positive
  case distinct =>
    rw [records_goOn registries]
    exact custody.distinct
  case targets =>
    exact custody.targets.goOn called (fun _ target => by rw [role] at target; cases target)
      fun _ => Multiset.mem_cons_of_mem
  case order =>
    exact custody.order.goOn orderly called step (fun out => by rw [role] at out; cases out)
      fun into => by rw [role] at into; cases into

omit step in
/-- When a new block is put on record, none that starts at its address is on record, in any area. -/
theorem start_ne_of_inTurn {ticket : Nat} {change : Change}
    (turn : call.phase = .inTurn ticket change) (role : call.phase.role = .incoming parcel) :
    ∀ other ∈ world.records, other.start ≠ parcel.start := by
  have comes : parcel ∈ world.incoming := mem_incoming.2 ⟨index, call, called, role⟩
  intro other recorded same
  rw [custody.records, Multiset.mem_add] at recorded
  rcases recorded with settles | goes
  · exact custody.incoming_start_ne settles comes same
  · -- The call that takes the other block out would hold a ticket that is retired.
    obtain ⟨first, found, there, out⟩ := mem_outgoing.1 goes
    obtain ⟨held, holds⟩ := ticket?_of_outgoing out
    have mine : call.phase.ticket? = some ticket := congrArg Phase.ticket? turn
    have less := custody.order there out called role same holds mine
    have theirs : world.machine.ticketOf? first = some held := by
      rw [Machine.ticketOf?, there, Option.bind_some, holds]
    have has : world.machine.turnOf? index = some ticket := by
      rw [Machine.turnOf?, called, Option.bind_some, turn]
      rfl
    have pending := ((orderly.held first held).1 theirs).1
    have served := (orderly.getElem?_of_turn has).1
    omega

theorem register {ticket : Nat} {area : Area} {ptr : Ptr} {bytes : Size}
    (registries : books.registries =
      world.machine.books.registries.apply (.register area ptr bytes))
    (before : call.phase = .inTurn ticket (.register area ptr bytes))
    (role : phase.role = .none) :
    (world.goOn index call books phase trace world.ledger).Custody
      (⟨area, ptr.addr, bytes⟩ ::ₘ settled) := by
  have comes : call.phase.role = .incoming ⟨area, ptr.addr, bytes⟩ := congrArg Phase.role before
  have apart := custody.start_ne_of_inTurn orderly called before comes
  have recorded : (world.goOn index call books phase trace world.ledger).records =
      ⟨area, ptr.addr, bytes⟩ ::ₘ world.records := by
    rw [World.records, World.goOn, Machine.books_goOn, registries]
    exact Registries.parcels_register (Registries.contains_eq_false apart area)
  constructor
  case live =>
    have incoming : world.incoming = ⟨area, ptr.addr, bytes⟩ ::ₘ
        (world.goOn index call books phase trace world.ledger).incoming :=
      Machine.gather_goOn_of_loss called (congrArg Role.incoming? comes)
        (congrArg Role.incoming? role)
    rw [Multiset.cons_add, ← Multiset.add_cons, ← incoming, ← custody.live]
    rfl
  case records =>
    have outgoing : (world.goOn index call books phase trace world.ledger).outgoing =
        world.outgoing := Machine.gather_goOn_of_eq called (by rw [role, comes]; rfl)
    rw [recorded, outgoing, custody.records, Multiset.cons_add]
  case apart =>
    exact custody.apart
  case positive =>
    exact custody.positive
  case distinct =>
    rw [recorded, Multiset.map_cons, Multiset.nodup_cons]
    refine ⟨fun member => ?_, custody.distinct⟩
    obtain ⟨other, inside, same⟩ := Multiset.mem_map.1 member
    exact apart other inside same
  case targets =>
    exact custody.targets.goOn called (fun _ target => by rw [role] at target; cases target)
      fun _ => Multiset.mem_cons_of_mem
  case order =>
    exact custody.order.goOn orderly called step (fun out => by rw [role] at out; cases out)
      fun into => by rw [role] at into; cases into

theorem deregister {ticket : Nat} {area : Area} {ptr : Ptr} {bytes : Size} {freed : Bool}
    (sound : world.machine.books.registries.AreSound)
    (registries : books.registries = world.machine.books.registries.apply (.deregister area ptr))
    (before : call.phase = .inTurn ticket (.deregister area ptr bytes freed))
    (role : phase.role = .none) :
    (world.goOn index call books phase trace world.ledger).Custody settled := by
  have goes : call.phase.role = .outgoing ⟨area, ptr.addr, bytes⟩ := congrArg Phase.role before
  have member : ⟨area, ptr.addr, bytes⟩ ∈ world.records :=
    custody.mem_records_of_outgoing (mem_outgoing.2 ⟨index, call, called, goes⟩)
  have recorded : world.records = ⟨area, ptr.addr, bytes⟩ ::ₘ
      (world.goOn index call books phase trace world.ledger).records := by
    rw [World.records, World.records, World.goOn, Machine.books_goOn, registries]
    exact Registries.parcels_deregister sound member
  constructor
  case live =>
    have incoming : (world.goOn index call books phase trace world.ledger).incoming =
        world.incoming := Machine.gather_goOn_of_eq called (by rw [role, goes]; rfl)
    rw [incoming, ← custody.live]
    rfl
  case records =>
    have outgoing : world.outgoing = ⟨area, ptr.addr, bytes⟩ ::ₘ
        (world.goOn index call books phase trace world.ledger).outgoing :=
      Machine.gather_goOn_of_loss called (congrArg Role.outgoing? goes)
        (congrArg Role.outgoing? role)
    have records := custody.records
    rw [recorded, outgoing, Multiset.add_cons, Multiset.cons_inj_right] at records
    exact records
  case apart =>
    exact custody.apart
  case positive =>
    exact custody.positive
  case distinct =>
    have distinct := custody.distinct
    rw [recorded, Multiset.map_cons, Multiset.nodup_cons] at distinct
    exact distinct.2
  case targets =>
    exact custody.targets.goOn called (fun _ target => by rw [role] at target; cases target)
      fun _ => id
  case order =>
    exact custody.order.goOn orderly called step (fun out => by rw [role] at out; cases out)
      fun into => by rw [role] at into; cases into

end Step

end Custody

/-! ## Worlds in which no two calls pursue one block -/

/-- The places of the blocks that calls are about to free or whose records they are to drop. -/
def pursued (world : World) : Multiset (Area × Addr) :=
  world.machine.gather fun call => call.phase.role.pursued?

def Uncontested (world : World) : Prop :=
  world.pursued.Nodup

instance (world : World) : Decidable world.Uncontested :=
  inferInstanceAs (Decidable world.pursued.Nodup)

theorem mem_pursued_of_outgoing (goes : parcel ∈ world.outgoing) :
    (parcel.area, parcel.start) ∈ world.pursued := by
  obtain ⟨index, call, called, role⟩ := mem_outgoing.1 goes
  exact Machine.mem_gather.2 ⟨index, call, called, congrArg Role.pursued? role⟩

theorem Uncontested.eq_of_pursued? (uncontested : world.Uncontested) {first second : Nat}
    {left right : Call} {place : Area × Addr} (one : world.machine.calls[first]? = some left)
    (two : world.machine.calls[second]? = some right)
    (leftward : left.phase.role.pursued? = some place)
    (rightward : right.phase.role.pursued? = some place) : first = second :=
  Machine.eq_of_gather_nodup uncontested one two leftward rightward

/-- A step of a call to a world in which no two calls pursue one block keeps custody. -/
theorem Custody.goOn (custody : world.Custody settled) (reachable : world.machine.Reachable setup)
    (uncontested : world.Uncontested) (called : world.machine.calls[index]? = some call)
    (step : Phase.Step setup world.machine.books call.phase books phase trace)
    (trades : Phase.Trades index world.machine.books world.ledger call.phase books ledger phase)
    (calm : (world.goOn index call books phase trace ledger).Uncontested) :
    (world.goOn index call books phase trace ledger).Custody
      (call.phase.resettle phase settled) := by
  obtain ⟨holders, orderly⟩ := reachable.exists_orderly
  cases trades with
  | keep registries live held role =>
    rw [Phase.resettle_of_role role]
    exact custody.keep orderly called step registries live held role
  | take area ptr bytes registries positive fits granted before became =>
    subst granted became
    rw [before]
    exact custody.take orderly called step registries positive fits (congrArg Phase.role before)
      rfl rfl
  | find area ptr given bytes registries recorded same before became =>
    subst same became
    rw [before]
    refine custody.find orderly called step registries recorded ?_ (congrArg Phase.role before) rfl
    have pursued : (world.goOn index call books (.found area ptr bytes) trace
        world.ledger).pursued = (area, ptr.addr) ::ₘ world.pursued :=
      Machine.gather_goOn_of_gain called (by rw [before]; rfl) rfl
    rw [Uncontested, pursued, Multiset.nodup_cons] at calm
    exact fun goes => calm.1 (mem_pursued_of_outgoing goes)
  | free ticket area ptr bytes registries freed before became =>
    subst freed became
    have target : call.phase.role = .target ⟨area, ptr.addr, bytes⟩ := congrArg Phase.role before
    have split := (Multiset.cons_erase (custody.targets called target)).symm
    rw [before]
    refine custody.free orderly called step registries split ?_ target rfl
    intro other found differ there also
    exact differ (uncontested.eq_of_pursued? there called (congrArg Role.pursued? also)
      (congrArg Role.pursued? target))
  | restore ticket area ptr bytes fault registries held restored before became =>
    subst restored became
    rw [before]
    exact custody.restore orderly called step registries held (congrArg Phase.role before) rfl
  | register ticket area ptr bytes result registries same before became =>
    subst same became
    rw [before]
    exact custody.register orderly called step registries before rfl
  | deregister ticket area ptr bytes freed result registries same before became =>
    subst same became
    rw [before]
    exact custody.deregister orderly called step reachable.areSound registries before rfl

theorem Custody.next {next : World} {incident : Incident} (custody : world.Custody settled)
    (reachable : world.machine.Reachable setup) (uncontested : world.Uncontested)
    (happened : world.step? setup incident = some next) (calm : next.Uncontested) :
    ∃ settled, next.Custody settled := by
  rcases step?_cases happened with
    ⟨command, -, rfl⟩ |
    ⟨index, call, books, phase, trace, ledger, called, step, follows, rfl⟩ |
    ⟨index, call, parcel, called, frees, rfl⟩
  · exact ⟨settled, custody.start command⟩
  · have trades := step.trades reachable.areSound (reachable.allServe called) follows
    exact ⟨_, custody.goOn reachable uncontested called step trades calm⟩
  · exact ⟨settled, custody.release index parcel⟩

/-- As long as no two calls pursue one block, every block is in custody. -/
theorem Reachable.exists_custody
    (reachable : Reachable setup (fun _ _ next => next.Uncontested) world) :
    world.Uncontested ∧ ∃ settled, world.Custody settled := by
  induction reachable with
  | empty => exact ⟨Multiset.nodup_zero, 0, custody_empty⟩
  | step incident before happened calm ih =>
    obtain ⟨uncontested, settled, custody⟩ := ih
    exact ⟨calm, custody.next before.machine uncontested happened calm⟩

/-- In custody the precondition of every change holds when the call has its turn. -/
theorem Custody.admits (custody : world.Custody settled) (orderly : world.machine.Orderly holders)
    (called : world.machine.calls[index]? = some call) {ticket : Nat} {change : Change}
    (turn : call.phase = .inTurn ticket change) :
    world.machine.books.registries.admits change.mutation = true := by
  cases change with
  | register area ptr bytes =>
    have comes : call.phase.role = .incoming ⟨area, ptr.addr, bytes⟩ := congrArg Phase.role turn
    have apart := custody.start_ne_of_inTurn orderly called turn comes
    simp [Change.mutation, Registries.admits, Registries.contains_eq_false apart area]
  | deregister area ptr bytes freed =>
    have goes : call.phase.role = .outgoing ⟨area, ptr.addr, bytes⟩ := congrArg Phase.role turn
    have recorded : ⟨area, ptr.addr, bytes⟩ ∈ world.records :=
      custody.mem_records_of_outgoing (mem_outgoing.2 ⟨index, call, called, goes⟩)
    exact Registry.contains_iff.2 ⟨_, Registries.mem_parcels.1 recorded, rfl⟩
  | nothing fault => rfl

end World

end TrackedMemory
