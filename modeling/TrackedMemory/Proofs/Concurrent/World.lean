import TrackedMemory.Proofs.Concurrent.Tickets
import TrackedMemory.Proofs.Concurrent.Parcels

/-!
# Calls over a backend that keeps its blocks apart

A ledger tells which blocks the backend has handed out: those of which no free was made, and those
that a free under way has not released. A world is a machine with such a ledger. Its backend hands
out no block that overlaps one of the ledger, and a free that breaks off has released nothing; it
may release a block before it comes back. `Phase.Trades` says what a step does with blocks.
-/

namespace TrackedMemory

inductive Role where
  | none
  /-- The block is new and not on record. -/
  | incoming (parcel : Parcel)
  /-- The block was found on record and is to be freed. -/
  | target (parcel : Parcel)
  /-- The free of the block was made, and its record is to be dropped. -/
  | outgoing (parcel : Parcel)
  deriving DecidableEq

namespace Role

/-- The block that is not on record yet. -/
def incoming? : Role → Option Parcel
  | .incoming parcel => some parcel
  | _ => Option.none

def outgoing? : Role → Option Parcel
  | .outgoing parcel => some parcel
  | _ => Option.none

/-- The place of the block that is to be freed or whose record is to be dropped. -/
def pursued? : Role → Option (Area × Addr)
  | .target parcel | .outgoing parcel => some (parcel.area, parcel.start)
  | _ => Option.none

end Role

namespace Phase

def role : Phase → Role
  | .granted area ptr bytes | .queued _ (.register area ptr bytes)
  | .inTurn _ (.register area ptr bytes) => .incoming ⟨area, ptr.addr, bytes⟩
  | .found area ptr bytes => .target ⟨area, ptr.addr, bytes⟩
  | .inFree _ area ptr bytes | .queued _ (.deregister area ptr bytes _)
  | .inTurn _ (.deregister area ptr bytes _) => .outgoing ⟨area, ptr.addr, bytes⟩
  | _ => .none

def freeing? : Phase → Option Parcel
  | .inFree _ area ptr bytes => some ⟨area, ptr.addr, bytes⟩
  | _ => none

end Phase

/-- The blocks that a backend has handed out and not released. -/
structure Ledger where
  /-- Those of which no free was made, or only one that broke off. -/
  live : List Parcel := []
  /-- Those that a free under way has not released, each with its call. -/
  held : List (Nat × Parcel) := []
  deriving DecidableEq

namespace Ledger

/-- Whether a new block overlaps none that is not released. -/
def Fits (ledger : Ledger) (parcel : Parcel) : Prop :=
  ∀ other ∈ ledger.live ++ ledger.held.map Prod.snd, ¬parcel.block.Overlaps other.block

instance (ledger : Ledger) (parcel : Parcel) : Decidable (ledger.Fits parcel) :=
  inferInstanceAs (Decidable (∀ other ∈ _, _))

def grant (ledger : Ledger) (parcel : Parcel) : Ledger :=
  { ledger with live := parcel :: ledger.live }

def free (ledger : Ledger) (index : Nat) (parcel : Parcel) : Ledger where
  live := ledger.live.erase parcel
  held := (index, parcel) :: ledger.held

/-- The free of a block has released it, unless it had done so before. -/
def release (ledger : Ledger) (index : Nat) (parcel : Parcel) : Ledger :=
  { ledger with held := ledger.held.erase (index, parcel) }

def restore (ledger : Ledger) (index : Nat) (parcel : Parcel) : Ledger where
  live := parcel :: ledger.live
  held := ledger.held.erase (index, parcel)

def occupied (ledger : Ledger) : Multiset Parcel :=
  ↑(ledger.live ++ ledger.held.map Prod.snd)

/-- The ledger after a step of a call, unless no such backend lets the call take that step. -/
def follow? (ledger : Ledger) (index : Nat) : Phase → Phase → Option Ledger
  | .inAlloc .., .granted area ptr bytes =>
      if ledger.Fits ⟨area, ptr.addr, bytes⟩ then some (ledger.grant ⟨area, ptr.addr, bytes⟩)
      else none
  | .found area ptr bytes, .inFree .. => some (ledger.free index ⟨area, ptr.addr, bytes⟩)
  | .inFree _ area ptr bytes, .queued _ (.deregister ..) =>
      some (ledger.release index ⟨area, ptr.addr, bytes⟩)
  | .inFree _ area ptr bytes, .queued _ (.nothing _) =>
      if (index, ⟨area, ptr.addr, bytes⟩) ∈ ledger.held then
        some (ledger.restore index ⟨area, ptr.addr, bytes⟩)
      else none
  | _, _ => some ledger

variable {ledger kept : Ledger} {index : Nat} {parcel : Parcel}

theorem occupied_eq : ledger.occupied =
    (ledger.live : Multiset Parcel) + (ledger.held : Multiset (Nat × Parcel)).map Prod.snd := rfl

theorem occupied_grant : (ledger.grant parcel).occupied = parcel ::ₘ ledger.occupied := rfl

/-- Making the free of a live block releases nothing. -/
theorem occupied_free (live : parcel ∈ ledger.live) :
    (ledger.free index parcel).occupied = ledger.occupied := by
  have removed : parcel ::ₘ (↑(ledger.live.erase parcel) : Multiset Parcel) = ledger.live :=
    Multiset.coe_eq_coe.2 (List.perm_cons_erase live).symm
  rw [occupied_eq, occupied_eq, ← removed, free, ← Multiset.cons_coe, Multiset.map_cons,
    Multiset.add_cons, Multiset.cons_add]

theorem occupied_restore (held : (index, parcel) ∈ ledger.held) :
    (ledger.restore index parcel).occupied = ledger.occupied := by
  have removed : (index, parcel) ::ₘ (↑(ledger.held.erase (index, parcel)) : Multiset _) =
      ledger.held := Multiset.coe_eq_coe.2 (List.perm_cons_erase held).symm
  rw [occupied_eq, occupied_eq, ← removed, restore, ← Multiset.cons_coe, Multiset.map_cons,
    Multiset.add_cons, Multiset.cons_add]

theorem occupied_le (live : kept.live = ledger.live)
    (held : (kept.held : Multiset (Nat × Parcel)) ≤ ledger.held) :
    kept.occupied ≤ ledger.occupied := by
  rw [occupied_eq, occupied_eq, live]
  exact add_le_add_right (Multiset.map_le_map held) _

theorem Fits.start_ne (fits : ledger.Fits parcel) (positive : parcel.bytes ≠ 0)
    {other : Parcel} (inside : other ∈ ledger.occupied) (filled : other.bytes ≠ 0) :
    other.start ≠ parcel.start := by
  intro same
  exact fits other inside (Block.overlaps_of_start_eq same.symm positive filled)

end Ledger

/-- A machine, and what its backend has handed out. -/
structure World where
  machine : Machine := {}
  ledger : Ledger := {}

inductive Incident where
  | move (move : Move)
  /-- A free under way releases its block. -/
  | release (index : Nat)

namespace World

def follow? (world : World) (machine : Machine) : Option Nat → Option Ledger
  | none => some world.ledger
  | some index => do
      let before ← world.machine.calls[index]?
      let after ← machine.calls[index]?
      world.ledger.follow? index before.phase after.phase

def move? (setup : Setup) (world : World) (move : Move) : Option World := do
  let machine ← world.machine.move? setup move
  let ledger ← world.follow? machine move.index?
  pure ⟨machine, ledger⟩

def step? (setup : Setup) (world : World) : Incident → Option World
  | .move move => world.move? setup move
  | .release index => do
      let call ← world.machine.calls[index]?
      let parcel ← call.phase.freeing?
      pure { world with ledger := world.ledger.release index parcel }

def run? (setup : Setup) (world : World) (incidents : List Incident) : Option World :=
  incidents.foldlM (step? setup) world

/-- Some sequence of events that are allowed leads from the empty world to this one. -/
inductive Reachable (setup : Setup) (allowed : World → Incident → World → Prop) : World → Prop
  | empty : Reachable setup allowed {}
  | step {world next : World} (incident : Incident) : Reachable setup allowed world →
      world.step? setup incident = some next → allowed world incident next →
      Reachable setup allowed next

def runAllowed? (setup : Setup) (allowed : World → Incident → World → Prop)
    [∀ world incident next, Decidable (allowed world incident next)] (world : World) :
    List Incident → Option World
  | [] => some world
  | incident :: rest => do
      let next ← world.step? setup incident
      if allowed world incident next then next.runAllowed? setup allowed rest else none

variable {setup : Setup} {world next : World} {allowed : World → Incident → World → Prop}

def start (world : World) (command : Command) : World :=
  { world with machine := world.machine.start command }

def goOn (world : World) (index : Nat) (call : Call) (books : Books) (phase : Phase)
    (trace : Trace) (ledger : Ledger) : World :=
  ⟨world.machine.goOn index call books phase trace, ledger⟩

/-- The world after a free under way has released a block. -/
def release (world : World) (index : Nat) (parcel : Parcel) : World :=
  { world with ledger := world.ledger.release index parcel }

/-- An event starts a call, is a step of one call that the backend lets happen, or a release. -/
theorem step?_cases {incident : Incident} (happened : world.step? setup incident = some next) :
    (∃ command, incident = .move (.start command) ∧ next = world.start command) ∨
    (∃ index call books phase trace ledger, world.machine.calls[index]? = some call ∧
      Phase.Step setup world.machine.books call.phase books phase trace ∧
      world.ledger.follow? index call.phase phase = some ledger ∧
      next = world.goOn index call books phase trace ledger) ∨
    ∃ index call parcel, world.machine.calls[index]? = some call ∧
      call.phase.freeing? = some parcel ∧ next = world.release index parcel := by
  cases incident with
  | move move =>
    simp only [step?, World.move?, Option.bind_eq_bind, Option.bind_eq_some_iff] at happened
    obtain ⟨machine, moved, ledger, follows, made⟩ := happened
    cases made
    rcases Machine.move?_cases moved with
      ⟨command, rfl, rfl⟩ | ⟨index, call, books, phase, trace, moves, called, step, rfl⟩
    · cases follows
      exact .inl ⟨command, rfl, rfl⟩
    · simp only [moves, World.follow?, called, Machine.getElem?_goOn_self called,
        Option.bind_eq_bind, Option.bind_some] at follows
      exact .inr (.inl ⟨index, call, books, phase, trace, ledger, called, step, follows, rfl⟩)
  | release index =>
    simp only [step?, Option.bind_eq_bind, Option.bind_eq_some_iff] at happened
    obtain ⟨call, called, parcel, frees, made⟩ := happened
    cases made
    exact .inr (.inr ⟨index, call, parcel, called, frees, rfl⟩)

/-- What a call has from its start and keeps in every step, every call has after every event. -/
theorem every_step? {P : Call → Prop} {incident : Incident}
    (happened : world.step? setup incident = some next) (every : world.machine.Every P)
    (fresh : ∀ command, P { command })
    (steps : ∀ {index : Nat} {call : Call} {books : Books} {phase : Phase} {trace : Trace},
      world.machine.calls[index]? = some call →
      Phase.Step setup world.machine.books call.phase books phase trace →
      P { call with phase, trace := call.trace ++ trace }) : next.machine.Every P := by
  rcases step?_cases happened with
    ⟨command, -, rfl⟩ |
    ⟨index, call, books, phase, trace, ledger, called, step, -, rfl⟩ |
    ⟨index, call, parcel, -, -, rfl⟩
  · exact every.start (fresh command)
  · exact Machine.every_goOn called (steps called step) fun _ there => every there
  · exact every

theorem step?_of_move? {index : Nat} {call : Call} {books : Books} {phase : Phase} {trace : Trace}
    {ledger : Ledger} {move : Move} (moves : move.index? = some index)
    (called : world.machine.calls[index]? = some call)
    (moved : world.machine.move? setup move =
      some (world.machine.goOn index call books phase trace))
    (follows : world.ledger.follow? index call.phase phase = some ledger) :
    world.step? setup (.move move) = some (world.goOn index call books phase trace ledger) := by
  simp [step?, World.move?, moved, moves, World.follow?, called,
    Machine.getElem?_goOn_self called, follows, World.goOn]

theorem Reachable.machine (reachable : Reachable setup allowed world) :
    world.machine.Reachable setup := by
  induction reachable with
  | empty => exact .empty
  | step incident before happened _ ih =>
    cases incident with
    | move move =>
      simp only [step?, World.move?, Option.bind_eq_bind, Option.bind_eq_some_iff] at happened
      obtain ⟨machine, moved, ledger, -, made⟩ := happened
      cases made
      exact .move move ih moved
    | release index =>
      simp only [step?, Option.bind_eq_bind, Option.bind_eq_some_iff] at happened
      obtain ⟨call, -, parcel, -, made⟩ := happened
      cases made
      exact ih

theorem Reachable.runAllowed? [∀ world incident next, Decidable (allowed world incident next)]
    (reachable : Reachable setup allowed world) (incidents : List Incident)
    (run : world.runAllowed? setup allowed incidents = some next) :
    Reachable setup allowed next := by
  induction incidents generalizing world with
  | nil =>
    cases run
    exact reachable
  | cons incident rest ih =>
    simp only [World.runAllowed?, Option.bind_eq_bind, Option.bind_eq_some_iff] at run
    obtain ⟨middle, happened, run⟩ := run
    obtain ⟨fine, run⟩ := Option.ite_none_right_eq_some.1 run
    exact ih (.step incident reachable happened fine) run

end World

namespace Phase

inductive Trades (index : Nat) (books : Books) (ledger : Ledger) (phase : Phase) (after : Books)
    (kept : Ledger) (next : Phase) : Prop
  /-- No block changes hands; at most the backend releases one. -/
  | keep (registries : after.registries = books.registries) (live : kept.live = ledger.live)
      (held : (kept.held : Multiset (Nat × Parcel)) ≤ ledger.held) (role : next.role = phase.role)
  /-- The backend hands out a block. -/
  | take (area : Area) (ptr : Ptr) (bytes : Size) (registries : after.registries = books.registries)
      (positive : bytes ≠ 0) (fits : ledger.Fits ⟨area, ptr.addr, bytes⟩)
      (granted : kept = ledger.grant ⟨area, ptr.addr, bytes⟩)
      (before : phase = .inAlloc area bytes) (became : next = .granted area ptr bytes)
  /-- A block that is on record is found. -/
  | find (area : Area) (ptr : Ptr) (given bytes : Size)
      (registries : after.registries = books.registries)
      (recorded : ⟨area, ptr.addr, bytes⟩ ∈ books.registries.parcels) (same : kept = ledger)
      (before : phase = .entered (.deallocate ptr.addr given area.space))
      (became : next = .found area ptr bytes)
  /-- The free of a block is made. -/
  | free (ticket : Nat) (area : Area) (ptr : Ptr) (bytes : Size)
      (registries : after.registries = books.registries)
      (freed : kept = ledger.free index ⟨area, ptr.addr, bytes⟩)
      (before : phase = .found area ptr bytes) (became : next = .inFree ticket area ptr bytes)
  /-- The free of a block breaks off. -/
  | restore (ticket : Nat) (area : Area) (ptr : Ptr) (bytes : Size) (fault : Fault)
      (registries : after.registries = books.registries)
      (held : (index, ⟨area, ptr.addr, bytes⟩) ∈ ledger.held)
      (restored : kept = ledger.restore index ⟨area, ptr.addr, bytes⟩)
      (before : phase = .inFree ticket area ptr bytes)
      (became : next = .queued ticket (.nothing fault))
  /-- A block is put on record. -/
  | register (ticket : Nat) (area : Area) (ptr : Ptr) (bytes : Size) (result : Except Fault Unit)
      (registries : after.registries = books.registries.apply (.register area ptr bytes))
      (same : kept = ledger) (before : phase = .inTurn ticket (.register area ptr bytes))
      (became : next = .changed ticket (.register area ptr bytes) result)
  /-- The record of a block is dropped. -/
  | deregister (ticket : Nat) (area : Area) (ptr : Ptr) (bytes : Size) (freed : Bool)
      (result : Except Fault Unit)
      (registries : after.registries = books.registries.apply (.deregister area ptr))
      (same : kept = ledger) (before : phase = .inTurn ticket (.deregister area ptr bytes freed))
      (became : next = .changed ticket (.deregister area ptr bytes freed) result)

variable {setup : Setup} {books after : Books} {phase next : Phase} {trace : Trace}
  {ledger kept : Ledger} {index : Nat} {command : Command}

theorem role_of_isAside (aside : phase.isAside) : phase.role = .none := by
  cases phase <;> first | rfl | cases aside

theorem role_afterTurn (setup : Setup) (ticket : Nat) (change : Change)
    (result : Except Fault Unit) : (afterTurn setup ticket change result).role = .none := by
  cases result with
  | error fault => cases change <;> rfl
  | ok =>
    cases change with
    | register area ptr bytes =>
      simp only [afterTurn]
      split <;> rfl
    | deregister | nothing => rfl

theorem role_afterSearch (setup : Setup) (area : Area) (ptr : Ptr) (found : Option Area) :
    (afterSearch setup area ptr found).role = .none := by
  simp only [afterSearch]
  split <;> rfl

theorem follow?_of_role (before : phase.role = .none) (after : next.role = .none) :
    ledger.follow? index phase next = some ledger := by
  unfold Ledger.follow?
  split <;> simp_all [role]

/-- Every step that the backend lets happen keeps or trades blocks. -/
theorem Step.trades (step : Step setup books phase after next trace)
    (sound : books.registries.AreSound) (serves : phase.Serves command)
    (follows : ledger.follow? index phase next = some kept) :
    Trades index books ledger phase after kept next := by
  cases step with
  | aside tally passes =>
    have before := role_of_isAside passes.before
    have after := role_of_isAside passes.after
    rw [follow?_of_role before after] at follows
    cases follows
    exact .keep rfl rfl le_rfl (after.trans before.symm)
  | granted area ptr bytes =>
    obtain ⟨fits, granted⟩ := Option.ite_none_right_eq_some.1 follows
    exact .take area ptr bytes rfl serves.1 fits (Option.some.inj granted).symm rfl rfl
  | found area ptr given bytes known =>
    cases follows
    exact .find area ptr given bytes rfl (Registries.mem_parcels.2 known) rfl rfl rfl
  | drawToFree area ptr bytes =>
    cases follows
    exact .free _ area ptr bytes rfl rfl rfl rfl
  | freed tally ticket area ptr bytes done =>
    cases follows
    exact .keep rfl rfl (Multiset.coe_le.2 (List.erase_subperm _ _)) rfl
  | freeRaised ticket area ptr bytes reason =>
    obtain ⟨held, restored⟩ := Option.ite_none_right_eq_some.1 follows
    exact .restore ticket area ptr bytes (.raised reason) rfl held (Option.some.inj restored).symm
      rfl rfl
  | change ticket change =>
    cases follows
    have registries : (change.apply setup books).state.registries =
        books.registries.apply change.mutation := by rw [Change.apply_state sound]
    cases change with
    | register area ptr bytes => exact .register ticket area ptr bytes _ registries rfl rfl rfl
    | deregister area ptr bytes freed =>
      exact .deregister ticket area ptr bytes freed _ registries rfl rfl rfl
    | nothing fault => exact .keep registries rfl le_rfl rfl
  | leave ticket change result =>
    have done := role_afterTurn setup ticket change result
    rw [follow?_of_role rfl done] at follows
    cases follows
    exact .keep rfl rfl le_rfl done
  | confirm here area ptr =>
    have done := role_afterSearch setup area ptr (some here)
    rw [follow?_of_role rfl done] at follows
    cases follows
    exact .keep rfl rfl le_rfl done
  | miss area ptr =>
    have done := role_afterSearch setup area ptr none
    rw [follow?_of_role rfl done] at follows
    cases follows
    exact .keep rfl rfl le_rfl done
  | enter ticket change =>
    cases follows
    exact .keep rfl rfl le_rfl (by cases change <;> rfl)
  | drawToRegister | passOver =>
    cases follows
    exact .keep rfl rfl le_rfl rfl

end Phase

end TrackedMemory
