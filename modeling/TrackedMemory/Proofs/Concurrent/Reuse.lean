import TrackedMemory.Proofs.Concurrent.Commitments
import TrackedMemory.Proofs.Concurrent.Frees

/-!
# Reuse of addresses

Clients own the addresses that finished calls have yielded to them, and start a deallocation only of
an address that they own. Then every settled block is with its owner or with one call, so that no
two calls ever pursue one block. However its steps are mixed, every run keeps all contracts, and the
backend may hand out a range again as soon as it is released.
-/

namespace TrackedMemory

def Command.takes? : Command → Option Addr
  | .deallocate addr _ _ => some addr
  | _ => none

def Incident.takes? : Incident → Option Addr
  | .move (.start command) => command.takes?
  | _ => none

namespace Call

/-- The address that a client gave away when the call started. -/
def takes? (call : Call) : Option Addr :=
  call.command.takes?

/-- The address that a client owns once the call is finished: that of a new block, or that of a
block of which no free has come back. -/
def yields? (call : Call) : Option Addr :=
  match call.command, call.phase with
  | .allocate .., .finished (.ok (.block ptr)) => ptr.map Ptr.addr
  | .deallocate addr _ _, .finished _ =>
      match call.trace.mutation? with
      | some (.deregister ..) => none
      | _ => some addr
  | _, _ => none

/-- The address of a settled block that an unfinished call has in hand. -/
def keeps? (call : Call) : Option Addr :=
  match call.phase with
  | .entered (.deallocate addr _ _) => some addr
  | .found _ ptr _ | .changed _ (.register _ ptr _) _
  | .searching _ _ (.confirm _ ptr _ _) => some ptr.addr
  | .queued _ (.nothing _) | .inTurn _ (.nothing _) | .changed _ (.nothing _) _ => call.takes?
  | _ => none

/-- The address of a settled block that is with the call, or by the call with its client. -/
def holds? (call : Call) : Option Addr :=
  if call.isFinished then call.yields? else call.keeps?

theorem keeps?_of_isFinished {call : Call} (finished : call.isFinished) : call.keeps? = none := by
  obtain ⟨result, ends⟩ := call.isFinished_iff.1 finished
  simp [keeps?, ends]

theorem yields?_of_unfinished {call : Call} (unfinished : call.isFinished = false) :
    call.yields? = none := by
  have pending : ∀ result, call.phase ≠ .finished result := by
    intro result ends
    rw [call.isFinished_iff.2 ⟨result, ends⟩] at unfinished
    cases unfinished
  unfold yields?
  split
  next ends => exact absurd ends (pending _)
  next ends => exact absurd ends (pending _)
  next => rfl

end Call

namespace Machine

variable {machine : Machine}

/-- The addresses that clients own: those that calls have yielded, without those that deallocations
were started of. -/
def owned (machine : Machine) : Multiset Addr :=
  machine.gather Call.yields? - machine.gather Call.takes?

/-- What is with the calls, and what is with their clients by them. -/
theorem gather_holds? : machine.gather Call.holds? =
    machine.gather Call.keeps? + machine.gather Call.yields? := by
  simp only [gather]
  induction machine.calls with
  | nil => rfl
  | cons call rest ih =>
    have split : (↑call.holds?.toList : Multiset Addr) =
        ↑call.keeps?.toList + ↑call.yields?.toList := by
      cases finished : call.isFinished with
      | true => simp [Call.holds?, finished, Call.keeps?_of_isFinished finished]
      | false => simp [Call.holds?, finished, Call.yields?_of_unfinished finished]
    rw [coe_filterMap_cons, coe_filterMap_cons, coe_filterMap_cons, ih, split]
    abel

end Machine

namespace Phase

variable {setup : Setup} {books after : Books} {phase next : Phase} {trace : Trace}
  {settled : Multiset Parcel} {drew : Prop} {command : Command}

/-- What a call is about to show its client is settled, and will be found. -/
def Shows (settled : Multiset Parcel) : Phase → Prop
  | .changed _ (.register area ptr bytes) result =>
      result = .ok () ∧ ⟨area, ptr.addr, bytes⟩ ∈ settled
  | .changed _ _ result => result = .ok ()
  | .searching addr rest (.confirm area ptr bytes _) =>
      addr = ptr.addr ∧ area ∈ rest ∧ ⟨area, ptr.addr, bytes⟩ ∈ settled
  | _ => True

theorem Shows.mono {call : Call} {more : Multiset Parcel} (shows : call.phase.Shows settled)
    (within : ∀ parcel ∈ settled, call.keeps? = some parcel.start → parcel ∈ more) :
    call.phase.Shows more := by
  obtain ⟨command, phase, told⟩ := call
  cases phase with
  | changed ticket change result =>
    cases change with
    | register area ptr bytes => exact ⟨shows.1, within _ shows.2 rfl⟩
    | deregister | nothing => exact shows
  | searching addr rest purpose =>
    cases purpose with
    | confirm area ptr bytes ticket => exact ⟨shows.1, shows.2.1, within _ shows.2.2 rfl⟩
    | space | size => trivial
  | _ => trivial

theorem shows_of_isAside (aside : phase.isAside) : phase.Shows settled := by
  cases phase with
  | searching addr rest purpose => cases purpose <;> first | exact trivial | cases aside
  | changed => cases aside
  | _ => exact trivial

theorem isPlain_of_pending (pending : 0 < phase.stepsLeft) : phase.isPlain = true := by
  cases phase with
  | finished result => cases pending
  | _ => rfl

theorem holds?_of_isAside {told : Trace} (aside : phase.isAside) (plain : phase.isPlain)
    (serves : phase.Serves command)
    (keeps : ∀ addr given space, command ≠ .deallocate addr given space) :
    (Call.mk command phase told).holds? = none := by
  cases phase with
  | entered begun =>
    cases serves
    cases command with
    | deallocate addr given space => exact absurd rfl (keeps addr given space)
    | _ => rfl
  | finished result =>
    cases command with
    | allocate bytes space =>
      rcases result with fault | answer
      · rfl
      · cases answer with
        | block ptr =>
          cases ptr with
          | none => rfl
          | some ptr => cases plain
        | _ => rfl
    | deallocate addr given space => exact absurd rfl (keeps addr given space)
    | _ => rfl
  | searching addr rest purpose => cases purpose <;> first | rfl | cases aside
  | granted | found | inFree | queued | inTurn | changed => cases aside
  | _ => rfl

theorem holds?_of_isAside_deallocate {told : Trace} {addr : Addr} {given : Size} {space : Space}
    (aside : phase.isAside) (serves : phase.Serves (.deallocate addr given space))
    (uncommitted : told.mutation? = none) :
    (Call.mk (.deallocate addr given space) phase told).holds? = some addr := by
  cases phase with
  | entered begun =>
    cases serves
    rfl
  | finished result => simp [Call.holds?, Call.isFinished, Call.yields?, uncommitted]
  | inAlloc => cases serves.2
  | searching addr rest purpose =>
    cases purpose with
    | confirm => cases aside
    | space | size =>
      obtain ⟨query, other⟩ := serves
      cases other
  | measuring | surveying =>
    obtain ⟨query, other⟩ := serves
    cases other
  | checking | inCopy =>
    obtain ⟨request, other⟩ := serves
    cases other
  | granted | found | inFree | queued | inTurn | changed => cases aside

/-- At the address of every settled block, only the registry of its area has a record. -/
def Locates (books : Books) (settled : Multiset Parcel) : Prop :=
  ∀ ⦃parcel : Parcel⦄, parcel ∈ settled → ∀ area,
    (books.registries.get area).contains parcel.start = true ↔ area = parcel.area

theorem Step.result_eq {ticket : Nat} {change : Change} {result : Except Fault Unit}
    (step : Step setup books (.inTurn ticket change) after (.changed ticket change result) trace) :
    result = (change.apply setup books).result := by
  cases step with
  | change => rfl
  | aside tally passes => cases passes.before

/-- A step in which no block changes hands keeps what a call is about to show its client. -/
theorem Step.shows (step : Step setup books phase after next trace)
    (locates : Locates books settled) (role : next.role = phase.role)
    (shows : phase.Shows settled) : next.Shows settled := by
  cases step with
  | aside tally passes => exact shows_of_isAside passes.after
  | granted | drawToRegister | found | drawToFree | freed | freeRaised => exact trivial
  | enter => exact trivial
  | change ticket change =>
    cases change with
    | nothing => exact rfl
    | register | deregister => cases role
  | leave ticket change result =>
    cases result with
    | error fault => cases change <;> exact trivial
    | ok =>
      cases change with
      | register area ptr bytes =>
        simp only [afterTurn]
        split
        · exact ⟨rfl, area.mem_all, shows.2⟩
        · exact trivial
      | deregister | nothing => exact trivial
  | confirm | miss =>
    simp only [afterSearch]
    split <;> exact trivial
  | passOver here area ptr bytes ticket absent =>
    obtain ⟨rfl, listed, settles⟩ := shows
    refine ⟨rfl, (List.mem_cons.1 listed).resolve_left ?_, settles⟩
    rintro rfl
    rw [(locates settles area).2 rfl] at absent
    cases absent

/-- A step in which no block changes hands leaves every settled block with its call or client. -/
theorem Step.holds? {told : Trace} (step : Step setup books phase after next trace)
    (serves : phase.Serves command) (commits : phase.Commits drew told.mutation?)
    (locates : Locates books settled) (shows : phase.Shows settled)
    (role : next.role = phase.role) :
    (Call.mk command next (told ++ trace)).holds? = (Call.mk command phase told).holds? := by
  cases step with
  | aside tally passes silent =>
    have pending : 0 < phase.stepsLeft := Nat.zero_lt_of_lt passes.sooner
    obtain ⟨-, uncommitted⟩ := commits.of_isAside passes.before pending
    have later := passes.serves command serves
    cases command with
    | deallocate addr given space =>
      rw [holds?_of_isAside_deallocate passes.before serves uncommitted]
      refine holds?_of_isAside_deallocate passes.after later ?_
      rw [Trace.mutation?_append, uncommitted, silent]
      rfl
    | _ =>
      rw [holds?_of_isAside passes.before (isPlain_of_pending pending) serves (by simp),
        holds?_of_isAside passes.after passes.plain later (by simp)]
  | granted | found | drawToFree | freeRaised => cases role
  | drawToRegister | freed | passOver => rfl
  | enter ticket change => cases change <;> rfl
  | change ticket change =>
    cases change with
    | nothing => rfl
    | register | deregister => cases role
  | leave ticket change result =>
    cases change with
    | register area ptr bytes =>
      obtain ⟨rfl, -⟩ := shows
      cases serves
      simp only [afterTurn]
      split <;> rfl
    | deregister area ptr bytes freed =>
      cases shows
      obtain ⟨given, rfl⟩ := serves
      simp [Call.holds?, Call.isFinished, Call.yields?, Call.keeps?, afterTurn, Change.mutation,
        Trace.mutation?_append, commits.2]
    | nothing fault =>
      cases shows
      obtain ⟨addr, given, space, rfl⟩ := serves
      simp [Call.holds?, Call.isFinished, Call.yields?, Call.keeps?, Call.takes?, Command.takes?,
        afterTurn, Change.mutation, Trace.mutation?_append, commits.2]
  | confirm here area ptr bytes ticket present =>
    obtain ⟨rfl, listed, settles⟩ := shows
    cases (locates settles here).1 present
    cases serves
    simp [Call.holds?, Call.isFinished, Call.yields?, Call.keeps?, afterSearch]
  | miss area ptr bytes ticket absent =>
    obtain ⟨rfl, listed, settles⟩ := shows
    have missing := absent area listed
    rw [(locates settles area).2 rfl] at missing
    cases missing

theorem Step.keeps_contracts (step : Step setup books phase after next trace)
    (sound : books.registries.AreSound)
    (admitted : ∀ ticket change, phase = .inTurn ticket change →
      books.registries.admits change.mutation = true)
    (locates : Locates books settled) (shows : phase.Shows settled)
    (whole : ∀ violation, phase.fault? ≠ some (.violated violation)) (violation : Violation) :
    next.fault? ≠ some (.violated violation) := by
  intro broken
  rcases step.fault? sound admitted broken with
    before | ⟨addr, rest, area, ptr, bytes, ticket, rfl, -⟩
  · exact whole violation before
  · obtain ⟨rfl, listed, settles⟩ := shows
    cases step with
    | aside tally passes => cases passes.before
    | confirm here area ptr bytes ticket present =>
      cases (locates settles here).1 present
      simp [afterSearch, Phase.fault?] at broken
    | miss area ptr bytes ticket absent =>
      have missing := absent area listed
      rw [(locates settles area).2 rfl] at missing
      cases missing
    | passOver => cases broken

end Phase

namespace World

variable {setup : Setup} {world next : World} {settled : Multiset Parcel} {index : Nat}
  {call : Call} {books : Books} {phase : Phase} {trace : Trace} {ledger : Ledger} {parcel : Parcel}
  {incident : Incident}

/-- Clients start a deallocation only of an address that they own. -/
def Lawful (world : World) (incident : Incident) : Prop :=
  ∀ addr ∈ incident.takes?, addr ∈ world.machine.owned

instance (world : World) (incident : Incident) : Decidable (world.Lawful incident) :=
  -- Inference may find the instance that tries out all addresses.
  Option.decidableForallMem incident.takes?

/-- Every settled block is with one call or one client. -/
structure Stewardship (world : World) (settled : Multiset Parcel) : Prop where
  custody : world.Custody settled
  /-- The settled blocks are those that calls have in hand or have yielded, but for those that
  deallocations were started of. -/
  entrusted : settled.map Parcel.start + world.machine.gather Call.takes? =
    world.machine.gather Call.holds?
  /-- Deallocations were started only of addresses that calls had yielded. -/
  backed : world.machine.gather Call.takes? ≤ world.machine.gather Call.yields?
  /-- What calls are about to show their clients is settled. -/
  shown : world.machine.Every fun call => call.phase.Shows settled

theorem Custody.locates (custody : world.Custody settled) :
    Phase.Locates world.machine.books settled := by
  intro parcel settles area
  have recorded := custody.mem_records settles
  constructor
  · intro present
    obtain ⟨block, member, start⟩ := Registry.contains_iff.1 present
    have other : ⟨area, block.start, block.size⟩ ∈ world.records := Registries.mem_parcels.2 member
    exact congrArg Parcel.area
      (Multiset.inj_on_of_nodup_map custody.distinct _ other _ recorded start)
  · rintro rfl
    exact Registry.contains_iff.2 ⟨_, Registries.mem_parcels.1 recorded, rfl⟩

theorem stewardship_empty : Stewardship {} 0 where
  custody := custody_empty
  entrusted := rfl
  backed := le_rfl
  shown := Machine.every_empty

namespace Stewardship

/-- The settled blocks are those that calls have in hand and those that clients own. -/
theorem map_start_eq (stewardship : world.Stewardship settled) :
    settled.map Parcel.start = world.machine.gather Call.keeps? + world.machine.owned := by
  have entrusted := stewardship.entrusted
  rw [Machine.gather_holds?, ← Multiset.sub_add_cancel stewardship.backed, ← add_assoc] at entrusted
  exact add_right_cancel entrusted

theorem nodup_keeps (stewardship : world.Stewardship settled) :
    (world.machine.gather Call.keeps?).Nodup := by
  have nodup := stewardship.custody.live_nodup
  rw [Multiset.map_add, stewardship.map_start_eq] at nodup
  exact (Multiset.nodup_add.1 (Multiset.nodup_add.1 nodup).1).1

theorem exists_settled (stewardship : world.Stewardship settled)
    (called : world.machine.calls[index]? = some call) {addr : Addr}
    (keeps : call.keeps? = some addr) : ∃ parcel ∈ settled, parcel.start = addr := by
  have kept : addr ∈ settled.map Parcel.start := by
    rw [stewardship.map_start_eq, Multiset.mem_add]
    exact .inl (Machine.mem_gather.2 ⟨index, call, called, keeps⟩)
  simpa using kept

theorem start (stewardship : world.Stewardship settled) (command : Command)
    (lawful : world.Lawful (.move (.start command))) :
    (world.start command).Stewardship settled where
  custody := stewardship.custody.start command
  entrusted := by
    rw [World.start, Machine.gather_start, Machine.gather_start, ← add_assoc, stewardship.entrusted]
    cases command <;> rfl
  backed := by
    rw [World.start, Machine.gather_start, Machine.gather_start]
    cases command with
    | deallocate addr given space =>
      have owned : {addr} ≤ world.machine.owned :=
        Multiset.singleton_le.2 (lawful addr rfl)
      calc world.machine.gather Call.takes? + {addr}
        _ ≤ world.machine.gather Call.takes? + world.machine.owned := add_le_add le_rfl owned
        _ = world.machine.gather Call.yields? :=
            (add_comm _ _).trans (Multiset.sub_add_cancel stewardship.backed)
        _ = world.machine.gather Call.yields? + 0 := (add_zero _).symm
    | _ => exact add_le_add stewardship.backed le_rfl
  shown := stewardship.shown.start trivial

/-! ## Steps of calls -/

section Step

variable (stewardship : world.Stewardship settled)
  (called : world.machine.calls[index]? = some call)
  (step : Phase.Step setup world.machine.books call.phase books phase trace)
include stewardship called step

/-- A step takes nothing from a client, and takes back nothing that was yielded. -/
theorem backed_goOn :
    (world.goOn index call books phase trace ledger).machine.gather Call.takes? ≤
      (world.goOn index call books phase trace ledger).machine.gather Call.yields? := by
  have unfinished : call.isFinished = false := Bool.eq_false_iff.2 step.not_isFinished
  have replaced := Machine.gather_goOn Call.yields? books phase trace called
  rw [Call.yields?_of_unfinished unfinished, Option.toList_none, Multiset.coe_nil, add_zero]
    at replaced
  rw [World.goOn, Machine.gather_goOn_of_eq called rfl, replaced]
  exact le_trans stewardship.backed (Multiset.le_add_right _ _)

theorem keep (custody : (world.goOn index call books phase trace ledger).Custody settled)
    (holds : ({ call with phase, trace := call.trace ++ trace } : Call).holds? = call.holds?)
    (shows : phase.Shows settled) :
    (world.goOn index call books phase trace ledger).Stewardship settled where
  custody := custody
  entrusted := by
    rw [World.goOn, Machine.gather_goOn_of_eq called rfl, Machine.gather_goOn_of_eq called holds]
    exact stewardship.entrusted
  backed := stewardship.backed_goOn called step
  shown := Machine.every_goOn called shows fun _ there => stewardship.shown there

theorem settle (custody : (world.goOn index call books phase trace ledger).Custody
      (parcel ::ₘ settled))
    (before : call.holds? = none)
    (holds : ({ call with phase, trace := call.trace ++ trace } : Call).holds? = some parcel.start)
    (shows : phase.Shows (parcel ::ₘ settled)) :
    (world.goOn index call books phase trace ledger).Stewardship (parcel ::ₘ settled) where
  custody := custody
  entrusted := by
    rw [World.goOn, Machine.gather_goOn_of_eq called rfl,
      Machine.gather_goOn_of_gain called before holds, Multiset.map_cons, Multiset.cons_add]
    rw [stewardship.entrusted]
  backed := stewardship.backed_goOn called step
  shown := Machine.every_goOn called shows fun _ there =>
    (stewardship.shown there).mono fun _ settles _ => Multiset.mem_cons_of_mem settles

theorem unsettle {rest : Multiset Parcel} (split : settled = parcel ::ₘ rest)
    (custody : (world.goOn index call books phase trace ledger).Custody rest)
    (keeps : call.keeps? = some parcel.start)
    (holds : ({ call with phase, trace := call.trace ++ trace } : Call).holds? = none)
    (shows : phase.Shows rest) :
    (world.goOn index call books phase trace ledger).Stewardship rest where
  custody := custody
  entrusted := by
    have before : call.holds? = some parcel.start := by
      rw [Call.holds?, Bool.eq_false_iff.2 step.not_isFinished]
      exact keeps
    have entrusted := stewardship.entrusted
    rw [Machine.gather_goOn_of_loss called before holds, split, Multiset.map_cons,
      Multiset.cons_add, Multiset.cons_inj_right] at entrusted
    rw [World.goOn, Machine.gather_goOn_of_eq called rfl]
    exact entrusted
  backed := stewardship.backed_goOn called step
  shown := by
    refine Machine.every_goOn called shows fun differ there => ?_
    refine (stewardship.shown there).mono fun other settles kept => ?_
    rw [split, Multiset.mem_cons] at settles
    refine settles.resolve_left ?_
    rintro rfl
    exact differ (Machine.eq_of_gather_nodup stewardship.nodup_keeps there called kept keeps)

end Step

theorem release (stewardship : world.Stewardship settled) (index : Nat) (parcel : Parcel) :
    (world.release index parcel).Stewardship settled where
  custody := stewardship.custody.release index parcel
  entrusted := stewardship.entrusted
  backed := stewardship.backed
  shown := stewardship.shown

theorem result_eq_ok (stewardship : world.Stewardship settled)
    (reachable : world.machine.Reachable setup)
    (called : world.machine.calls[index]? = some call) {ticket : Nat} {change : Change}
    {result : Except Fault Unit} (turn : call.phase = .inTurn ticket change)
    (step : Phase.Step setup world.machine.books call.phase books (.changed ticket change result)
      trace) : result = .ok () := by
  obtain ⟨holders, orderly⟩ := reachable.exists_orderly
  have admitted := stewardship.custody.admits orderly called turn
  rw [turn] at step
  rw [step.result_eq]
  exact Change.apply_result reachable.areSound admitted

theorem goOn (stewardship : world.Stewardship settled) (reachable : world.machine.Reachable setup)
    (called : world.machine.calls[index]? = some call)
    (step : Phase.Step setup world.machine.books call.phase books phase trace)
    (trades : Phase.Trades index world.machine.books world.ledger call.phase books ledger phase)
    (custody : (world.goOn index call books phase trace ledger).Custody
      (call.phase.resettle phase settled)) :
    (world.goOn index call books phase trace ledger).Stewardship
      (call.phase.resettle phase settled) := by
  have serves := reachable.allServe called
  obtain ⟨command, current, told⟩ := call
  cases trades with
  | keep registries live held role =>
    rw [Phase.resettle_of_role role] at custody ⊢
    obtain ⟨moves, run⟩ := Machine.reachable_iff_run?.1 reachable
    have commits := (Machine.committed_of_run run).commits called
    have locates := stewardship.custody.locates
    have shown := stewardship.shown called
    exact stewardship.keep called step custody (step.holds? serves commits locates shown role)
      (step.shows locates role shown)
  | take area ptr bytes registries positive fits granted before became =>
    obtain rfl : current = _ := before
    subst became
    exact stewardship.keep called step custody rfl trivial
  | find area ptr given bytes registries recorded same before became =>
    obtain rfl : current = _ := before
    subst became
    exact stewardship.keep called step custody rfl trivial
  | free ticket area ptr bytes registries freed before became =>
    obtain rfl : current = _ := before
    subst became
    have split := (Multiset.cons_erase (stewardship.custody.targets called rfl)).symm
    exact stewardship.unsettle called step split custody rfl rfl trivial
  | restore ticket area ptr bytes fault registries held restored before became =>
    obtain rfl : current = _ := before
    subst became
    obtain ⟨given, rfl⟩ := serves
    exact stewardship.settle called step custody rfl rfl trivial
  | register ticket area ptr bytes result registries same before became =>
    subst became
    have done := stewardship.result_eq_ok reachable called before step
    obtain rfl : current = _ := before
    exact stewardship.settle called step custody rfl rfl ⟨done, Multiset.mem_cons_self _ _⟩
  | deregister ticket area ptr bytes freed result registries same before became =>
    subst became
    have done := stewardship.result_eq_ok reachable called before step
    obtain rfl : current = _ := before
    exact stewardship.keep called step custody rfl done

/-- Two calls never come to pursue one block. -/
theorem uncontested_next (stewardship : world.Stewardship settled)
    (reachable : world.machine.Reachable setup) (uncontested : world.Uncontested)
    (happened : world.step? setup incident = some next) : next.Uncontested := by
  by_contra contested
  obtain ⟨index, call, books, trace, area, ptr, given, bytes, called, entered, -, -, sought⟩ :=
    exists_find_of_contested reachable uncontested happened contested
  have keeps : call.keeps? = some ptr.addr := by
    rw [Call.keeps?, entered]
  obtain ⟨other, found, there, pursues⟩ := Machine.mem_gather.1 sought
  cases role : found.phase.role with
  | none | incoming =>
    rw [role] at pursues
    cases pursues
  | target parcel =>
    obtain ⟨_, block, _, rfl, finds⟩ := Phase.act?_of_target role
    rw [role] at pursues
    have same : block.addr = ptr.addr := (Prod.mk.inj (Option.some.inj pursues)).2
    have also : found.keeps? = some ptr.addr := by
      rw [Call.keeps?, finds, ← same]
    obtain rfl := Machine.eq_of_gather_nodup stewardship.nodup_keeps called there keeps also
    rw [called] at there
    cases there
    rw [entered] at finds
    cases finds
  | outgoing parcel =>
    rw [role] at pursues
    have same : parcel.start = ptr.addr := (Prod.mk.inj (Option.some.inj pursues)).2
    obtain ⟨kept, settles, start⟩ := stewardship.exists_settled called keeps
    exact stewardship.custody.outgoing_start_ne settles
      (mem_outgoing.2 ⟨other, found, there, role⟩) (start.trans same.symm)

/-- Every lawful event keeps stewardship, and no two calls come to pursue one block. -/
theorem preserved (stewardship : world.Stewardship settled)
    (reachable : world.machine.Reachable setup) (uncontested : world.Uncontested)
    (happened : world.step? setup incident = some next) (lawful : world.Lawful incident) :
    next.Uncontested ∧ ∃ settled, next.Stewardship settled := by
  have calm := stewardship.uncontested_next reachable uncontested happened
  refine ⟨calm, ?_⟩
  rcases step?_cases happened with
    ⟨command, rfl, rfl⟩ |
    ⟨index, call, books, phase, trace, ledger, called, step, follows, rfl⟩ |
    ⟨index, call, parcel, called, frees, rfl⟩
  · exact ⟨settled, stewardship.start command lawful⟩
  · have trades := step.trades reachable.areSound (reachable.allServe called) follows
    have custody := stewardship.custody.goOn reachable uncontested called step trades calm
    exact ⟨_, stewardship.goOn reachable called step trades custody⟩
  · exact ⟨settled, stewardship.release index parcel⟩

/-- Once all calls are finished, clients own what is on record, and that is live. -/
theorem balanced (stewardship : world.Stewardship settled)
    (done : ∀ call ∈ world.machine.calls, call.isFinished) :
    world.records = world.ledger.live ∧ world.records.map Parcel.start = world.machine.owned := by
  have ended : world.machine.Every fun call => ∃ result, call.phase = .finished result :=
    fun _ call called => call.isFinished_iff.1 (done call (List.mem_of_getElem? called))
  have incoming : world.incoming = 0 := by
    refine Machine.gather_eq_zero fun index call called => ?_
    obtain ⟨result, ends⟩ := ended called
    rw [ends]
    rfl
  have outgoing : world.outgoing = 0 := by
    refine Machine.gather_eq_zero fun index call called => ?_
    obtain ⟨result, ends⟩ := ended called
    rw [ends]
    rfl
  have keeps : world.machine.gather Call.keeps? = 0 := by
    refine Machine.gather_eq_zero fun index call called => ?_
    exact Call.keeps?_of_isFinished (done call (List.mem_of_getElem? called))
  have live := stewardship.custody.live
  have records := stewardship.custody.records
  have owned := stewardship.map_start_eq
  rw [incoming, add_zero] at live
  rw [outgoing, add_zero] at records
  rw [keeps, zero_add] at owned
  rw [live, records]
  exact ⟨rfl, owned⟩

end Stewardship

/-! ## Lawful runs -/

/-- As long as clients are lawful, every settled block is with one call or one client. -/
theorem Reachable.exists_stewardship
    (reachable : Reachable setup (fun world incident _ => world.Lawful incident) world) :
    world.Uncontested ∧ ∃ settled, world.Stewardship settled := by
  induction reachable with
  | empty => exact ⟨Multiset.nodup_zero, 0, stewardship_empty⟩
  | step incident before happened lawful ih =>
    obtain ⟨uncontested, settled, stewardship⟩ := ih
    exact stewardship.preserved before.machine uncontested happened lawful

/-- No call has broken a contract or is going to report one. -/
def KeepsContracts (world : World) : Prop :=
  world.machine.Every fun call => ∀ violation, call.phase.fault? ≠ some (.violated violation)

theorem Stewardship.keepsContracts (stewardship : world.Stewardship settled)
    (reachable : world.machine.Reachable setup) (keeps : world.KeepsContracts)
    (happened : world.step? setup incident = some next) : next.KeepsContracts := by
  obtain ⟨holders, orderly⟩ := reachable.exists_orderly
  refine every_step? happened keeps ?_ ?_
  · intro command violation broken
    cases broken
  · intro index call books phase trace called step
    exact step.keeps_contracts reachable.areSound
      (fun ticket change turn => stewardship.custody.admits orderly called turn)
      stewardship.custody.locates (stewardship.shown called) (keeps called)

theorem Reachable.keepsContracts
    (reachable : Reachable setup (fun world incident _ => world.Lawful incident) world) :
    world.KeepsContracts := by
  induction reachable with
  | empty => exact Machine.every_empty
  | step incident before happened lawful ih =>
    obtain ⟨-, settled, stewardship⟩ := before.exists_stewardship
    exact stewardship.keepsContracts before.machine ih happened

structure ReusesSoundly (setup : Setup) (world : World) : Prop where
  /-- No area has a record at the address of a block that is registered. -/
  absent : ∀ (index : Nat) (call : Call) (ticket : Nat) (area : Area) (ptr : Ptr) (bytes : Size),
    world.machine.calls[index]? = some call →
    call.phase = .inTurn ticket (.register area ptr bytes) →
    ∀ any, (world.machine.books.registries.get any).contains ptr.addr = false
  /-- A block that is deregistered is on record with its size. -/
  present : ∀ (index : Nat) (call : Call) (ticket : Nat) (area : Area) (ptr : Ptr) (bytes : Size)
    (freed : Bool), world.machine.calls[index]? = some call →
    call.phase = .inTurn ticket (.deregister area ptr bytes freed) →
    ⟨ptr.addr, bytes⟩ ∈ (world.machine.books.registries.get area).blocks
  /-- A new block whose area is looked up is on record there alone, and is still to be found. -/
  found : ∀ (index : Nat) (call : Call) (addr : Addr) (rest : List Area) (area : Area) (ptr : Ptr)
    (bytes : Size) (ticket : Nat), world.machine.calls[index]? = some call →
    call.phase = .searching addr rest (.confirm area ptr bytes ticket) →
    addr = ptr.addr ∧ area ∈ rest ∧
      ∀ any, (world.machine.books.registries.get any).contains ptr.addr = true ↔ any = area
  /-- A block that was given to a deallocation is live and on record until it is looked up. -/
  awaited : ∀ (index : Nat) (call : Call) (addr : Addr) (given : Size) (space : Space),
    world.machine.calls[index]? = some call →
    call.phase = .entered (.deallocate addr given space) →
    ∃ parcel ∈ world.records, parcel.start = addr ∧ parcel ∈ world.ledger.live
  /-- No contract is broken, be it of a registry or of a call. -/
  contracts : world.KeepsContracts
  /-- A backend free is made only of a live block, with its area and its size. -/
  live : ∀ incident next index parcel, world.step? setup incident = some next →
    world.FreeMade next index parcel → parcel ∈ world.ledger.live
  /-- Once all calls are finished, clients own what is on record, and that is live. -/
  balanced : (∀ call ∈ world.machine.calls, call.isFinished) →
    world.records = world.ledger.live ∧ world.records.map Parcel.start = world.machine.owned

/-- As long as clients deallocate only what they own, addresses are reused soundly. -/
theorem reusesSoundly_of_lawful
    (reachable : Reachable setup (fun world incident _ => world.Lawful incident) world) :
    world.ReusesSoundly setup := by
  obtain ⟨holders, orderly⟩ := reachable.machine.exists_orderly
  obtain ⟨-, settled, stewardship⟩ := reachable.exists_stewardship
  have custody := stewardship.custody
  refine ⟨?_, ?_, ?_, ?_, reachable.keepsContracts, ?_, stewardship.balanced⟩
  · intro index call ticket area ptr bytes called turn
    have comes : call.phase.role = .incoming ⟨area, ptr.addr, bytes⟩ := congrArg Phase.role turn
    exact Registries.contains_eq_false (custody.start_ne_of_inTurn orderly called turn comes)
  · intro index call ticket area ptr bytes freed called turn
    have goes : call.phase.role = .outgoing ⟨area, ptr.addr, bytes⟩ := congrArg Phase.role turn
    exact Registries.mem_parcels.1
      (custody.mem_records_of_outgoing (mem_outgoing.2 ⟨index, call, called, goes⟩))
  · intro index call addr rest area ptr bytes ticket called searches
    have shown : call.phase.Shows settled := stewardship.shown called
    rw [searches] at shown
    obtain ⟨here, listed, settles⟩ := shown
    exact ⟨here, listed, custody.locates settles⟩
  · intro index call addr given space called entered
    have keeps : call.keeps? = some addr := by
      rw [Call.keeps?, entered]
    obtain ⟨parcel, settles, start⟩ := stewardship.exists_settled called keeps
    exact ⟨parcel, custody.mem_records settles, start, custody.mem_live settles⟩
  · intro incident next index parcel happened made
    obtain ⟨call, called, role⟩ := made.role happened
    exact custody.mem_live (custody.targets called role)

/-- A block of host memory is freed, the backend hands out its address as device memory before the
record is dropped, and the new block gets its turn. -/
def handover : List Incident :=
  [.move (.start (.allocate 8 .host)), .move (.advance 0),
    .move (.grant 0 (.granted ⟨96, by decide⟩)), .move (.advance 0), .move (.advance 0),
    .move (.advance 0), .move (.advance 0), .move (.advance 0), .move (.advance 0),
    .move (.start (.deallocate 96 0 .host)), .move (.advance 1), .move (.advance 1), .release 1,
    .move (.start (.allocate 4 .device)), .move (.advance 2),
    .move (.grant 2 (.granted ⟨96, by decide⟩)), .move (.advance 2),
    .move (.reply 1 (.granted ())), .move (.advance 1), .move (.advance 1), .move (.advance 1),
    .move (.advance 2)]

/-- In a handover the address is free when the new block is registered. -/
theorem reusesSoundly_of_handover : ∃ world,
    runAllowed? (.standard .checked) (fun world incident _ => world.Lawful incident) {} handover =
      some world ∧
    world.machine.turnOf? 2 = some 2 ∧ world.incoming = {⟨.device, 96, 4⟩} ∧
    world.ReusesSoundly (.standard .checked) := by
  have ran : (runAllowed? (.standard .checked) (fun world incident _ => world.Lawful incident) {}
      handover).map (fun world => (world.machine.turnOf? 2, world.incoming)) =
        some (some 2, {⟨.device, 96, 4⟩}) := by decide +kernel
  obtain ⟨world, run, shape⟩ := Option.map_eq_some_iff.1 ran
  obtain ⟨turn, incoming⟩ := Prod.mk.inj shape
  exact ⟨world, run, turn, incoming,
    reusesSoundly_of_lawful (Reachable.empty.runAllowed? handover run)⟩

end World

end TrackedMemory
