import TrackedMemory.Proofs.Concurrent.Custody

/-!
# What is freed

As long as no two calls pursue one block, a backend free is made only of a live block, with the area
and the size with which the block was handed out, and no contract of a registry is broken. The
condition is exact: once two calls pursue one block, the calls that are under way can free a block
that is not live, unless the backend has handed that very block out again.
-/

namespace TrackedMemory

namespace Phase

variable {setup : Setup} {books after : Books} {phase next : Phase} {trace : Trace}

/-- The fault with which a call ends or is going to end. -/
def fault? : Phase → Option Fault
  | .changed _ _ (.error fault) | .finished (.error fault) | .queued _ (.nothing fault)
  | .inTurn _ (.nothing fault) | .changed _ (.nothing fault) (.ok _) => some fault
  | _ => none

theorem fault?_of_plain {violation : Violation} (aside : phase.isAside) (plain : phase.isPlain) :
    phase.fault? ≠ some (.violated violation) := by
  intro broken
  cases phase with
  | finished result =>
    cases result with
    | ok => cases broken
    | error fault =>
      cases broken
      cases plain
  | queued | inTurn | changed => cases aside
  | _ => cases broken

theorem fault?_afterTurn (setup : Setup) (ticket : Nat) (change : Change)
    (result : Except Fault Unit) {fault : Fault}
    (broken : (afterTurn setup ticket change result).fault? = some fault) :
    (changed ticket change result).fault? = some fault := by
  cases result with
  | error => cases change <;> exact broken
  | ok =>
    cases change with
    | register area ptr bytes =>
      simp only [afterTurn] at broken
      split at broken <;> cases broken
    | deregister => cases broken
    | nothing => exact broken

/-- While the precondition of every change holds, a contract is broken only where a new block is not
found. -/
theorem Step.fault? (step : Step setup books phase after next trace)
    (sound : books.registries.AreSound)
    (admitted : ∀ ticket change, phase = .inTurn ticket change →
      books.registries.admits change.mutation = true) {violation : Violation}
    (broken : next.fault? = some (.violated violation)) :
    phase.fault? = some (.violated violation) ∨
      ∃ addr rest area ptr bytes ticket,
        phase = .searching addr rest (.confirm area ptr bytes ticket) ∧
        violation = ⟨.postcondition, .blockNotFound area.space ptr.addr⟩ := by
  cases step with
  | aside tally passes => exact absurd broken (fault?_of_plain passes.after passes.plain)
  | granted | drawToRegister | found | drawToFree | freed | freeRaised | passOver => cases broken
  | enter ticket change => cases change <;> exact .inl broken
  | change ticket change =>
    rw [change.apply_result sound (admitted ticket change rfl)] at broken
    cases change <;> exact .inl broken
  | leave ticket change result => exact .inl (fault?_afterTurn setup ticket change result broken)
  | confirm here area ptr bytes ticket =>
    simp only [afterSearch] at broken
    split at broken
    · cases broken
      exact .inr ⟨_, _, area, ptr, bytes, ticket, rfl, rfl⟩
    · cases broken
  | miss area ptr bytes ticket =>
    simp only [afterSearch] at broken
    split at broken
    · cases broken
      exact .inr ⟨_, _, area, ptr, bytes, ticket, rfl, rfl⟩
    · cases broken

theorem freeing?_of_role (idle : phase.role = .none) : phase.freeing? = none := by
  cases phase <;> first | rfl | cases idle

theorem Step.role_of_freeing? (step : Step setup books phase after next trace) {parcel : Parcel}
    (before : phase.freeing? = none) (freeing : next.freeing? = some parcel) :
    phase.role = .target parcel := by
  cases step with
  | drawToFree =>
    cases freeing
    rfl
  | aside tally passes =>
    rw [freeing?_of_role (role_of_isAside passes.after)] at freeing
    cases freeing
  | leave ticket change result =>
    rw [freeing?_of_role (role_afterTurn setup ticket change result)] at freeing
    cases freeing
  | confirm here area ptr =>
    rw [freeing?_of_role (role_afterSearch setup area ptr (some here))] at freeing
    cases freeing
  | miss area ptr =>
    rw [freeing?_of_role (role_afterSearch setup area ptr none)] at freeing
    cases freeing
  | granted | drawToRegister | found | freed | freeRaised | enter | change | passOver =>
    cases freeing

theorem act?_of_target {parcel : Parcel} (role : phase.role = .target parcel) :
    ∃ area ptr bytes, parcel = ⟨area, ptr.addr, bytes⟩ ∧ phase = .found area ptr bytes := by
  cases phase with
  | found area ptr bytes =>
    cases role
    exact ⟨area, ptr, bytes, rfl, rfl⟩
  | queued ticket change => cases change <;> cases role
  | inTurn ticket change => cases change <;> cases role
  | _ => cases role

end Phase

namespace World

variable {setup : Setup} {world next : World} {settled : Multiset Parcel} {index : Nat}
  {call : Call} {books : Books} {phase : Phase} {trace : Trace} {ledger : Ledger} {parcel : Parcel}
  {incident : Incident} {holders : List Nat}

/-- A backend free of a block is made between two worlds: a call is inside it that was not. -/
def FreeMade (world next : World) (index : Nat) (parcel : Parcel) : Prop :=
  (∃ call, world.machine.calls[index]? = some call ∧ call.phase.freeing? = none) ∧
    ∃ call, next.machine.calls[index]? = some call ∧ call.phase.freeing? = some parcel

/-- The calls that are under way can make a free of a block that is not live. -/
def Misfrees (setup : Setup) (world : World) : Prop :=
  ∃ incidents middle index next parcel,
    (∀ incident ∈ incidents, ∃ index, incident = .move (.advance index)) ∧
    world.run? setup incidents = some middle ∧
    middle.step? setup (.move (.advance index)) = some next ∧
    middle.FreeMade next index parcel ∧ parcel ∉ middle.ledger.live

theorem FreeMade.role (made : world.FreeMade next index parcel)
    (happened : world.step? setup incident = some next) :
    ∃ call, world.machine.calls[index]? = some call ∧ call.phase.role = .target parcel := by
  obtain ⟨⟨call, called, before⟩, after, there, freeing⟩ := made
  rcases step?_cases happened with
    ⟨command, -, rfl⟩ |
    ⟨other, acting, books, phase, trace, ledger, acts, step, -, rfl⟩ |
    ⟨other, acting, released, -, -, rfl⟩
  · rcases Machine.getElem?_start_eq_some.1 there with old | ⟨-, rfl⟩
    · rw [called] at old
      cases old
      rw [before] at freeing
      cases freeing
    · cases freeing
  · rw [World.goOn, Machine.getElem?_goOn acts] at there
    split at there
    next same =>
      subst same
      cases there
      rw [called] at acts
      cases acts
      exact ⟨call, called, step.role_of_freeing? before freeing⟩
    next =>
      rw [called] at there
      cases there
      rw [before] at freeing
      cases freeing
  · rw [World.release] at there
    rw [called] at there
    cases there
    rw [before] at freeing
    cases freeing

theorem step?_of_target (setup : Setup) (called : world.machine.calls[index]? = some call)
    (role : call.phase.role = .target parcel) :
    ∃ books phase trace, world.step? setup (.move (.advance index)) =
        some (world.goOn index call books phase trace (world.ledger.free index parcel)) ∧
      world.FreeMade (world.goOn index call books phase trace (world.ledger.free index parcel))
        index parcel := by
  obtain ⟨area, ptr, bytes, rfl, found⟩ := Phase.act?_of_target role
  have acts : call.phase.act? setup world.machine.books = some (do
      let ticket ← Books.draw
      pure (.inFree ticket area ptr bytes)) := by
    rw [found]
    rfl
  have moved : world.machine.move? setup (.advance index) = some (world.machine.goOn index call
      { world.machine.books with sequencer := world.machine.books.sequencer.draw }
      (.inFree world.machine.books.sequencer.issued area ptr bytes) []) :=
    Machine.move?_advance called acts
  have follows : world.ledger.follow? index call.phase
      (.inFree world.machine.books.sequencer.issued area ptr bytes) =
      some (world.ledger.free index ⟨area, ptr.addr, bytes⟩) := by
    rw [found]
    rfl
  refine ⟨{ world.machine.books with sequencer := world.machine.books.sequencer.draw },
    .inFree world.machine.books.sequencer.issued area ptr bytes, [], ?_, ?_, ?_⟩
  · exact step?_of_move? rfl called moved follows
  · exact ⟨call, called, congrArg Phase.freeing? found⟩
  · exact ⟨_, Machine.getElem?_goOn_self called, rfl⟩

/-- Two calls come to pursue one block only when one of them finds it on record. -/
theorem exists_find_of_contested (reachable : world.machine.Reachable setup)
    (uncontested : world.Uncontested) (happened : world.step? setup incident = some next)
    (contested : ¬next.Uncontested) :
    ∃ index call books trace area ptr given bytes, world.machine.calls[index]? = some call ∧
      call.phase = .entered (.deallocate ptr.addr given area.space) ∧
      ⟨area, ptr.addr, bytes⟩ ∈ world.records ∧
      next = world.goOn index call books (.found area ptr bytes) trace world.ledger ∧
      (area, ptr.addr) ∈ world.pursued := by
  rcases step?_cases happened with
    ⟨command, -, rfl⟩ |
    ⟨index, call, books, phase, trace, ledger, called, step, follows, rfl⟩ |
    ⟨index, call, parcel, called, frees, rfl⟩
  · refine absurd ?_ contested
    rw [Uncontested, pursued, World.start, Machine.gather_start]
    exact (add_zero world.pursued).symm ▸ uncontested
  · have keeps (same : phase.role.pursued? = call.phase.role.pursued?) :
        (world.goOn index call books phase trace ledger).Uncontested := by
      have kept : (world.goOn index call books phase trace ledger).pursued = world.pursued :=
        Machine.gather_goOn_of_eq called same
      rw [Uncontested, kept]
      exact uncontested
    have drops {parcel : Parcel} (before : call.phase.role = .outgoing parcel)
        (role : phase.role = .none) :
        (world.goOn index call books phase trace ledger).Uncontested := by
      have lost : world.pursued = (parcel.area, parcel.start) ::ₘ
          (world.goOn index call books phase trace ledger).pursued :=
        Machine.gather_goOn_of_loss called (congrArg Role.pursued? before)
          (congrArg Role.pursued? role)
      rw [Uncontested, lost, Multiset.nodup_cons] at uncontested
      exact uncontested.2
    cases step.trades reachable.areSound (reachable.allServe called) follows with
    | keep registries live held role => exact absurd (keeps (by rw [role])) contested
    | take area ptr bytes registries positive fits granted before became =>
      subst became
      exact absurd (keeps (by rw [before]; rfl)) contested
    | find area ptr given bytes registries recorded same before became =>
      subst same became
      have gained : (world.goOn index call books (.found area ptr bytes) trace
          world.ledger).pursued = (area, ptr.addr) ::ₘ world.pursued :=
        Machine.gather_goOn_of_gain called (by rw [before]; rfl) rfl
      refine ⟨index, call, books, trace, area, ptr, given, bytes, called, before, recorded, rfl, ?_⟩
      by_contra absent
      rw [Uncontested, gained, Multiset.nodup_cons] at contested
      exact contested ⟨absent, uncontested⟩
    | free ticket area ptr bytes registries freed before became =>
      subst became
      exact absurd (keeps (by rw [before]; rfl)) contested
    | restore ticket area ptr bytes fault registries held restored before became =>
      subst became
      exact absurd (drops (congrArg Phase.role before) rfl) contested
    | register ticket area ptr bytes result registries same before became =>
      subst became
      exact absurd (keeps (by rw [before]; rfl)) contested
    | deregister ticket area ptr bytes freed result registries same before became =>
      subst became
      exact absurd (drops (congrArg Phase.role before) rfl) contested
  · exact absurd uncontested contested

/-- A call that has found a block which is not live any more can make the free of it. -/
theorem misfrees_of_target (called : world.machine.calls[index]? = some call)
    (role : call.phase.role = .target parcel) (gone : parcel ∉ world.ledger.live) :
    world.Misfrees setup := by
  obtain ⟨books, phase, trace, happens, made⟩ := step?_of_target setup called role
  exact ⟨[], world, index, _, parcel, by simp, rfl, happens, made, gone⟩

theorem misfrees_of_targets (nodup : world.ledger.live.Nodup) {first second : Nat}
    {left right : Call} (differ : first ≠ second)
    (one : world.machine.calls[first]? = some left)
    (two : world.machine.calls[second]? = some right)
    (leftward : left.phase.role = .target parcel) (rightward : right.phase.role = .target parcel) :
    world.Misfrees setup := by
  obtain ⟨later, last, told, happens, -⟩ := step?_of_target setup one leftward
  have still : (world.goOn first left later last told
      (world.ledger.free first parcel)).machine.calls[second]? = some right := by
    rw [World.goOn, Machine.getElem?_goOn one, if_neg (Ne.symm differ), two]
  obtain ⟨books, phase, trace, happens', made⟩ := step?_of_target setup still rightward
  refine ⟨[.move (.advance first)], _, second, _, parcel, ?_, ?_, happens', made, ?_⟩
  · intro incident member
    exact ⟨first, List.mem_singleton.1 member⟩
  · exact Option.bind_eq_some_iff.2 ⟨_, happens, rfl⟩
  · exact nodup.not_mem_erase

/-- Once two calls pursue one block, the calls under way can make a free of a block that is not
live, unless the backend has handed out that very block again. -/
theorem Custody.misfrees_of_contested (custody : world.Custody settled)
    (reachable : world.machine.Reachable setup) (uncontested : world.Uncontested)
    (happened : world.step? setup incident = some next) (contested : ¬next.Uncontested) :
    next.Misfrees setup ∨ ∃ parcel ∈ next.outgoing, parcel ∈ next.incoming := by
  obtain ⟨index, call, books, trace, area, ptr, given, bytes, called, entered, recorded, rfl,
    sought⟩ := exists_find_of_contested reachable uncontested happened contested
  have before : call.phase.role = .none := congrArg Phase.role entered
  have mine : (world.goOn index call books (.found area ptr bytes) trace
      world.ledger).machine.calls[index]? =
      some { call with phase := .found area ptr bytes, trace := call.trace ++ trace } :=
    Machine.getElem?_goOn_self called
  obtain ⟨other, found, there, pursues⟩ := Machine.mem_gather.1 sought
  have differ : other ≠ index := by
    rintro rfl
    rw [called] at there
    cases there
    rw [before] at pursues
    cases pursues
  have same {another : Parcel} (inside : another ∈ world.records)
      (place : (another.area, another.start) = (area, ptr.addr)) :
      another = ⟨area, ptr.addr, bytes⟩ :=
    Multiset.inj_on_of_nodup_map custody.distinct _ inside _ recorded (Prod.mk.inj place).2
  cases its : found.phase.role with
  | none | incoming =>
    rw [its] at pursues
    cases pursues
  | target another =>
    left
    rw [its] at pursues
    have settles := custody.targets there its
    cases same (custody.mem_records settles) (Option.some.inj pursues)
    have theirs : (world.goOn index call books (.found area ptr bytes) trace
        world.ledger).machine.calls[other]? = some found := by
      rw [World.goOn, Machine.getElem?_goOn called, if_neg differ, there]
    exact misfrees_of_targets custody.nodup_live differ theirs mine its rfl
  | outgoing another =>
    rw [its] at pursues
    have goes : another ∈ world.outgoing := mem_outgoing.2 ⟨other, found, there, its⟩
    cases same (custody.mem_records_of_outgoing goes) (Option.some.inj pursues)
    by_cases live : ⟨area, ptr.addr, bytes⟩ ∈ world.ledger.live
    · right
      rw [← Multiset.mem_coe, custody.live, Multiset.mem_add] at live
      have comes := live.resolve_left fun settles => custody.outgoing_start_ne settles goes rfl
      have outgoing : (world.goOn index call books (.found area ptr bytes) trace
          world.ledger).outgoing = world.outgoing :=
        Machine.gather_goOn_of_eq called (by rw [before]; rfl)
      have incoming : (world.goOn index call books (.found area ptr bytes) trace
          world.ledger).incoming = world.incoming :=
        Machine.gather_goOn_of_eq called (by rw [before]; rfl)
      exact ⟨_, outgoing ▸ goes, incoming ▸ comes⟩
    · left
      exact misfrees_of_target mine rfl live

/-! ## Contracts -/

/-- No contract is broken, but for that of a new block which is not found any more. -/
def Unbroken (world : World) : Prop :=
  world.machine.Every fun call => ∀ violation, call.phase.fault? = some (.violated violation) →
    ∃ (area : Area) (ptr : Ptr), violation = ⟨.postcondition, .blockNotFound area.space ptr.addr⟩

/-- In custody every event keeps the contracts unbroken. -/
theorem Unbroken.keep (unbroken : world.Unbroken) (custody : world.Custody settled)
    (reachable : world.machine.Reachable setup)
    (happened : world.step? setup incident = some next) : next.Unbroken := by
  obtain ⟨holders, orderly⟩ := reachable.exists_orderly
  refine every_step? happened unbroken ?_ ?_
  · intro command violation broken
    cases broken
  · intro index call books phase trace called step violation broken
    have admitted : ∀ ticket change, call.phase = .inTurn ticket change →
        world.machine.books.registries.admits change.mutation = true :=
      fun ticket change turn => custody.admits orderly called turn
    rcases step.fault? reachable.areSound admitted broken with
      before | ⟨addr, rest, area, ptr, bytes, ticket, -, rfl⟩
    · exact unbroken called violation before
    · exact ⟨area, ptr, rfl⟩

/-! ## The main result -/

/-- A call whose block is not on record is turned down without a backend call, and nothing but the
number of rejected deallocations changes. -/
theorem step?_of_unknown {ptr : Ptr} {area : Area} {given : Size}
    (called : world.machine.calls[index]? = some call)
    (entered : call.phase = .entered (.deallocate ptr.addr given area.space))
    (unknown : ∀ bytes, ⟨area, ptr.addr, bytes⟩ ∉ world.records) :
    ∃ trace, trace.requests = [] ∧ world.step? setup (.move (.advance index)) =
      some (world.goOn index call { world.machine.books with
        tally := { world.machine.books.tally with
          deallocations := world.machine.books.tally.deallocations + 1 } }
        (.finished (.ok (.verdict false))) trace world.ledger) := by
  have absent : (world.machine.books.registries.get area).contains ptr.addr = false := by
    rw [← Bool.not_eq_true, Registry.contains_iff]
    rintro ⟨⟨start, bytes⟩, member, rfl⟩
    exact unknown bytes (Registries.mem_parcels.2 member)
  have refused := Phase.enter_unknown setup given (Registry.sizeOf_eq_zero absent)
  have acts : call.phase.act? setup world.machine.books =
      some (Phase.enter setup (.deallocate ptr.addr given area.space)) := by
    rw [entered]
    rfl
  have moved := Machine.move?_advance called acts
  rw [refused] at moved
  refine ⟨if setup.config.logRejections then
    [.logged (.remarked (.freeOfUnknown ptr.addr area.space))] else [], ?_, ?_⟩
  · split <;> rfl
  · exact step?_of_move? rfl called moved (by rw [entered]; rfl)

structure FreesSoundly (setup : Setup) (world : World) : Prop where
  /-- A backend free is made only of a live block, with its area and its size. -/
  live : ∀ incident next index parcel, world.step? setup incident = some next →
    world.FreeMade next index parcel → parcel ∈ world.ledger.live
  /-- No contract is broken, but for that of a new block which is not found any more. -/
  unbroken : world.Unbroken
  /-- A call whose block is not on record is turned down without a backend call, and nothing but the
  number of rejected deallocations changes. -/
  rejected : ∀ (index : Nat) (call : Call) (ptr : Ptr) (area : Area) (given : Size),
    world.machine.calls[index]? = some call →
    call.phase = .entered (.deallocate ptr.addr given area.space) →
    (∀ bytes, ⟨area, ptr.addr, bytes⟩ ∉ world.records) →
    ∃ trace, trace.requests = [] ∧ world.step? setup (.move (.advance index)) =
      some (world.goOn index call { world.machine.books with
        tally := { world.machine.books.tally with
          deallocations := world.machine.books.tally.deallocations + 1 } }
        (.finished (.ok (.verdict false))) trace world.ledger)
  /-- Once two calls pursue one block, the calls under way can make a free of a block that is not
  live, unless the backend has handed out that very block again. -/
  exact : ∀ incident next, world.step? setup incident = some next → ¬next.Uncontested →
    next.Misfrees setup ∨ ∃ parcel ∈ next.outgoing, parcel ∈ next.incoming

/-- As long as no two calls pursue one block, blocks are freed soundly. -/
theorem freesSoundly_of_uncontested
    (reachable : Reachable setup (fun _ _ next => next.Uncontested) world) :
    world.FreesSoundly setup := by
  obtain ⟨uncontested, settled, custody⟩ := reachable.exists_custody
  refine ⟨?_, ?_, ?_, ?_⟩
  · intro incident next index parcel happened made
    obtain ⟨call, called, role⟩ := made.role happened
    exact custody.mem_live (custody.targets called role)
  · clear uncontested custody
    induction reachable with
    | empty => exact Machine.every_empty
    | step incident before happened calm ih =>
      obtain ⟨-, settled, custody⟩ := before.exists_custody
      exact ih.keep custody before.machine happened
  · intro index call ptr area given
    exact step?_of_unknown
  · intro incident next happened contested
    exact custody.misfrees_of_contested reachable.machine uncontested happened contested

/-- A block is on record, one call has found it, and another is about to look it up. -/
def race : List Incident :=
  [.move (.start (.allocate 8 .host)), .move (.advance 0),
    .move (.grant 0 (.granted ⟨80, by decide⟩)), .move (.advance 0), .move (.advance 0),
    .move (.advance 0), .move (.advance 0),
    .move (.start (.deallocate 80 8 .host)), .move (.start (.deallocate 80 8 .host)),
    .move (.advance 1)]

/-- Up to the second look-up blocks are freed soundly, and from then on the block can be freed
twice. -/
theorem freesSoundly_of_race : ∃ world next,
    runAllowed? (.standard .unchecked) (fun _ _ next => next.Uncontested) {} race = some world ∧
    world.step? (.standard .unchecked) (.move (.advance 2)) = some next ∧
    ¬next.Uncontested ∧ world.FreesSoundly (.standard .unchecked) ∧
    next.Misfrees (.standard .unchecked) := by
  have ran : ((runAllowed? (.standard .unchecked) (fun _ _ next => next.Uncontested) {} race).bind
      fun world => world.step? (.standard .unchecked) (.move (.advance 2))).map
        (fun next => (next.pursued, next.outgoing)) =
          some ({(.host, 80), (.host, 80)}, 0) := by decide +kernel
  obtain ⟨next, steps, shape⟩ := Option.map_eq_some_iff.1 ran
  obtain ⟨world, run, happened⟩ := Option.bind_eq_some_iff.1 steps
  obtain ⟨pursued, outgoing⟩ := Prod.mk.inj shape
  have sound : world.FreesSoundly (.standard .unchecked) :=
    freesSoundly_of_uncontested (Reachable.empty.runAllowed? race run)
  have contested : ¬next.Uncontested := by
    rw [Uncontested, pursued]
    decide
  refine ⟨world, next, run, happened, contested, sound, ?_⟩
  refine (sound.exact _ next happened contested).resolve_right ?_
  rintro ⟨parcel, goes, -⟩
  rw [outgoing] at goes
  exact Multiset.notMem_zero parcel goes

end World

end TrackedMemory
