import TrackedMemory.Proofs.Concurrent.Mutations
import TrackedMemory.Proofs.Manager.Books
import TrackedMemory.Proofs.Registry.Lookup

/-!
# Calls that do not overlap

Between calls that do not overlap the books are settled: the registries are sound, every record has
an address and a size, and no ticket is under way. A call on settled books never waits for its turn
and leaves settled books behind. Each way in which a call can come out has one equation, with its
result, the books and the backend after it, and its trace; later proofs use these equations and do
not open the calls.
-/

namespace TrackedMemory

def Outcome.behind {σ α : Type} (outcome : Outcome σ α) (trace : Trace) : Outcome σ α :=
  { outcome with trace := trace ++ outcome.trace }

namespace Outcome

variable {σ α : Type} {outcome : Outcome σ α} {trace : Trace}

@[simp] theorem result_behind : (outcome.behind trace).result = outcome.result := rfl

@[simp] theorem state_behind : (outcome.behind trace).state = outcome.state := rfl

@[simp] theorem trace_behind : (outcome.behind trace).trace = trace ++ outcome.trace := rfl

end Outcome

namespace Act

variable {σ α γ : Type} {act : Act σ α} {state after : σ} {value : α} {fault : Fault}
  {trace : Trace}

theorem bind_of_ok (done : act state = ⟨.ok value, after, trace⟩) (next : α → Act σ γ) :
    (act >>= next) state = (next value after).behind trace := by
  rw [bind_apply_ok (by rw [done]), done]
  rfl

theorem bind_of_error (broken : act state = ⟨.error fault, after, trace⟩) (next : α → Act σ γ) :
    (act >>= next) state = ⟨.error fault, after, trace⟩ := by
  rw [bind_apply_error (by rw [broken]), broken]

theorem map_apply (act : Act σ α) (wrap : α → γ) (state : σ) :
    (act >>= fun value => pure (wrap value)) state =
      ⟨(act state).result.map wrap, (act state).state, (act state).trace⟩ := by
  cases result : (act state).result with
  | error fault =>
    rw [bind_apply_error result]
    rfl
  | ok value =>
    rw [bind_apply_ok result]
    simp [Except.map]

end Act

namespace Registries

variable {registries : Registries} {area : Area} {ptr : Ptr} {bytes : Size} {mutation : Mutation}

def AreGenuine (registries : Registries) : Prop :=
  ∀ area, ∀ block ∈ (registries.get area).blocks, block.start ≠ 0 ∧ block.size ≠ 0

/-- What a checked build finds wrong when a block is registered: its address is taken in its own
area, or an area that is looked into before has a block there. -/
def breach? (registries : Registries) (area : Area) (ptr : Ptr) (bytes : Size) :
    Option Violation :=
  if (registries.get area).contains ptr.addr then
    some ⟨.precondition, .alreadyRegistered area.space ptr.addr⟩
  else if (registries.apply (.register area ptr bytes)).areaOf? ptr.addr = some area then none
  else some ⟨.postcondition, .blockNotFound area.space ptr.addr⟩

theorem areGenuine_empty : AreGenuine {} := by
  intro area block member
  cases area <;> simp [get] at member

theorem get_apply_register (absent : (registries.get area).contains ptr.addr = false)
    (other : Area) :
    (registries.apply (.register area ptr bytes)).get other =
      if other = area then (registries.get area).insert ⟨ptr.addr, bytes⟩
      else registries.get other := by
  simp [apply, absent]

theorem get_apply_deregister {block : Block}
    (found : (registries.get area).find? ptr.addr = some block) (other : Area) :
    (registries.apply (.deregister area ptr)).get other =
      if other = area then (registries.get area).erase block else registries.get other := by
  simp [apply, found]

/-- What a mutation does to the registry of an area: nothing, or it adds a block at a new address,
or it drops a block that is there. -/
theorem get_apply_cases (registries : Registries) (mutation : Mutation) (area : Area) :
    (registries.apply mutation).get area = registries.get area ∨
      (∃ ptr bytes, mutation = .register area ptr bytes ∧
        (registries.get area).contains ptr.addr = false ∧
        (registries.apply mutation).get area = (registries.get area).insert ⟨ptr.addr, bytes⟩) ∨
      ∃ ptr block, mutation = .deregister area ptr ∧
        (registries.get area).find? ptr.addr = some block ∧
        (registries.apply mutation).get area = (registries.get area).erase block := by
  cases mutation with
  | register own ptr bytes =>
    cases present : (registries.get own).contains ptr.addr with
    | true => exact .inl (by simp [apply, present])
    | false =>
      rw [get_apply_register present]
      by_cases same : area = own
      · subst same
        exact .inr (.inl ⟨ptr, bytes, rfl, present, if_pos rfl⟩)
      · exact .inl (if_neg same)
  | deregister own ptr =>
    cases found : (registries.get own).find? ptr.addr with
    | none => exact .inl (by simp [apply, found])
    | some block =>
      rw [get_apply_deregister found]
      by_cases same : area = own
      · subst same
        exact .inr (.inr ⟨ptr, block, rfl, found, if_pos rfl⟩)
      · exact .inl (if_neg same)
  | nothing => exact .inl rfl

theorem find?_register (sound : registries.AreSound)
    (absent : (registries.get area).contains ptr.addr = false) (other : Area) (addr : Addr) :
    ((registries.apply (.register area ptr bytes)).get other).find? addr =
      if other = area ∧ addr = ptr.addr then some ⟨ptr.addr, bytes⟩
      else (registries.get other).find? addr := by
  have inserted : ((registries.get area).insert ⟨ptr.addr, bytes⟩).find? addr = _ :=
    (sound area).find?_insert absent addr
  rw [get_apply_register absent]
  by_cases same : other = area
  · subst same
    simpa using inserted
  · simp [same]

theorem find?_deregister (sound : registries.AreSound)
    (member : ⟨ptr.addr, bytes⟩ ∈ (registries.get area).blocks) (other : Area) (addr : Addr) :
    ((registries.apply (.deregister area ptr)).get other).find? addr =
      if other = area ∧ addr = ptr.addr then none else (registries.get other).find? addr := by
  have found := (sound area).find?_of_mem member
  have erased := (sound area).find?_erase member addr
  rw [get_apply_deregister found]
  by_cases same : other = area
  · subst same
    simpa using erased
  · simp [same]

/-- A new block is found in its own area unless an area that is looked into before has its
address. -/
theorem areaOf?_register (sound : registries.AreSound)
    (absent : (registries.get area).contains ptr.addr = false) :
    (registries.apply (.register area ptr bytes)).areaOf? ptr.addr = some area ↔
      ∀ other ∈ Area.all.takeWhile (· ≠ area),
        (registries.get other).contains ptr.addr = false := by
  have holds : ∀ other,
      ((registries.apply (.register area ptr bytes)).get other).contains ptr.addr =
        (decide (other = area) || (registries.get other).contains ptr.addr) := by
    intro other
    rw [Registry.contains, find?_register sound absent]
    by_cases same : other = area <;> simp [same, Registry.contains]
  simp only [areaOf?, Area.all, List.find?_cons, holds]
  cases device : (registries.get .device).contains ptr.addr <;>
    cases host : (registries.get .host).contains ptr.addr <;> cases area <;> simp [device, host]

theorem AreGenuine.apply (genuine : registries.AreGenuine)
    (sized : ∀ area ptr bytes, mutation = .register area ptr bytes → bytes ≠ 0) :
    (registries.apply mutation).AreGenuine := by
  intro area kept member
  rcases get_apply_cases registries mutation area with
    same | ⟨ptr, bytes, register, -, added⟩ | ⟨ptr, block, -, -, dropped⟩
  · rw [same] at member
    exact genuine area kept member
  · rw [added] at member
    rcases Registry.mem_insertBlock member with rfl | old
    · exact ⟨ptr.addr_ne_zero, sized area ptr bytes register⟩
    · exact genuine area kept old
  · rw [dropped] at member
    exact genuine area kept (List.mem_filter.1 member).1

end Registries

namespace Books

variable {α : Type} {books : Books} {setup : Setup} {area : Area} {ptr : Ptr} {bytes : Size}

/-- No call is under way. -/
structure IsSettled (books : Books) : Prop where
  sound : books.registries.AreSound
  genuine : books.registries.AreGenuine
  idle : books.sequencer.turn = none
  served : books.sequencer.serving = books.sequencer.issued

/-- The books after a ticket was drawn for a mutation and retired. -/
def settle (books : Books) (mutation : Mutation) : Books :=
  { books with
    registries := books.registries.apply mutation
    sequencer := books.sequencer.draw.retire }

theorem isSettled_empty : IsSettled {} :=
  ⟨Registries.areSound_empty, Registries.areGenuine_empty, rfl, rfl⟩

namespace IsSettled

theorem withTally (settled : books.IsSettled) (tally : Tally) :
    ({ books with tally } : Books).IsSettled :=
  ⟨settled.sound, settled.genuine, settled.idle, settled.served⟩

theorem settle (settled : books.IsSettled) {mutation : Mutation}
    (sized : ∀ area ptr bytes, mutation = .register area ptr bytes → bytes ≠ 0) :
    (books.settle mutation).IsSettled where
  sound := settled.sound.apply mutation
  genuine := settled.genuine.apply sized
  idle := rfl
  served := congrArg (· + 1) settled.served

/-- A ticket drawn from settled books is served at once, and retired however its action ends. -/
theorem inTurn_apply (settled : books.IsSettled) (act : Act Books α) :
    inTurn books.sequencer.issued act { books with sequencer := books.sequencer.draw } =
      let done := act { books with
        sequencer := { books.sequencer.draw with turn := some books.sequencer.issued } }
      ⟨done.result, done.state.retire, done.trace⟩ := by
  have enters : books.sequencer.draw.enter? books.sequencer.issued =
      some { books.sequencer.draw with turn := some books.sequencer.issued } :=
    Sequencer.enter?_eq_some_iff.2 ⟨settled.idle, settled.served, rfl⟩
  have entered : enter books.sequencer.issued { books with sequencer := books.sequencer.draw } =
      ⟨.ok (), { books with
        sequencer := { books.sequencer.draw with turn := some books.sequencer.issued } }, []⟩ := by
    simp [enter, enters]
  rw [inTurn, Act.bind_apply_ok (by rw [entered]), entered]
  rfl

/-- Registering a block in its turn makes the mutation; where the block is there already, a checked
build breaks off and an unchecked build only reports it. -/
theorem inTurn_register (settled : books.IsSettled) (setup : Setup) (area : Area) (ptr : Ptr)
    (bytes : Size) :
    inTurn books.sequencer.issued (register setup area ptr bytes)
        { books with sequencer := books.sequencer.draw } =
      if (books.registries.get area).contains ptr.addr then
        match setup.build with
        | .checked =>
            ⟨.error (.violated ⟨.precondition, .alreadyRegistered area.space ptr.addr⟩),
              books.settle (.register area ptr bytes),
              [.logged (.violated ⟨.precondition, .alreadyRegistered area.space ptr.addr⟩)]⟩
        | .unchecked =>
            ⟨.ok false, books.settle (.register area ptr bytes),
              [.logged (.registerIgnored ptr.addr area.space)]⟩
      else ⟨.ok true, books.settle (.register area ptr bytes), []⟩ := by
  rw [settled.inTurn_apply]
  simp only [register, onRegistry, Act.within_apply, Registry.register_apply _ (settled.sound area)]
  cases present : (books.registries.get area).contains ptr.addr with
  | false => simp [Books.settle, Books.retire, Registries.apply, present, Sequencer.retire]
  | true =>
    cases build : setup.build <;>
      simp [Books.settle, Books.retire, Registries.apply, present, Sequencer.retire, watch, build,
        Registries.set_get]

theorem inTurn_deregister (settled : books.IsSettled) (setup : Setup)
    (member : ⟨ptr.addr, bytes⟩ ∈ (books.registries.get area).blocks) :
    inTurn books.sequencer.issued (deregister setup area ptr.addr)
        { books with sequencer := books.sequencer.draw } =
      ⟨.ok (some bytes), books.settle (.deregister area ptr), []⟩ := by
  have found := (settled.sound area).find?_of_mem member
  rw [settled.inTurn_apply]
  simp only [deregister, onRegistry, Act.within_apply,
    Registry.deregister_apply _ (settled.sound area), found]
  simp [Books.settle, Books.retire, Registries.apply, found, Sequencer.retire]

end IsSettled

/-- What an action on the books leaves of the remarks is nothing unless they are asked for. -/
def remarks (setup : Setup) (reason : Remark) : Trace :=
  if setup.config.logRejections then [.logged (.remarked reason)] else []

theorem refuseAllocation_apply (setup : Setup) (reason : Remark) :
    refuseAllocation setup reason books =
      ⟨.ok (), { books with
        tally := { books.tally with allocations := books.tally.allocations + 1 } },
        remarks setup reason⟩ := by
  simp [refuseAllocation, rejectAllocation, remarks]

theorem refuseDeallocation_apply (setup : Setup) (reason : Remark) :
    refuseDeallocation setup reason books =
      ⟨.ok (), { books with
        tally := { books.tally with deallocations := books.tally.deallocations + 1 } },
        remarks setup reason⟩ := by
  simp [refuseDeallocation, rejectDeallocation, remarks]

theorem refuseCopy_apply (setup : Setup) (reason : Remark) :
    refuseCopy setup reason books =
      ⟨.ok (), { books with tally := { books.tally with copies := books.tally.copies + 1 } },
        remarks setup reason⟩ := by
  simp [refuseCopy, rejectCopy, remarks]

theorem requireFound_apply (setup : Setup) (area : Area) (ptr : Ptr) (found : Option Area) :
    requireFound setup area ptr found books =
      if setup.build = .checked ∧ found ≠ some area then
        ⟨.error (.violated ⟨.postcondition, .blockNotFound area.space ptr.addr⟩), books,
          [.logged (.violated ⟨.postcondition, .blockNotFound area.space ptr.addr⟩)]⟩
      else ⟨.ok (), books, []⟩ := by
  cases build : setup.build with
  | unchecked => simp [requireFound, build]
  | checked =>
    by_cases same : found = some area
    · simp [requireFound, build, same]
    · simp [requireFound, build, same, Build.require, Build.isChecked]

end Books

namespace Site

variable {β α γ : Type} {site : Site β} {books : Books} {trace : Trace} {value : α}
  {fault : Fault}

theorem onBooks_apply {result : Except Fault α} {act : Act Books α}
    (done : act site.books = ⟨result, books, trace⟩) :
    onBooks act site = ⟨result, { site with books }, trace⟩ := by
  rw [onBooks, Act.within_apply, done]

section Ask

variable {request : Request} {block : α → Option Ptr} {answer : β → Reply α × β} {backend : β}
  {failure : Failure} {reason : String}

theorem ask_granted (answered : answer site.backend = (.granted value, backend)) :
    ask request block answer site =
      ⟨.ok (.ok value), { site with backend }, [.called request (.granted (block value))]⟩ := by
  simp [-bind_pure_comp, ask, answered, Reply.map]

theorem ask_refused (answered : answer site.backend = (.refused failure, backend)) :
    ask request block answer site =
      ⟨.ok (.error failure), { site with backend }, [.called request (.refused failure)]⟩ := by
  simp [-bind_pure_comp, ask, answered, Reply.map]

theorem ask_raised (answered : answer site.backend = (.raised reason, backend)) :
    ask request block answer site =
      ⟨.error (.raised reason), { site with backend }, [.called request (.raised reason)]⟩ := by
  simp [-bind_pure_comp, ask, answered, Reply.map]

end Ask

variable [Backend β] {setup : Setup} {bytes : Size} {space : Space} {area : Area} {ptr : Ptr}
  {backend : β} {reason : String} {failure : Failure} {remark : Remark}

/-! ## Allocating -/

theorem allocate_refused (refused : allocationArea bytes space = .error remark) :
    allocate setup bytes space site =
      ⟨.ok none, { site with books := { site.books with
        tally := { site.books.tally with allocations := site.books.tally.allocations + 1 } } },
        Books.remarks setup remark⟩ := by
  rw [allocate, refused]
  refine (Act.bind_of_ok (onBooks_apply (Books.refuseAllocation_apply setup remark)) _).trans ?_
  simp [Outcome.behind]

theorem allocate_failed (accepted : allocationArea bytes space = .ok area)
    (answered : Backend.alloc area.space bytes site.backend = (.refused failure, backend)) :
    allocate setup bytes space site =
      ⟨.ok none, ⟨{ site.books with tally := { site.books.tally with
          allocations := site.books.tally.allocations + 1
          backendFailures := site.books.tally.backendFailures + 1 } }, backend⟩,
        [.called (.alloc area.space bytes) (.refused failure),
          .logged (.backendFailed .allocate failure)]⟩ := by
  rw [allocate, accepted]
  exact Act.bind_of_ok (ask_refused answered) _

theorem allocate_raised (accepted : allocationArea bytes space = .ok area)
    (answered : Backend.alloc area.space bytes site.backend = (.raised reason, backend)) :
    allocate setup bytes space site =
      ⟨.error (.raised reason), { site with backend },
        [.called (.alloc area.space bytes) (.raised reason)]⟩ := by
  rw [allocate, accepted]
  exact Act.bind_of_error (ask_raised answered) _

/-- With what an allocation ends whose block the backend handed out. -/
def granted (setup : Setup) (books : Books) (area : Area) (ptr : Ptr) (bytes : Size) :
    Except Fault (Option Ptr) :=
  match setup.build, books.registries.breach? area ptr bytes with
  | .checked, some violation => .error (.violated violation)
  | _, _ => .ok (some ptr)

def grantedTrace (setup : Setup) (books : Books) (area : Area) (ptr : Ptr) (bytes : Size) :
    Trace :=
  match setup.build, books.registries.breach? area ptr bytes with
  | .checked, some violation => [.logged (.violated violation)]
  | _, _ =>
      (if (books.registries.get area).contains ptr.addr then
        [.logged (.registerIgnored ptr.addr area.space)] else []) ++
      [.logged (.allocated bytes area.space ptr.addr books.sequencer.issued)]

omit [Backend β] in
/-- What comes of a new block once it is registered: a checked build looks it up again. -/
theorem confirm_apply (ticket : Nat) :
    (do
      let found := (← Act.read).books.registries.areaOf? ptr.addr
      onBooks (Books.requireFound setup area ptr found)
      Act.log (.allocated bytes space ptr.addr ticket)
      pure (some ptr) : Act (Site β) (Option Ptr)) site =
      if setup.build = .checked ∧ site.books.registries.areaOf? ptr.addr ≠ some area then
        ⟨.error (.violated ⟨.postcondition, .blockNotFound area.space ptr.addr⟩), site,
          [.logged (.violated ⟨.postcondition, .blockNotFound area.space ptr.addr⟩)]⟩
      else ⟨.ok (some ptr), site, [.logged (.allocated bytes space ptr.addr ticket)]⟩ := by
  have required : Books.requireFound setup area ptr
      (site.books.registries.areaOf? ptr.addr) site.books = _ :=
    Books.requireFound_apply setup area ptr (site.books.registries.areaOf? ptr.addr)
  rw [Act.read_bind_apply]
  by_cases hidden :
      setup.build = .checked ∧ site.books.registries.areaOf? ptr.addr ≠ some area
  · rw [if_pos hidden] at required ⊢
    exact Act.bind_of_error (onBooks_apply required) _
  · rw [if_neg hidden] at required ⊢
    exact Act.bind_of_ok (onBooks_apply required) _

omit [Backend β] in
theorem enroll_apply (site : Site β) (settled : site.books.IsSettled) :
    (do
      let ticket ← onBooks Books.draw
      let _ ← onBooks (Books.inTurn ticket (Books.register setup area ptr bytes))
      let found := (← Act.read).books.registries.areaOf? ptr.addr
      onBooks (Books.requireFound setup area ptr found)
      Act.log (.allocated bytes area.space ptr.addr ticket)
      pure (some ptr) : Act (Site β) (Option Ptr)) site =
      ⟨granted setup site.books area ptr bytes,
        { site with books := site.books.settle (.register area ptr bytes) },
        grantedTrace setup site.books area ptr bytes⟩ := by
  have drawn : Books.draw site.books =
      ⟨.ok site.books.sequencer.issued,
        { site.books with sequencer := site.books.sequencer.draw }, []⟩ := rfl
  have turn := settled.inTurn_register setup area ptr bytes
  rw [Act.bind_of_ok (onBooks_apply drawn)]
  cases present : (site.books.registries.get area).contains ptr.addr with
  | true =>
    cases build : setup.build with
    | checked =>
      simp only [present, build, if_true] at turn
      rw [Act.bind_of_error (onBooks_apply turn)]
      simp [Outcome.behind, granted, grantedTrace, Registries.breach?, present, build]
    | unchecked =>
      simp only [present, build, if_true] at turn
      rw [Act.bind_of_ok (onBooks_apply turn), confirm_apply]
      simp [Outcome.behind, granted, grantedTrace, present, build]
  | false =>
    simp only [present, Bool.false_eq_true, if_false] at turn
    rw [Act.bind_of_ok (onBooks_apply turn), confirm_apply]
    by_cases hidden :
        (site.books.registries.apply (.register area ptr bytes)).areaOf? ptr.addr = some area
    · simp [Outcome.behind, granted, grantedTrace, Registries.breach?, Books.settle, present,
        hidden]
    · cases build : setup.build <;>
        simp [Outcome.behind, granted, grantedTrace, Registries.breach?, Books.settle, present,
          hidden, build]

theorem allocate_granted (settled : site.books.IsSettled)
    (accepted : allocationArea bytes space = .ok area)
    (answered : Backend.alloc area.space bytes site.backend = (.granted ptr, backend)) :
    allocate setup bytes space site =
      ⟨granted setup site.books area ptr bytes,
        ⟨site.books.settle (.register area ptr bytes), backend⟩,
        .called (.alloc area.space bytes) (.granted (some ptr)) ::
          grantedTrace setup site.books area ptr bytes⟩ := by
  obtain ⟨-, rfl⟩ := allocationArea_eq_ok_iff.1 accepted
  rw [allocate, accepted]
  exact (Act.bind_of_ok (ask_granted answered) _).trans
    (congrArg (Outcome.behind · _) (enroll_apply { site with backend } settled))

/-! ## Deallocating -/

theorem deallocate_refused {addr : Addr} (refused : deallocationTarget addr space = .error remark) :
    deallocate setup addr bytes space site =
      ⟨.ok false, { site with books := { site.books with
        tally := { site.books.tally with deallocations := site.books.tally.deallocations + 1 } } },
        Books.remarks setup remark⟩ := by
  rw [deallocate, refused]
  refine (Act.bind_of_ok (onBooks_apply (Books.refuseDeallocation_apply setup remark)) _).trans ?_
  simp [Outcome.behind]

theorem deallocate_unknown (absent : (site.books.registries.get area).contains ptr.addr = false) :
    deallocate setup ptr.addr bytes area.space site =
      ⟨.ok false, { site with books := { site.books with
        tally := { site.books.tally with deallocations := site.books.tally.deallocations + 1 } } },
        Books.remarks setup (.freeOfUnknown ptr.addr area.space)⟩ := by
  have target := deallocationTarget_eq_ok_iff.2 (⟨rfl, rfl⟩ :
    ptr.addr = ptr.addr ∧ area.space = area.space)
  have refused := Books.lookUp_unknown setup bytes (Registry.sizeOf_eq_zero absent)
  rw [deallocate, target]
  refine (Act.bind_of_ok (onBooks_apply refused) _).trans ?_
  simp [Outcome.behind, Books.remarks]

/-- What a deallocation says about a size that is not the registered one. -/
def correction (setup : Setup) (addr : Addr) (registered given : Size) : Trace :=
  if registered = given then [] else Books.remarks setup (.sizeDiffers addr registered given)

/-- A deallocation of a block on record looks its size up and draws a ticket. -/
theorem deallocate_known (settled : site.books.IsSettled) {registered : Size}
    (member : ⟨ptr.addr, registered⟩ ∈ (site.books.registries.get area).blocks) :
    deallocate setup ptr.addr bytes area.space site =
      Outcome.behind ((do
        match ← (askFree area ptr registered).attempt with
        | .error fault => abandonFree site.books.sequencer.issued fault
        | .ok freed =>
            onBooks (Books.settleFree freed)
            let _ ← onBooks (Books.inTurn site.books.sequencer.issued
              (Books.deregister setup area ptr.addr))
            Act.log (.deallocated registered area.space ptr.addr site.books.sequencer.issued)
            pure freed.isOk : Act (Site β) Bool)
          { site with books := { site.books with sequencer := site.books.sequencer.draw } })
        (correction setup ptr.addr registered bytes) := by
  have target := deallocationTarget_eq_ok_iff.2 (⟨rfl, rfl⟩ :
    ptr.addr = ptr.addr ∧ area.space = area.space)
  have size : (site.books.registries.get area).sizeOf ptr.addr = registered := by
    simp [Registry.sizeOf, (settled.sound area).find?_of_mem member]
  have known := Books.lookUp_known setup bytes
    (size ▸ (settled.genuine area _ member).2 :
      (site.books.registries.get area).sizeOf ptr.addr ≠ 0)
  rw [size] at known
  have drawn : Books.draw site.books =
      ⟨.ok site.books.sequencer.issued,
        { site.books with sequencer := site.books.sequencer.draw }, []⟩ := rfl
  rw [deallocate, target]
  refine (Act.bind_of_ok (onBooks_apply known) _).trans ?_
  exact congrArg (Outcome.behind · _) (Act.bind_of_ok (onBooks_apply drawn) _)

theorem deallocate_freed (settled : site.books.IsSettled) {registered : Size}
    (member : ⟨ptr.addr, registered⟩ ∈ (site.books.registries.get area).blocks)
    (answered : Backend.free area.space ptr registered site.backend = (.granted (), backend)) :
    deallocate setup ptr.addr bytes area.space site =
      ⟨.ok true, ⟨site.books.settle (.deregister area ptr), backend⟩,
        correction setup ptr.addr registered bytes ++
          [.called (.free area.space ptr registered) (.granted none),
            .logged (.deallocated registered area.space ptr.addr
              site.books.sequencer.issued)]⟩ := by
  have asked : askFree area ptr registered
      { site with books := { site.books with sequencer := site.books.sequencer.draw } } = _ :=
    ask_granted answered
  have turn := settled.inTurn_deregister setup member
  rw [deallocate_known settled member, Act.attempt_bind_apply, asked]
  simp only [Books.settleFree]
  rw [Act.bind_of_ok (onBooks_apply (Act.pure_apply _ _)), Act.bind_of_ok (onBooks_apply turn)]
  rfl

/-- A deallocation whose free the backend answers with an error: the record is dropped as well. -/
theorem deallocate_failed (settled : site.books.IsSettled) {registered : Size}
    (member : ⟨ptr.addr, registered⟩ ∈ (site.books.registries.get area).blocks)
    (answered : Backend.free area.space ptr registered site.backend = (.refused failure, backend)) :
    deallocate setup ptr.addr bytes area.space site =
      ⟨.ok false, ⟨{ site.books.settle (.deregister area ptr) with tally := { site.books.tally with
          backendFailures := site.books.tally.backendFailures + 1 } }, backend⟩,
        correction setup ptr.addr registered bytes ++
          [.called (.free area.space ptr registered) (.refused failure),
            .logged (.backendFailed .deallocate failure),
            .logged (.deallocated registered area.space ptr.addr
              site.books.sequencer.issued)]⟩ := by
  have asked : askFree area ptr registered
      { site with books := { site.books with sequencer := site.books.sequencer.draw } } = _ :=
    ask_refused answered
  have turn := (settled.withTally { site.books.tally with
    backendFailures := site.books.tally.backendFailures + 1 }).inTurn_deregister setup member
  rw [deallocate_known settled member, Act.attempt_bind_apply, asked]
  simp only [Books.settleFree]
  rw [Act.bind_of_ok (onBooks_apply rfl), Act.bind_of_ok (onBooks_apply turn)]
  rfl

/-- A deallocation during whose free the backend breaks off: the ticket is retired all the same and
the record is kept. -/
theorem deallocate_raised (settled : site.books.IsSettled) {registered : Size}
    (member : ⟨ptr.addr, registered⟩ ∈ (site.books.registries.get area).blocks)
    (answered : Backend.free area.space ptr registered site.backend = (.raised reason, backend)) :
    deallocate setup ptr.addr bytes area.space site =
      ⟨.error (.raised reason), ⟨site.books.settle .nothing, backend⟩,
        correction setup ptr.addr registered bytes ++
          [.called (.free area.space ptr registered) (.raised reason),
            .logged (.abandoned site.books.sequencer.issued)]⟩ := by
  have asked : askFree area ptr registered
      { site with books := { site.books with sequencer := site.books.sequencer.draw } } = _ :=
    ask_raised answered
  have turn := settled.inTurn_apply (pure () : Act Books Unit)
  rw [deallocate_known settled member, Act.attempt_bind_apply, asked]
  simp only [abandonFree, Act.log_bind_apply]
  rw [Act.bind_of_ok (onBooks_apply turn)]
  rfl

end Site

/-! ## Copying -/

def Books.transferOf (books : Books) (request : CopyRequest) : Except Remark Transfer :=
  match request.transfer? with
  | none => .error .copyOfNull
  | some transfer =>
      match if request.outside then none else books.uncovered? transfer with
      | some side => .error (transfer.unknownEnd side)
      | none => .ok transfer

namespace Site

variable {β : Type} [Backend β] {site : Site β} {setup : Setup} {request : CopyRequest}
  {transfer : Transfer} {backend : β} {reason : String} {failure : Failure} {remark : Remark}

theorem copy_nothing (nothing : request.bytes = 0) :
    copy setup request site = ⟨.ok true, site, []⟩ := by
  simp [copy, nothing]

theorem copy_refused (positive : request.bytes ≠ 0)
    (refused : site.books.transferOf request = .error remark) :
    copy setup request site =
      ⟨.ok false, { site with books := { site.books with
        tally := { site.books.tally with copies := site.books.tally.copies + 1 } } },
        Books.remarks setup remark⟩ := by
  have noted : onBooks (Books.refuseCopy setup remark) site = _ :=
    onBooks_apply (Books.refuseCopy_apply setup remark)
  simp only [Books.transferOf] at refused
  simp only [copy, positive, if_false]
  cases named : request.transfer? with
  | none =>
    rw [named] at refused
    cases refused
    exact (Act.bind_of_ok noted _).trans (by simp [Outcome.behind])
  | some transfer =>
    simp only [named] at refused
    simp only [Act.read_bind_apply]
    cases objected : if request.outside then none else site.books.uncovered? transfer with
    | some side =>
      rw [objected] at refused
      cases refused
      exact (Act.bind_of_ok noted _).trans (by simp [Outcome.behind])
    | none =>
      rw [objected] at refused
      cases refused

theorem copy_accepted (positive : request.bytes ≠ 0)
    (accepted : site.books.transferOf request = .ok transfer) :
    copy setup request site = Site.transfer transfer site := by
  simp only [Books.transferOf] at accepted
  simp only [copy, positive, if_false]
  cases named : request.transfer? with
  | none =>
    rw [named] at accepted
    cases accepted
  | some asked =>
    simp only [named] at accepted
    simp only [Act.read_bind_apply]
    cases objected : if request.outside then none else site.books.uncovered? asked with
    | some side =>
      rw [objected] at accepted
      cases accepted
    | none =>
      rw [objected] at accepted
      cases accepted
      rfl

theorem copy_granted (positive : request.bytes ≠ 0)
    (accepted : site.books.transferOf request = .ok transfer)
    (answered : Backend.copy transfer site.backend = (.granted (), backend)) :
    copy setup request site =
      ⟨.ok true, { site with backend }, [.called (.copy transfer) (.granted none)]⟩ := by
  rw [copy_accepted positive accepted, Site.transfer]
  exact Act.bind_of_ok (ask_granted answered) _

theorem copy_failed (positive : request.bytes ≠ 0)
    (accepted : site.books.transferOf request = .ok transfer)
    (answered : Backend.copy transfer site.backend = (.refused failure, backend)) :
    copy setup request site =
      ⟨.ok false, ⟨{ site.books with tally := { site.books.tally with
          copies := site.books.tally.copies + 1
          backendFailures := site.books.tally.backendFailures + 1 } }, backend⟩,
        [.called (.copy transfer) (.refused failure),
          .logged (.backendFailed .copy failure)]⟩ := by
  rw [copy_accepted positive accepted, Site.transfer]
  exact Act.bind_of_ok (ask_refused answered) _

theorem copy_raised (positive : request.bytes ≠ 0)
    (accepted : site.books.transferOf request = .ok transfer)
    (answered : Backend.copy transfer site.backend = (.raised reason, backend)) :
    copy setup request site =
      ⟨.error (.raised reason), { site with backend },
        [.called (.copy transfer) (.raised reason)]⟩ := by
  rw [copy_accepted positive accepted, Site.transfer]
  exact Act.bind_of_error (ask_raised answered) _

end Site

/-! ## Commands -/

theorem Books.query_state (setup : Setup) (query : Query) (books : Books) :
    (Books.query setup query books).state = books := by
  cases query with
  | sizeOf addr => simp [Books.query, Books.answerSize_apply]
  | allocationCount space => simp [Books.query, Books.answerCount_apply]
  | deallocationCount space => simp [Books.query, Books.answerCount_apply]
  | totalLiveBytes =>
    simp only [Books.query, Act.read_bind_apply]
    cases books.statistics.totalLiveBytes? setup.build <;> rfl
  | _ => rfl

namespace Site

variable {β : Type} [Backend β]

/-- Everything that a command can do at a site with settled books. -/
inductive Runs (setup : Setup) (site : Site β) : Command → Outcome (Site β) Answer → Prop where
  | allocateRefused {bytes : Size} {space : Space} (remark : Remark)
      (refused : allocationArea bytes space = .error remark) :
      Runs setup site (.allocate bytes space)
        ⟨.ok (.block none), { site with books := { site.books with
          tally := { site.books.tally with allocations := site.books.tally.allocations + 1 } } },
          Books.remarks setup remark⟩
  | allocateFailed {bytes : Size} (area : Area) (failure : Failure) (backend : β)
      (positive : bytes ≠ 0)
      (answered : Backend.alloc area.space bytes site.backend = (.refused failure, backend)) :
      Runs setup site (.allocate bytes area.space)
        ⟨.ok (.block none), ⟨{ site.books with tally := { site.books.tally with
            allocations := site.books.tally.allocations + 1
            backendFailures := site.books.tally.backendFailures + 1 } }, backend⟩,
          [.called (.alloc area.space bytes) (.refused failure),
            .logged (.backendFailed .allocate failure)]⟩
  | allocateRaised {bytes : Size} (area : Area) (reason : String) (backend : β)
      (positive : bytes ≠ 0)
      (answered : Backend.alloc area.space bytes site.backend = (.raised reason, backend)) :
      Runs setup site (.allocate bytes area.space)
        ⟨.error (.raised reason), { site with backend },
          [.called (.alloc area.space bytes) (.raised reason)]⟩
  | allocateGranted {bytes : Size} (area : Area) (ptr : Ptr) (backend : β)
      (positive : bytes ≠ 0)
      (answered : Backend.alloc area.space bytes site.backend = (.granted ptr, backend)) :
      Runs setup site (.allocate bytes area.space)
        ⟨(granted setup site.books area ptr bytes).map .block,
          ⟨site.books.settle (.register area ptr bytes), backend⟩,
          .called (.alloc area.space bytes) (.granted (some ptr)) ::
            grantedTrace setup site.books area ptr bytes⟩
  | deallocateRefused {addr : Addr} {bytes : Size} {space : Space} (remark : Remark)
      (refused : deallocationTarget addr space = .error remark) :
      Runs setup site (.deallocate addr bytes space)
        ⟨.ok (.verdict false), { site with books := { site.books with
          tally := { site.books.tally with
            deallocations := site.books.tally.deallocations + 1 } } },
          Books.remarks setup remark⟩
  | deallocateUnknown {bytes : Size} (area : Area) (ptr : Ptr)
      (absent : (site.books.registries.get area).contains ptr.addr = false) :
      Runs setup site (.deallocate ptr.addr bytes area.space)
        ⟨.ok (.verdict false), { site with books := { site.books with
          tally := { site.books.tally with
            deallocations := site.books.tally.deallocations + 1 } } },
          Books.remarks setup (.freeOfUnknown ptr.addr area.space)⟩
  | deallocateFreed {bytes : Size} (area : Area) (ptr : Ptr) (registered : Size) (backend : β)
      (member : ⟨ptr.addr, registered⟩ ∈ (site.books.registries.get area).blocks)
      (answered : Backend.free area.space ptr registered site.backend =
        (.granted (), backend)) :
      Runs setup site (.deallocate ptr.addr bytes area.space)
        ⟨.ok (.verdict true), ⟨site.books.settle (.deregister area ptr), backend⟩,
          correction setup ptr.addr registered bytes ++
            [.called (.free area.space ptr registered) (.granted none),
              .logged (.deallocated registered area.space ptr.addr
                site.books.sequencer.issued)]⟩
  | deallocateFailed {bytes : Size} (area : Area) (ptr : Ptr) (registered : Size)
      (failure : Failure) (backend : β)
      (member : ⟨ptr.addr, registered⟩ ∈ (site.books.registries.get area).blocks)
      (answered : Backend.free area.space ptr registered site.backend =
        (.refused failure, backend)) :
      Runs setup site (.deallocate ptr.addr bytes area.space)
        ⟨.ok (.verdict false),
          ⟨{ site.books.settle (.deregister area ptr) with tally := { site.books.tally with
            backendFailures := site.books.tally.backendFailures + 1 } }, backend⟩,
          correction setup ptr.addr registered bytes ++
            [.called (.free area.space ptr registered) (.refused failure),
              .logged (.backendFailed .deallocate failure),
              .logged (.deallocated registered area.space ptr.addr
                site.books.sequencer.issued)]⟩
  | deallocateRaised {bytes : Size} (area : Area) (ptr : Ptr) (registered : Size)
      (reason : String) (backend : β)
      (member : ⟨ptr.addr, registered⟩ ∈ (site.books.registries.get area).blocks)
      (answered : Backend.free area.space ptr registered site.backend =
        (.raised reason, backend)) :
      Runs setup site (.deallocate ptr.addr bytes area.space)
        ⟨.error (.raised reason), ⟨site.books.settle .nothing, backend⟩,
          correction setup ptr.addr registered bytes ++
            [.called (.free area.space ptr registered) (.raised reason),
              .logged (.abandoned site.books.sequencer.issued)]⟩
  | copyNothing {request : CopyRequest} (nothing : request.bytes = 0) :
      Runs setup site (.copy request) ⟨.ok (.verdict true), site, []⟩
  | copyRefused {request : CopyRequest} (remark : Remark) (positive : request.bytes ≠ 0)
      (refused : site.books.transferOf request = .error remark) :
      Runs setup site (.copy request)
        ⟨.ok (.verdict false), { site with books := { site.books with
          tally := { site.books.tally with copies := site.books.tally.copies + 1 } } },
          Books.remarks setup remark⟩
  | copyGranted {request : CopyRequest} (transfer : Transfer) (backend : β)
      (positive : request.bytes ≠ 0)
      (accepted : site.books.transferOf request = .ok transfer)
      (answered : Backend.copy transfer site.backend = (.granted (), backend)) :
      Runs setup site (.copy request)
        ⟨.ok (.verdict true), { site with backend },
          [.called (.copy transfer) (.granted none)]⟩
  | copyFailed {request : CopyRequest} (transfer : Transfer) (failure : Failure) (backend : β)
      (positive : request.bytes ≠ 0)
      (accepted : site.books.transferOf request = .ok transfer)
      (answered : Backend.copy transfer site.backend = (.refused failure, backend)) :
      Runs setup site (.copy request)
        ⟨.ok (.verdict false), ⟨{ site.books with tally := { site.books.tally with
            copies := site.books.tally.copies + 1
            backendFailures := site.books.tally.backendFailures + 1 } }, backend⟩,
          [.called (.copy transfer) (.refused failure), .logged (.backendFailed .copy failure)]⟩
  | copyRaised {request : CopyRequest} (transfer : Transfer) (reason : String) (backend : β)
      (positive : request.bytes ≠ 0)
      (accepted : site.books.transferOf request = .ok transfer)
      (answered : Backend.copy transfer site.backend = (.raised reason, backend)) :
      Runs setup site (.copy request)
        ⟨.error (.raised reason), { site with backend },
          [.called (.copy transfer) (.raised reason)]⟩
  | query (query : Query) :
      Runs setup site (.query query)
        ⟨(Books.query setup query site.books).result, site,
          (Books.query setup query site.books).trace⟩

variable {site : Site β} {setup : Setup}

theorem runs_of_eq {command : Command} {α : Type} {act : Act (Site β) α} {wrap : α → Answer}
    {outcome : Outcome (Site β) α} (wrapped : run setup command = do return wrap (← act))
    (done : act site = outcome)
    (runs : Runs setup site command ⟨outcome.result.map wrap, outcome.state, outcome.trace⟩) :
    Runs setup site command (run setup command site) := by
  rw [wrapped, Act.map_apply, done]
  exact runs

theorem runs_allocate (settled : site.books.IsSettled) (bytes : Size) (space : Space) :
    Runs setup site (.allocate bytes space) (run setup (.allocate bytes space) site) := by
  cases accepted : allocationArea bytes space with
  | error remark =>
    exact runs_of_eq rfl (allocate_refused accepted) (.allocateRefused remark accepted)
  | ok area =>
    obtain ⟨positive, rfl⟩ := allocationArea_eq_ok_iff.1 accepted
    cases answered : Backend.alloc area.space bytes site.backend with
    | mk reply backend =>
      cases reply with
      | granted ptr =>
        exact runs_of_eq rfl (allocate_granted settled accepted answered)
          (.allocateGranted area ptr backend positive answered)
      | refused failure =>
        exact runs_of_eq rfl (allocate_failed accepted answered)
          (.allocateFailed area failure backend positive answered)
      | raised reason =>
        exact runs_of_eq rfl (allocate_raised accepted answered)
          (.allocateRaised area reason backend positive answered)

theorem runs_deallocate (settled : site.books.IsSettled) (addr : Addr) (bytes : Size)
    (space : Space) :
    Runs setup site (.deallocate addr bytes space)
      (run setup (.deallocate addr bytes space) site) := by
  cases target : deallocationTarget addr space with
  | error remark =>
    exact runs_of_eq rfl (deallocate_refused target) (.deallocateRefused remark target)
  | ok pair =>
    obtain ⟨ptr, area⟩ := pair
    obtain ⟨rfl, rfl⟩ := deallocationTarget_eq_ok_iff.1 target
    cases found : (site.books.registries.get area).find? ptr.addr with
    | none =>
      have absent : (site.books.registries.get area).contains ptr.addr = false := by
        simp [Registry.contains, found]
      exact runs_of_eq rfl (deallocate_unknown absent) (.deallocateUnknown area ptr absent)
    | some block =>
      obtain ⟨start, registered⟩ := block
      obtain ⟨member, rfl⟩ := (settled.sound area).find?_eq_some_iff.1 found
      cases answered : Backend.free area.space ptr registered site.backend with
      | mk reply backend =>
        cases reply with
        | granted value =>
          exact runs_of_eq rfl (deallocate_freed settled member answered)
            (.deallocateFreed area ptr registered backend member answered)
        | refused failure =>
          exact runs_of_eq rfl (deallocate_failed settled member answered)
            (.deallocateFailed area ptr registered failure backend member answered)
        | raised reason =>
          exact runs_of_eq rfl (deallocate_raised settled member answered)
            (.deallocateRaised area ptr registered reason backend member answered)

theorem runs_copy (request : CopyRequest) :
    Runs setup site (.copy request) (run setup (.copy request) site) := by
  by_cases positive : request.bytes = 0
  · exact runs_of_eq rfl (copy_nothing positive) (.copyNothing positive)
  · cases accepted : site.books.transferOf request with
    | error remark =>
      exact runs_of_eq rfl (copy_refused positive accepted)
        (.copyRefused remark positive accepted)
    | ok transfer =>
      cases answered : Backend.copy transfer site.backend with
      | mk reply backend =>
        cases reply with
        | granted value =>
          exact runs_of_eq rfl (copy_granted positive accepted answered)
            (.copyGranted transfer backend positive accepted answered)
        | refused failure =>
          exact runs_of_eq rfl (copy_failed positive accepted answered)
            (.copyFailed transfer failure backend positive accepted answered)
        | raised reason =>
          exact runs_of_eq rfl (copy_raised positive accepted answered)
            (.copyRaised transfer reason backend positive accepted answered)

/-- Every command on settled books comes out in one of these ways. -/
theorem runs (settled : site.books.IsSettled) (command : Command) :
    Runs setup site command (run setup command site) := by
  cases command with
  | allocate bytes space => exact runs_allocate settled bytes space
  | deallocate addr bytes space => exact runs_deallocate settled addr bytes space
  | copy request => exact runs_copy request
  | query query =>
    have done : run setup (.query query) site =
        ⟨(Books.query setup query site.books).result, site,
          (Books.query setup query site.books).trace⟩ := by
      simp only [run, onBooks, Act.within_apply, Books.query_state]
    rw [done]
    exact .query query

theorem Runs.isSettled {command : Command} {outcome : Outcome (Site β) Answer}
    (runs : Runs setup site command outcome) (settled : site.books.IsSettled) :
    outcome.state.books.IsSettled := by
  cases runs with
  | allocateRefused | allocateFailed | deallocateRefused | deallocateUnknown | copyRefused
  | copyFailed => exact settled.withTally _
  | allocateRaised | copyNothing | copyGranted | copyRaised | query => exact settled
  | allocateGranted area ptr backend positive =>
    refine settled.settle fun other here size same => ?_
    cases same
    exact positive
  | deallocateFreed | deallocateRaised => exact settled.settle (by simp)
  | deallocateFailed => exact (settled.settle (by simp)).withTally _

end Site

end TrackedMemory
