import TrackedMemory.Concurrent.Machine
import TrackedMemory.Proofs.Concurrent.Mutations
import TrackedMemory.Proofs.Manager.Books

/-!
# The steps of a call

`Phase.Step` lists what one step of one call can do, to the books and to its phase, the answers of
the backend included. A phase is aside if its call has no ticket and no block in hand; a step from
one such phase to another touches neither a registry nor the sequencer, and all of them are one
case. `Machine.move?_cases` reads every move of a machine as the start of a call or as one step.
-/

namespace TrackedMemory

/-- Whether a mutation is one that a call with this command may be committed to. -/
def Mutation.Serves : Mutation → Command → Prop
  | .register area _ bytes, command => command = .allocate bytes area.space
  | .deregister area ptr, command => ∃ given, command = .deallocate ptr.addr given area.space
  | .nothing, command => ∃ addr given space, command = .deallocate addr given space

theorem Registries.length_candidates_le (space : Space) : (candidates space).length ≤ 2 := by
  cases space <;> decide

theorem Query.length_areas_le (query : Query) : query.areas.length ≤ 3 := by
  cases query with
  | allocationCount space | deallocationCount space | liveCount space | liveBytes space =>
    cases space <;> decide
  | _ => simp [areas, Area.all]

namespace Phase

/-- Whether a call in this phase has neither a ticket nor a block in hand. -/
def isAside : Phase → Bool
  | .granted .. | .found .. | .inFree .. | .queued .. | .inTurn .. | .changed ..
  | .searching _ _ (.confirm ..) => false
  | _ => true

def ticket? : Phase → Option Nat
  | .inFree ticket .. | .queued ticket _ | .inTurn ticket _ | .changed ticket .. => some ticket
  | _ => none

/-- Whether a phase is none in which a call hands out a block or reports a broken contract. -/
def isPlain : Phase → Bool
  | .finished (.ok (.block (some _))) | .finished (.error (.violated _)) => false
  | _ => true

/-- Whether a call with this command may come into a phase. -/
def Serves : Phase → Command → Prop
  | .entered begun, command => command = begun
  | .inAlloc area bytes, command => bytes ≠ 0 ∧ command = .allocate bytes area.space
  | .granted area _ bytes, command | .searching _ _ (.confirm area _ bytes _), command =>
      command = .allocate bytes area.space
  | .found area ptr _, command | .inFree _ area ptr _, command =>
      ∃ given, command = .deallocate ptr.addr given area.space
  | .queued _ change, command | .inTurn _ change, command | .changed _ change _, command =>
      change.mutation.Serves command
  | .searching .., command | .measuring .., command | .surveying .., command =>
      ∃ query, command = .query query
  | .checking .., command | .inCopy _, command => ∃ request, command = .copy request
  | .finished _, _ => True

structure Passes (phase next : Phase) : Prop where
  before : phase.isAside
  after : next.isAside
  plain : next.isPlain
  serves : ∀ command, phase.Serves command → next.Serves command
  sooner : next.stepsLeft < phase.stepsLeft

theorem Passes.finish {phase : Phase} {result : Except Fault Answer} (before : phase.isAside)
    (pending : 0 < phase.stepsLeft) (plain : (finished result).isPlain) :
    phase.Passes (.finished result) :=
  ⟨before, rfl, plain, fun _ _ => trivial, pending⟩

def afterTurn (setup : Setup) (ticket : Nat) : Change → Except Fault Unit → Phase
  | _, .error fault => .finished (.error fault)
  | .register area ptr bytes, .ok () =>
      if setup.build.isChecked then
        .searching ptr.addr Area.all (.confirm area ptr bytes ticket)
      else .finished (.ok (.block ptr))
  | .deregister _ _ _ freed, .ok () => .finished (.ok (.verdict freed))
  | .nothing fault, .ok () => .finished (.error fault)

/-- The phase in which a call ends whose new block was found in an area, or in none. -/
def afterSearch (setup : Setup) (area : Area) (ptr : Ptr) (found : Option Area) : Phase :=
  if setup.build.isChecked && found != some area then
    .finished (.error (.violated ⟨.postcondition, .blockNotFound area.space ptr.addr⟩))
  else .finished (.ok (.block ptr))

end Phase

namespace Call

theorem isFinished_iff (call : Call) :
    call.isFinished = true ↔ ∃ result, call.phase = .finished result := by
  unfold isFinished
  split
  next result ends => exact iff_of_true rfl ⟨result, ends⟩
  next pending => exact iff_of_false Bool.false_ne_true fun ⟨result, ends⟩ => pending result ends

theorem isFinished_iff_stepsLeft (call : Call) :
    call.isFinished = true ↔ call.phase.stepsLeft = 0 := by
  rw [isFinished_iff]
  constructor
  · rintro ⟨result, ends⟩
    rw [ends]
    rfl
  · intro none
    cases phase : call.phase with
    | finished result => exact ⟨result, rfl⟩
    | checking transfer side => cases side <;> simp [phase, Phase.stepsLeft] at none
    | _ => simp [phase, Phase.stepsLeft] at none

end Call

/-- The mutation that a backend call and its answer commit the caller to. -/
def Deed.mutation? : Deed → Option Mutation
  | .called (.alloc space bytes) (.granted (some ptr)) =>
      space.area?.map fun area => .register area ptr bytes
  | .called (.free _ _ _) (.raised _) => some .nothing
  | .called (.free space ptr _) _ => space.area?.map fun area => .deregister area ptr
  | _ => none

def Trace.mutation? (trace : Trace) : Option Mutation :=
  trace.findSome? Deed.mutation?

namespace Trace

@[simp] theorem mutation?_nil : Trace.mutation? [] = none := rfl

theorem mutation?_append (first second : Trace) :
    Trace.mutation? (first ++ second) = first.mutation?.or second.mutation? :=
  List.findSome?_append

@[simp] theorem mutation?_remark (setup : Setup) (reason : Remark) :
    Trace.mutation? (if setup.config.logRejections then [.logged (.remarked reason)] else []) =
      none := by
  split <;> rfl

end Trace

namespace Phase

/-- One step of a call: the books and the phase before it, those after it, and what it leaves in
the trace. -/
inductive Step (setup : Setup) : Books → Phase → Books → Phase → Trace → Prop where
  /-- Nothing but the tally changes. -/
  | aside {books : Books} {phase next : Phase} {trace : Trace} (tally : Tally)
      (passes : phase.Passes next) (silent : trace.mutation? = none) :
      Step setup books phase { books with tally } next trace
  /-- The backend hands out a block. -/
  | granted {books : Books} (area : Area) (ptr : Ptr) (bytes : Size) :
      Step setup books (.inAlloc area bytes) books (.granted area ptr bytes)
        [.called (.alloc area.space bytes) (.granted (some ptr))]
  /-- The call that has a new block draws its ticket. -/
  | drawToRegister {books : Books} (area : Area) (ptr : Ptr) (bytes : Size) :
      Step setup books (.granted area ptr bytes)
        { books with sequencer := books.sequencer.draw }
        (.queued books.sequencer.issued (.register area ptr bytes)) []
  /-- The block to be freed is on record. -/
  | found {books : Books} {trace : Trace} (area : Area) (ptr : Ptr) (given bytes : Size)
      (known : ⟨ptr.addr, bytes⟩ ∈ (books.registries.get area).blocks)
      (silent : trace.mutation? = none) :
      Step setup books (.entered (.deallocate ptr.addr given area.space)) books
        (.found area ptr bytes) trace
  /-- The call that is to free a block draws its ticket. -/
  | drawToFree {books : Books} (area : Area) (ptr : Ptr) (bytes : Size) :
      Step setup books (.found area ptr bytes)
        { books with sequencer := books.sequencer.draw }
        (.inFree books.sequencer.issued area ptr bytes) []
  /-- The backend comes back from a free, with an error or without. -/
  | freed {books : Books} {trace : Trace} (tally : Tally) (ticket : Nat) (area : Area) (ptr : Ptr)
      (bytes : Size) (done : Bool)
      (committed : trace.mutation? = some (.deregister area ptr)) :
      Step setup books (.inFree ticket area ptr bytes) { books with tally }
        (.queued ticket (.deregister area ptr bytes done)) trace
  /-- The backend breaks off while it frees a block. -/
  | freeRaised {books : Books} {trace : Trace} (ticket : Nat) (area : Area) (ptr : Ptr)
      (bytes : Size) (reason : String) (committed : trace.mutation? = some .nothing) :
      Step setup books (.inFree ticket area ptr bytes) books
        (.queued ticket (.nothing (.raised reason))) trace
  /-- The call takes its turn. -/
  | enter {books : Books} (ticket : Nat) (change : Change) (free : books.sequencer.turn = none)
      (served : books.sequencer.serving = ticket) :
      Step setup books (.queued ticket change)
        { books with sequencer := { books.sequencer with turn := some ticket } }
        (.inTurn ticket change) []
  /-- The call makes its change, or breaks off while it does. -/
  | change {books : Books} (ticket : Nat) (change : Change) :
      Step setup books (.inTurn ticket change) (change.apply setup books).state
        (.changed ticket change (change.apply setup books).result)
        (change.apply setup books).trace
  /-- The call retires its ticket. -/
  | leave {books : Books} {trace : Trace} (ticket : Nat) (change : Change)
      (result : Except Fault Unit) (silent : trace.mutation? = none) :
      Step setup books (.changed ticket change result) books.retire
        (afterTurn setup ticket change result) trace
  /-- A block is found in the area that is looked into. -/
  | confirm {books : Books} {addr : Addr} {rest : List Area} {trace : Trace} (here : Area)
      (area : Area) (ptr : Ptr) (bytes : Size) (ticket : Nat)
      (present : (books.registries.get here).contains addr = true)
      (silent : trace.mutation? = none) :
      Step setup books (.searching addr (here :: rest) (.confirm area ptr bytes ticket)) books
        (afterSearch setup area ptr here) trace
  /-- A new block was found in no area. -/
  | miss {books : Books} {addr : Addr} {rest : List Area} {trace : Trace} (area : Area)
      (ptr : Ptr) (bytes : Size) (ticket : Nat)
      (absent : ∀ here ∈ rest, (books.registries.get here).contains addr = false)
      (silent : trace.mutation? = none) :
      Step setup books (.searching addr rest (.confirm area ptr bytes ticket)) books
        (afterSearch setup area ptr none) trace
  /-- A new block is not found in the area that is looked into, and the next one is at hand. -/
  | passOver {books : Books} {addr : Addr} {rest : List Area} (here : Area) (area : Area)
      (ptr : Ptr) (bytes : Size) (ticket : Nat)
      (absent : (books.registries.get here).contains addr = false) :
      Step setup books (.searching addr (here :: rest) (.confirm area ptr bytes ticket)) books
        (.searching addr rest (.confirm area ptr bytes ticket)) []

end Phase

namespace Phase

variable {setup : Setup} {books : Books} {phase : Phase}

theorem query_plain (setup : Setup) (query : Query) (books : Books) :
    (Phase.finished (Books.query setup query books).result).isPlain := by
  cases query with
  | sizeOf addr => simp [Books.query, Books.answerSize_apply, isPlain]
  | allocationCount space => simp [Books.query, Books.answerCount_apply, isPlain]
  | deallocationCount space => simp [Books.query, Books.answerCount_apply, isPlain]
  | totalLiveBytes =>
    simp only [Books.query, Act.read_bind_apply]
    cases books.statistics.totalLiveBytes? setup.build <;> rfl
  | _ => rfl

theorem query_silent (setup : Setup) (query : Query) (books : Books) :
    (Books.query setup query books).trace.mutation? = none := by
  cases query with
  | sizeOf addr =>
    simp only [Books.query, Act.read_bind_apply, Books.answerSize_apply]
    split <;> simp
  | allocationCount space =>
    simp only [Books.query, Act.read_bind_apply, Books.answerCount_apply]
    split <;> simp
  | deallocationCount space =>
    simp only [Books.query, Act.read_bind_apply, Books.answerCount_apply]
    split <;> simp
  | totalLiveBytes =>
    simp only [Books.query, Act.read_bind_apply]
    cases books.statistics.totalLiveBytes? setup.build <;> rfl
  | _ => rfl

def Steps (setup : Setup) (books : Books) (phase : Phase) (act : Act Books Phase) : Prop :=
  Step setup books phase (act books).state (Machine.landing (act books).result)
    (act books).trace

theorem Steps.of_aside {act : Act Books Phase} {next : Phase} {tally : Tally} {trace : Trace}
    (done : act books = ⟨.ok next, { books with tally }, trace⟩) (passes : phase.Passes next)
    (silent : trace.mutation? = none) : Steps setup books phase act := by
  rw [Steps, done]
  exact .aside tally passes silent

theorem Steps.of_pure {next : Phase} (passes : phase.Passes next) :
    Steps setup books phase (pure next) :=
  .aside books.tally passes rfl

theorem refuse_apply (setup : Setup) (books : Books) (count : Tally → Tally) (reason : Remark)
    (answer : Answer) :
    (do
      Books.count count
      Books.remark setup reason
      pure (finished (.ok answer))) books =
      ⟨.ok (.finished (.ok answer)), { books with tally := count books.tally },
        if setup.config.logRejections then [.logged (.remarked reason)] else []⟩ := by
  simp [-bind_pure_comp]

theorem steps_refuse (count : Tally → Tally) (reason : Remark) {answer : Answer}
    (passes : phase.Passes (.finished (.ok answer))) :
    Steps setup books phase (do
      Books.count count
      Books.remark setup reason
      pure (.finished (.ok answer))) :=
  .of_aside (refuse_apply setup books count reason answer) passes
    (Trace.mutation?_remark setup reason)

/-- A look-up either finds the record of the block or leads to a refusal. -/
theorem steps_lookUp (area : Area) (ptr : Ptr) (given : Size) :
    Steps setup books (.entered (.deallocate ptr.addr given area.space)) (do
      match ← Books.lookUp setup area ptr given with
      | none => pure (.finished (.ok (.verdict false)))
      | some registered => pure (.found area ptr registered)) := by
  by_cases unknown : (books.registries.get area).sizeOf ptr.addr = 0
  · have refused := Books.lookUp_unknown setup given unknown
    rw [Steps, Act.bind_apply_ok (by rw [refused]), refused]
    exact .aside _ (.finish rfl (Nat.zero_lt_succ _) rfl) (by simp)
  · have known := Registry.mem_of_sizeOf_ne_zero unknown
    have seen := Books.lookUp_known setup given unknown
    rw [Steps, Act.bind_apply_ok (by rw [seen]), seen]
    refine .found area ptr given _ known ?_
    split <;> simp

theorem enter_unknown {area : Area} {ptr : Ptr} (setup : Setup) (given : Size)
    (unknown : (books.registries.get area).sizeOf ptr.addr = 0) :
    enter setup (.deallocate ptr.addr given area.space) books =
      ⟨.ok (.finished (.ok (.verdict false))), { books with
          tally := { books.tally with deallocations := books.tally.deallocations + 1 } },
        if setup.config.logRejections then
          [.logged (.remarked (.freeOfUnknown ptr.addr area.space))] else []⟩ := by
  have refused := Books.lookUp_unknown setup given unknown
  have target := deallocationTarget_eq_ok_iff.2 (⟨rfl, rfl⟩ :
    ptr.addr = ptr.addr ∧ area.space = area.space)
  simp only [enter, target]
  rw [Act.bind_apply_ok (by rw [refused]), refused]
  simp

theorem steps_enter (command : Command) :
    Steps setup books (.entered command) (enter setup command) := by
  cases command with
  | allocate bytes space =>
    simp only [enter]
    cases served : allocationArea bytes space with
    | error reason => exact steps_refuse _ reason (.finish rfl (Nat.zero_lt_succ _) rfl)
    | ok area =>
      obtain ⟨positive, rfl⟩ := allocationArea_eq_ok_iff.1 served
      exact .of_pure ⟨rfl, rfl, rfl, fun _ serves => ⟨positive, serves⟩, Nat.lt_succ_self _⟩
  | deallocate addr bytes space =>
    simp only [enter]
    cases target : deallocationTarget addr space with
    | error reason => exact steps_refuse _ reason (.finish rfl (Nat.zero_lt_succ _) rfl)
    | ok pair =>
      obtain ⟨ptr, area⟩ := pair
      obtain ⟨rfl, rfl⟩ := deallocationTarget_eq_ok_iff.1 target
      exact steps_lookUp area ptr bytes
  | copy request =>
    simp only [enter]
    split
    · exact .of_pure (.finish rfl (Nat.zero_lt_succ _) rfl)
    · split
      · exact steps_refuse _ _ (.finish rfl (Nat.zero_lt_succ _) rfl)
      · split
        next =>
          exact .of_pure
            ⟨rfl, rfl, rfl, fun _ serves => ⟨request, serves⟩, by simp [stepsLeft]⟩
        next transfer _ _ =>
          have few := Registries.length_candidates_le transfer.dstSpace
          refine .of_pure ⟨rfl, rfl, rfl, fun _ serves => ⟨request, serves⟩, ?_⟩
          simp only [stepsLeft]
          omega
  | query query =>
    have few := query.length_areas_le
    cases query with
    | spaceOf addr | sizeOf addr =>
      exact .of_pure ⟨rfl, rfl, rfl, fun _ serves => ⟨_, serves⟩, by simp [stepsLeft, Area.all]⟩
    | _ =>
      refine .of_pure ⟨rfl, rfl, rfl, fun _ serves => ⟨_, serves⟩, ?_⟩
      simp only [stepsLeft]
      omega

theorem steps_leave (ticket : Nat) (change : Change) (result : Except Fault Unit) :
    Steps setup books (.changed ticket change result) (leave setup ticket change result) := by
  cases result with
  | error fault => cases change <;> exact .leave ticket _ (.error fault) rfl
  | ok =>
    cases change with
    | register area ptr bytes =>
      obtain ⟨build, config⟩ := setup
      cases build <;> exact .leave ticket (.register area ptr bytes) (.ok ()) rfl
    | deregister area ptr bytes freed =>
      exact .leave ticket (.deregister area ptr bytes freed) (.ok ()) rfl
    | nothing fault => exact .leave ticket (.nothing fault) (.ok ()) rfl

theorem steps_answerSize (addr : Addr) (size : Size) (before : phase.isAside)
    (pending : 0 < phase.stepsLeft) :
    Steps setup books phase (do
      let answer ← Books.answerSize setup addr size
      pure (.finished (.ok answer))) := by
  have answered : Books.answerSize setup addr size books = _ :=
    Books.answerSize_apply setup addr size
  rw [Steps, Act.bind_apply_ok (by rw [answered]), answered]
  refine .aside books.tally (.finish before pending rfl) ?_
  split <;> simp

/-- What the end of a look-up comes to when no new block is to be confirmed. -/
theorem steps_resolve (addr : Addr) (found : Option Area) (purpose : Purpose)
    {rest : List Area} (plain : (searching addr rest purpose).isAside) :
    Steps setup books (.searching addr rest purpose) (resolve setup addr found purpose) := by
  cases purpose with
  | space => exact .of_pure (.finish rfl (Nat.zero_lt_succ _) rfl)
  | size =>
    cases found with
    | none => exact steps_answerSize addr 0 rfl (Nat.zero_lt_succ _)
    | some area => exact .of_pure ⟨rfl, rfl, rfl, fun _ serves => serves, by simp [stepsLeft]⟩
  | confirm => simp [isAside] at plain

theorem steps_confirm (addr : Addr) {found : Option Area} {area : Area} {ptr : Ptr} {bytes : Size}
    {ticket : Nat}
    (step : ∀ {trace : Trace}, trace.mutation? = none →
      Step setup books phase books (afterSearch setup area ptr found) trace) :
    Steps setup books phase (resolve setup addr found (.confirm area ptr bytes ticket)) := by
  obtain ⟨build, config⟩ := setup
  have silent : Trace.mutation? [.logged (.allocated bytes area.space ptr.addr ticket)] = none :=
    rfl
  cases build with
  | unchecked => exact step silent
  | checked =>
    by_cases same : found = some area
    · simpa [-bind_pure_comp, Steps, resolve, Books.requireFound, same, Machine.landing,
        afterSearch] using step silent
    · have reported : Trace.mutation? [.logged (.violated
          ⟨.postcondition, .blockNotFound area.space ptr.addr⟩)] = none := rfl
      simpa [-bind_pure_comp, Steps, resolve, Books.requireFound, same, Machine.landing,
        afterSearch, Build.isChecked] using step reported

theorem steps_search {act : Act Books Phase} {addr : Addr} {rest : List Area} {purpose : Purpose}
    (next : (searching addr rest purpose).act? setup books = some act) :
    Steps setup books (.searching addr rest purpose) act := by
  cases rest with
  | nil =>
    cases next
    cases purpose with
    | space => exact steps_resolve addr none .space rfl
    | size => exact steps_resolve addr none .size rfl
    | confirm area ptr bytes ticket =>
      exact steps_confirm addr (.miss area ptr bytes ticket (by simp))
  | cons here rest =>
    cases next
    rw [Steps, Act.read_bind_apply]
    split
    next present =>
      cases purpose with
      | space => exact steps_resolve addr (some here) .space rfl
      | size => exact steps_resolve addr (some here) .size rfl
      | confirm area ptr bytes ticket =>
        exact steps_confirm addr (.confirm here area ptr bytes ticket present)
    next absent =>
      rw [Bool.not_eq_true] at absent
      cases rest with
      | nil =>
        cases purpose with
        | space => exact steps_resolve addr none .space rfl
        | size => exact steps_resolve addr none .size rfl
        | confirm area ptr bytes ticket =>
          exact steps_confirm addr (.miss area ptr bytes ticket (by simpa using absent))
      | cons following rest =>
        cases purpose with
        | space =>
          exact Steps.of_pure ⟨rfl, rfl, rfl, fun _ serves => serves, Nat.lt_succ_self _⟩
        | size =>
          exact Steps.of_pure ⟨rfl, rfl, rfl, fun _ serves => serves, Nat.lt_succ_self _⟩
        | confirm area ptr bytes ticket => exact .passOver here area ptr bytes ticket absent

theorem steps_check {act : Act Books Phase} {transfer : Transfer} {side : End} {rest : List Area}
    (next : (checking transfer side rest).act? setup books = some act) :
    Steps setup books (.checking transfer side rest) act := by
  cases rest with
  | nil =>
    cases next
    exact steps_refuse _ _ (.finish rfl (by cases side <;> exact Nat.zero_lt_succ _) rfl)
  | cons here rest =>
    cases next
    rw [Steps, Act.read_bind_apply]
    split
    · cases side with
      | destination =>
        have few := Registries.length_candidates_le transfer.srcSpace
        refine Steps.of_pure ⟨rfl, rfl, rfl, fun _ serves => serves, ?_⟩
        simp only [approve, stepsLeft, List.length_cons]
        omega
      | source =>
        exact Steps.of_pure ⟨rfl, rfl, rfl, fun _ serves => serves, by simp [approve, stepsLeft]⟩
    · split
      · exact steps_refuse _ _ (.finish rfl (by cases side <;> exact Nat.zero_lt_succ _) rfl)
      · exact Steps.of_pure
          ⟨rfl, rfl, rfl, fun _ serves => serves, by cases side <;> simp [stepsLeft]⟩

theorem steps_conclude (query : Query) (seen : Registries) :
    Steps setup books (.surveying query [] seen) (conclude setup query seen) :=
  .aside books.tally (.finish rfl (Nat.zero_lt_succ _) (query_plain setup query _))
    (query_silent setup query _)

theorem steps_survey {act : Act Books Phase} {query : Query} {rest : List Area}
    {seen : Registries} (next : (surveying query rest seen).act? setup books = some act) :
    Steps setup books (.surveying query rest seen) act := by
  cases rest with
  | nil =>
    cases next
    exact steps_conclude query seen
  | cons here rest =>
    cases next
    exact .of_pure ⟨rfl, rfl, rfl, fun _ serves => serves, Nat.lt_succ_self _⟩

/-- Every step that a call takes on its own is one of the steps. -/
theorem steps_of_act? {act : Act Books Phase} (next : phase.act? setup books = some act) :
    Steps setup books phase act := by
  cases phase with
  | entered command =>
    cases next
    exact steps_enter command
  | granted area ptr bytes =>
    cases next
    exact .drawToRegister area ptr bytes
  | found area ptr bytes =>
    cases next
    exact .drawToFree area ptr bytes
  | queued ticket change =>
    obtain ⟨entered, enters, rfl⟩ := Option.map_eq_some_iff.1 next
    obtain ⟨free, served, rfl⟩ := Sequencer.enter?_eq_some_iff.1 enters
    simpa [-bind_pure_comp, Steps, Books.enter, enters, Machine.landing] using
      Step.enter ticket change free served
  | inTurn ticket change =>
    cases next
    simpa [-bind_pure_comp, Steps, Machine.landing] using Step.change ticket change
  | changed ticket change result =>
    cases next
    exact steps_leave ticket change result
  | searching addr rest purpose =>
    exact steps_search next
  | measuring addr area =>
    cases next
    exact steps_answerSize addr _ rfl (Nat.zero_lt_succ _)
  | checking transfer side rest => exact steps_check next
  | surveying query rest seen => exact steps_survey next
  | inAlloc | inFree | inCopy | finished => cases next

/-- Every answer of the backend to a request for a block makes one of the steps. -/
theorem steps_of_grant? {act : Act Books Phase} {reply : Reply Ptr}
    (next : phase.grant? reply = some act) : Steps setup books phase act := by
  cases phase with
  | inAlloc area bytes =>
    cases next
    cases reply with
    | granted ptr => exact .granted area ptr bytes
    | refused failure => exact .aside _ (.finish rfl (Nat.zero_lt_succ _) rfl) rfl
    | raised reason => exact .aside books.tally (.finish rfl (Nat.zero_lt_succ _) rfl) rfl
  | _ => cases next

/-- Every answer of the backend to a request to free or to copy makes one of the steps. -/
theorem steps_of_reply? {act : Act Books Phase} {reply : Reply Unit}
    (next : phase.reply? reply = some act) : Steps setup books phase act := by
  cases phase with
  | inFree ticket area ptr bytes =>
    cases next
    cases reply with
    | granted value =>
      exact .freed books.tally ticket area ptr bytes true (by cases area <;> rfl)
    | refused failure => exact .freed _ ticket area ptr bytes false (by cases area <;> rfl)
    | raised reason => exact .freeRaised ticket area ptr bytes reason rfl
  | inCopy transfer =>
    cases next
    cases reply with
    | granted value => exact .aside books.tally (.finish rfl (Nat.zero_lt_succ _) rfl) rfl
    | refused failure => exact .aside _ (.finish rfl (Nat.zero_lt_succ _) rfl) rfl
    | raised reason => exact .aside books.tally (.finish rfl (Nat.zero_lt_succ _) rfl) rfl
  | _ => cases next

/-- What a call does next: a step of its own, or one that takes an answer of its backend. -/
inductive Goes (setup : Setup) (books : Books) (phase : Phase) (act : Act Books Phase) : Prop where
  | alone (acts : phase.act? setup books = some act)
  | granted (reply : Reply Ptr) (acts : phase.grant? reply = some act)
  | replied (reply : Reply Unit) (acts : phase.reply? reply = some act)

theorem Goes.steps {act : Act Books Phase} (goes : phase.Goes setup books act) :
    Steps setup books phase act := by
  cases goes with
  | alone acts => exact steps_of_act? acts
  | granted reply acts => exact steps_of_grant? acts
  | replied reply acts => exact steps_of_reply? acts

/-! ## What every step keeps -/

namespace Step

variable {after : Books} {next : Phase} {trace : Trace}

/-- A step leads from a phase that fits a command to one that fits it too. -/
theorem serves (step : Step setup books phase after next trace) {command : Command}
    (serves : phase.Serves command) : next.Serves command := by
  cases step with
  | aside tally passes => exact passes.serves command serves
  | granted => exact serves.2
  | drawToRegister | drawToFree | freed | enter | change | passOver => exact serves
  | found area ptr given => exact ⟨given, serves⟩
  | freeRaised ticket area ptr =>
    obtain ⟨given, deallocates⟩ := serves
    exact ⟨ptr.addr, given, area.space, deallocates⟩
  | leave ticket change result =>
    cases result with
    | error fault => cases change <;> exact trivial
    | ok =>
      cases change with
      | register area ptr bytes =>
        simp only [afterTurn]
        split
        · exact serves
        · exact trivial
      | deregister | nothing => exact trivial
  | confirm | miss =>
    simp only [afterSearch]
    split <;> exact trivial

theorem areSound (step : Step setup books phase after next trace)
    (sound : books.registries.AreSound) : after.registries.AreSound := by
  cases step with
  | change ticket change =>
    rw [Change.apply_state sound]
    exact sound.apply _
  | _ => exact sound

theorem stepsLeft_lt (step : Step setup books phase after next trace) :
    next.stepsLeft < phase.stepsLeft := by
  cases step with
  | aside tally passes => exact passes.sooner
  | granted | drawToRegister | drawToFree | freed | freeRaised | enter | change | found =>
    simp [stepsLeft]
  | leave ticket change result =>
    cases result with
    | error fault => cases change <;> exact Nat.zero_lt_succ _
    | ok =>
      cases change with
      | register area ptr bytes =>
        simp only [afterTurn]
        split <;> simp [stepsLeft, Area.all]
      | deregister | nothing => exact Nat.zero_lt_succ _
  | confirm | miss =>
    simp only [afterSearch]
    split <;> exact Nat.zero_lt_succ _
  | passOver => exact Nat.lt_succ_self _

theorem not_isFinished {call : Call} (step : Step setup books call.phase after next trace) :
    ¬call.isFinished := by
  intro finished
  have sooner := step.stepsLeft_lt
  rw [call.isFinished_iff_stepsLeft.1 finished] at sooner
  exact Nat.not_lt_zero _ sooner

end Step

end Phase

def Move.index? : Move → Option Nat
  | .start _ => none
  | .advance index | .grant index _ | .reply index _ => some index

namespace Machine

variable {setup : Setup} {machine next : Machine} {move : Move}

def goOn (machine : Machine) (index : Nat) (call : Call) (books : Books) (phase : Phase)
    (trace : Trace) : Machine where
  books := books
  calls := machine.calls.set index { call with phase, trace := call.trace ++ trace }

theorem move?_advance {index : Nat} {call : Call} {act : Act Books Phase}
    (called : machine.calls[index]? = some call)
    (acts : call.phase.act? setup machine.books = some act) :
    machine.move? setup (.advance index) = some (machine.goOn index call (act machine.books).state
      (landing (act machine.books).result) (act machine.books).trace) := by
  simp [move?, called, acts, perform, goOn]

theorem move?_grant {index : Nat} {call : Call} {act : Act Books Phase} {reply : Reply Ptr}
    (called : machine.calls[index]? = some call) (acts : call.phase.grant? reply = some act) :
    machine.move? setup (.grant index reply) =
      some (machine.goOn index call (act machine.books).state
        (landing (act machine.books).result) (act machine.books).trace) := by
  simp [move?, called, acts, perform, goOn]

theorem move?_reply {index : Nat} {call : Call} {act : Act Books Phase} {reply : Reply Unit}
    (called : machine.calls[index]? = some call) (acts : call.phase.reply? reply = some act) :
    machine.move? setup (.reply index reply) =
      some (machine.goOn index call (act machine.books).state
        (landing (act machine.books).result) (act machine.books).trace) := by
  simp [move?, called, acts, perform, goOn]

/-- A move starts a call or is what one call does next. -/
theorem move?_goes (moved : machine.move? setup move = some next) :
    (∃ command, move = .start command ∧ next = machine.start command) ∨
    ∃ index call act, move.index? = some index ∧ machine.calls[index]? = some call ∧
      call.phase.Goes setup machine.books act ∧ next = machine.perform index call act := by
  cases move with
  | start command =>
    cases moved
    exact .inl ⟨command, rfl, rfl⟩
  | advance index =>
    obtain ⟨call, called, act, acts, rfl⟩ := by
      simpa [move?, Option.bind_eq_some_iff] using moved
    exact .inr ⟨index, call, act, rfl, called, .alone acts, rfl⟩
  | grant index reply =>
    obtain ⟨call, called, act, acts, rfl⟩ := by
      simpa [move?, Option.bind_eq_some_iff] using moved
    exact .inr ⟨index, call, act, rfl, called, .granted reply acts, rfl⟩
  | reply index reply =>
    obtain ⟨call, called, act, acts, rfl⟩ := by
      simpa [move?, Option.bind_eq_some_iff] using moved
    exact .inr ⟨index, call, act, rfl, called, .replied reply acts, rfl⟩

/-- A move starts a call or is a step of one call. -/
theorem move?_cases (moved : machine.move? setup move = some next) :
    (∃ command, move = .start command ∧ next = machine.start command) ∨
    ∃ index call books phase trace, move.index? = some index ∧
      machine.calls[index]? = some call ∧
      Phase.Step setup machine.books call.phase books phase trace ∧
      next = machine.goOn index call books phase trace := by
  rcases move?_goes moved with started | ⟨index, call, act, mine, called, goes, rfl⟩
  · exact .inl started
  · exact .inr ⟨index, call, _, _, _, mine, called, goes.steps, rfl⟩

end Machine

end TrackedMemory
