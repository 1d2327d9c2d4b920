import TrackedMemory.Proofs.Fleet.Runs

/-!
# Backend calls and what they do to the registries

Seen from its backend, a step of a manager is a course of backend calls. An `Exchange` is one such
call with its answer: it says when the manager may make the call and what it does to its registries
when the answer comes. Commands are courses of at most one call; the end of a manager is a course
that frees the blocks on record. A property of history, registries and backend that every exchange
keeps holds after every run.
-/

namespace TrackedMemory

variable {β : Type} [Backend β]

/-- One backend call of a manager, with the registries and the backend before and after it. -/
inductive Exchange (registries : Registries) (backend : β) :
    Request → Reply (Option Ptr) → Registries → β → Prop where
  /-- The backend hands a block out, which is recorded. -/
  | granted {next : β} (area : Area) (bytes : Size) (ptr : Ptr) (positive : bytes ≠ 0)
      (answered : Backend.alloc area.space bytes backend = (.granted ptr, next)) :
      Exchange registries backend (.alloc area.space bytes) (.granted (some ptr))
        (registries.apply (.register area ptr bytes)) next
  /-- The backend hands no block out. -/
  | denied {next : β} {reply : Reply Ptr} (area : Area) (bytes : Size) (positive : bytes ≠ 0)
      (answered : Backend.alloc area.space bytes backend = (reply, next))
      (nothing : ∀ ptr, reply ≠ .granted ptr) :
      Exchange registries backend (.alloc area.space bytes) (reply.map some) registries next
  /-- The backend comes back from the free of a block on record, whose record is dropped. -/
  | returned {next : β} {reply : Reply Unit} (area : Area) (ptr : Ptr) (bytes : Size)
      (member : ⟨ptr.addr, bytes⟩ ∈ (registries.get area).blocks)
      (answered : Backend.free area.space ptr bytes backend = (reply, next))
      (calm : ∀ reason, reply ≠ .raised reason) :
      Exchange registries backend (.free area.space ptr bytes) (reply.map fun _ => none)
        (registries.apply (.deregister area ptr)) next
  /-- The backend breaks off the free of a block on record, whose record is kept. -/
  | raised {next : β} (area : Area) (ptr : Ptr) (bytes : Size) (reason : String)
      (member : ⟨ptr.addr, bytes⟩ ∈ (registries.get area).blocks)
      (answered : Backend.free area.space ptr bytes backend = (.raised reason, next)) :
      Exchange registries backend (.free area.space ptr bytes) (.raised reason) registries next
  /-- The backend is asked to copy. -/
  | copied {next : β} {reply : Reply Unit} (transfer : Transfer)
      (answered : Backend.copy transfer backend = (reply, next)) :
      Exchange registries backend (.copy transfer) (reply.map fun _ => none) registries next

inductive Course :
    Registries → β → List (Request × Reply (Option Ptr)) → Registries → β → Prop where
  | done (registries : Registries) (backend : β) : Course registries backend [] registries backend
  | call {registries middle after : Registries} {backend served last : β} {request : Request}
      {reply : Reply (Option Ptr)} {rest : List (Request × Reply (Option Ptr))}
      (exchange : Exchange registries backend request reply middle served)
      (further : Course middle served rest after last) :
      Course registries backend ((request, reply) :: rest) after last

section Course

variable {registries middle after : Registries} {backend served last : β} {request : Request}
  {reply : Reply (Option Ptr)} {first second : List (Request × Reply (Option Ptr))}

theorem Exchange.course (exchange : Exchange registries backend request reply after last) :
    Course registries backend [(request, reply)] after last :=
  .call exchange (.done after last)

theorem Course.append (one : Course registries backend first middle served)
    (two : Course middle served second after last) :
    Course registries backend (first ++ second) after last := by
  induction one with
  | done => exact two
  | call exchange _ ih => exact .call exchange (ih two)

theorem Exchange.areSound (exchange : Exchange registries backend request reply after last)
    (sound : registries.AreSound) : after.AreSound := by
  cases exchange with
  | granted | returned => exact sound.apply _
  | denied | raised | copied => exact sound

theorem Exchange.areGenuine (exchange : Exchange registries backend request reply after last)
    (genuine : registries.AreGenuine) : after.AreGenuine := by
  cases exchange with
  | granted area bytes ptr positive =>
    refine genuine.apply fun other here size same => ?_
    cases same
    exact positive
  | returned => exact genuine.apply (by simp)
  | denied | raised | copied => exact genuine

end Course

/-! ## Commands -/

theorem Site.Runs.course {setup : Setup} {site : Site β} {command : Command}
    {outcome : Outcome (Site β) Answer} (runs : Runs setup site command outcome) :
    Course site.books.registries site.backend outcome.trace.calls outcome.state.books.registries
      outcome.state.backend := by
  cases runs with
  | allocateRefused | deallocateRefused | deallocateUnknown | copyRefused =>
    rw [Trace.calls_remarks]
    exact .done _ _
  | copyNothing => exact .done _ _
  | query query =>
    rw [Books.query_calls]
    exact .done _ _
  | allocateFailed area failure backend positive answered =>
    exact (Exchange.denied area _ positive answered (by simp)).course
  | allocateRaised area reason backend positive answered =>
    exact (Exchange.denied area _ positive answered (by simp)).course
  | allocateGranted area ptr backend positive answered =>
    rw [Trace.calls_called, Trace.calls_grantedTrace]
    exact (Exchange.granted area _ ptr positive answered).course
  | deallocateFreed area ptr registered backend member answered =>
    rw [Trace.calls_append, Trace.calls_correction]
    exact (Exchange.returned area ptr registered member answered (by simp)).course
  | deallocateFailed area ptr registered failure backend member answered =>
    rw [Trace.calls_append, Trace.calls_correction]
    exact (Exchange.returned area ptr registered member answered (by simp)).course
  | deallocateRaised area ptr registered reason backend member answered =>
    rw [Trace.calls_append, Trace.calls_correction]
    exact (Exchange.raised area ptr registered reason member answered).course
  | copyGranted transfer backend positive accepted answered
  | copyFailed transfer _ backend positive accepted answered
  | copyRaised transfer _ backend positive accepted answered =>
    exact (Exchange.copied transfer answered).course

/-! ## The end of a manager -/

theorem Registry.blocks_erase {registry : Registry} {block : Block} {rest : List Block}
    (sound : registry.IsSound) (listed : registry.blocks = block :: rest) :
    (registry.erase block).blocks = rest := by
  have ascending := sound.ascending
  rw [listed, List.pairwise_cons] at ascending
  simp only [erase, listed]
  rw [List.filter_cons_of_neg (by simp)]
  exact List.filter_eq_self.2 fun other inside => by
    simpa using (UInt64.ne_of_lt (ascending.1 other inside)).symm

namespace Site

variable {site : Site β} {setup : Setup} {area : Area} {ptr : Ptr} {bytes : Size} {backend : β}
  {failure : Failure} {reason : String}

/-- The site after a record was dropped without a ticket. -/
def release (site : Site β) (area : Area) (ptr : Ptr) (backend : β) : Site β :=
  ⟨{ site.books with registries := site.books.registries.apply (.deregister area ptr) }, backend⟩

omit [Backend β] in
theorem deregister_apply (settled : site.books.IsSettled) (setup : Setup)
    (member : ⟨ptr.addr, bytes⟩ ∈ (site.books.registries.get area).blocks) :
    onBooks (Books.deregister setup area ptr.addr) { site with backend } =
      ⟨.ok (some bytes), site.release area ptr backend, []⟩ := by
  have found := (settled.sound area).find?_of_mem member
  have done : Books.deregister setup area ptr.addr site.books =
      ⟨.ok (some bytes),
        { site.books with registries := site.books.registries.apply (.deregister area ptr) },
        []⟩ := by
    simp only [Books.deregister, Books.onRegistry, Act.within_apply,
      Registry.deregister_apply _ (settled.sound area), found]
    simp [Registries.apply, found]
  exact onBooks_apply done

theorem releaseBlock_freed (settled : site.books.IsSettled)
    (member : ⟨ptr.addr, bytes⟩ ∈ (site.books.registries.get area).blocks)
    (answered : Backend.free area.space ptr bytes site.backend = (.granted (), backend)) :
    releaseBlock setup area ⟨ptr.addr, bytes⟩ site =
      ⟨.ok (), site.release area ptr backend,
        [.called (.free area.space ptr bytes) (.granted none)]⟩ := by
  have asked : askFree area ptr bytes site = _ := ask_granted answered
  have released : releaseAt area ptr bytes site = ⟨.ok (), { site with backend },
      [.called (.free area.space ptr bytes) (.granted none)]⟩ := Act.bind_of_ok asked _
  simp only [releaseBlock, Ptr.ofAddr?_addr]
  rw [Act.bind_of_ok released, Act.bind_of_ok (deregister_apply settled setup member)]
  rfl

/-- A block whose free fails when a manager ends: the record is dropped as well. -/
theorem releaseBlock_failed (settled : site.books.IsSettled)
    (member : ⟨ptr.addr, bytes⟩ ∈ (site.books.registries.get area).blocks)
    (answered : Backend.free area.space ptr bytes site.backend = (.refused failure, backend)) :
    releaseBlock setup area ⟨ptr.addr, bytes⟩ site =
      ⟨.ok (), site.release area ptr backend,
        [.called (.free area.space ptr bytes) (.refused failure),
          .logged (.releaseFailed ptr.addr area.space failure)]⟩ := by
  have asked : askFree area ptr bytes site = _ := ask_refused answered
  have released : releaseAt area ptr bytes site = ⟨.ok (), { site with backend },
      [.called (.free area.space ptr bytes) (.refused failure),
        .logged (.releaseFailed ptr.addr area.space failure)]⟩ := Act.bind_of_ok asked _
  simp only [releaseBlock, Ptr.ofAddr?_addr]
  rw [Act.bind_of_ok released, Act.bind_of_ok (deregister_apply settled setup member)]
  rfl

/-- A block whose free breaks off when a manager ends: the record is kept. -/
theorem releaseBlock_raised
    (answered : Backend.free area.space ptr bytes site.backend = (.raised reason, backend)) :
    releaseBlock setup area ⟨ptr.addr, bytes⟩ site =
      ⟨.error (.raised reason), { site with backend },
        [.called (.free area.space ptr bytes) (.raised reason)]⟩ := by
  have asked : askFree area ptr bytes site = _ := ask_raised answered
  have released : releaseAt area ptr bytes site = _ := Act.bind_of_error asked _
  simp only [releaseBlock, Ptr.ofAddr?_addr]
  rw [Act.bind_of_error released]

/-- What the release of the blocks of some areas comes to: a course of backend calls that leaves
nothing on record there, unless the backend breaks off. -/
structure Releases (areas : List Area) (site : Site β) (outcome : Outcome (Site β) Unit) :
    Prop where
  settled : outcome.state.books.IsSettled
  course : Course site.books.registries site.backend outcome.trace.calls
    outcome.state.books.registries outcome.state.backend
  elsewhere : ∀ area ∉ areas,
    outcome.state.books.registries.get area = site.books.registries.get area
  emptied : outcome.result = .ok () → ∀ area ∈ areas,
    (outcome.state.books.registries.get area).blocks = []
  broken : ∀ fault, outcome.result = .error fault → ∃ space ptr bytes reason,
    fault = .raised reason ∧ (.free space ptr bytes, .raised reason) ∈ outcome.trace.calls

theorem releases_nil (settled : site.books.IsSettled) : Releases [] site ⟨.ok (), site, []⟩ where
  settled := settled
  course := .done _ _
  elsewhere _ _ := rfl
  emptied _ _ none := absurd none List.not_mem_nil
  broken _ broken := nomatch broken

/-- A release behind other backend calls that dropped records of its own areas alone. -/
theorem Releases.behind {areas : List Area} {middle : Site β} {outcome : Outcome (Site β) Unit}
    {trace : Trace} (releases : Releases areas middle outcome)
    (course : Course site.books.registries site.backend trace.calls middle.books.registries
      middle.backend)
    (elsewhere : ∀ area ∉ areas,
      middle.books.registries.get area = site.books.registries.get area) :
    Releases areas site (outcome.behind trace) where
  settled := releases.settled
  course := by
    rw [Outcome.trace_behind, Trace.calls_append]
    exact course.append releases.course
  elsewhere area outside := (releases.elsewhere area outside).trans (elsewhere area outside)
  emptied := releases.emptied
  broken fault broke := by
    obtain ⟨space, ptr, bytes, reason, same, called⟩ := releases.broken fault broke
    refine ⟨space, ptr, bytes, reason, same, ?_⟩
    rw [Outcome.trace_behind, Trace.calls_append]
    exact List.mem_append_right _ called

omit [Backend β] in
theorem isSettled_release (settled : site.books.IsSettled) (area : Area) (ptr : Ptr) (backend : β) :
    (site.release area ptr backend).books.IsSettled :=
  ⟨settled.sound.apply _, settled.genuine.apply (by simp), settled.idle, settled.served⟩

omit [Backend β] in
theorem blocks_release (settled : site.books.IsSettled) {rest : List Block}
    (listed : (site.books.registries.get area).blocks = ⟨ptr.addr, bytes⟩ :: rest) (backend : β) :
    ((site.release area ptr backend).books.registries.get area).blocks = rest := by
  have found := (settled.sound area).find?_eq_some_iff.2
    ⟨(by simp [listed] : ⟨ptr.addr, bytes⟩ ∈ (site.books.registries.get area).blocks), rfl⟩
  rw [release, Registries.get_apply_deregister found, if_pos rfl]
  exact Registry.blocks_erase (settled.sound area) listed

theorem releaseBlocks_releases (settled : site.books.IsSettled) {blocks : List Block}
    (listed : (site.books.registries.get area).blocks = blocks) :
    Releases [area] site (releaseBlocks setup area blocks site) := by
  induction blocks generalizing site with
  | nil =>
    exact { releases_nil settled with
      elsewhere := fun _ _ => rfl
      emptied := fun _ other here => List.mem_singleton.1 here ▸ listed }
  | cons block rest ih =>
    -- The blocks are listed before the first one goes; those left are the rest of that list.
    obtain ⟨start, bytes⟩ := block
    have inside : ⟨start, bytes⟩ ∈ (site.books.registries.get area).blocks := by simp [listed]
    obtain ⟨ptr, rfl⟩ : ∃ ptr : Ptr, ptr.addr = start :=
      ⟨⟨start, (settled.genuine area _ inside).1⟩, rfl⟩
    have found := (settled.sound area).find?_of_mem inside
    have dropped : ∀ backend : β,
        Releases [area] (site.release area ptr backend)
          (releaseBlocks setup area rest (site.release area ptr backend)) := by
      intro backend
      exact ih (isSettled_release settled area ptr backend) (blocks_release settled listed backend)
    have elsewhere : ∀ (backend : β), ∀ other ∉ [area],
        (site.release area ptr backend).books.registries.get other =
          site.books.registries.get other := by
      intro backend other outside
      rw [release, Registries.get_apply_deregister found, if_neg (by simpa using outside)]
    rw [releaseBlocks]
    cases answered : Backend.free area.space ptr bytes site.backend with
    | mk reply backend =>
      cases reply with
      | granted value =>
        rw [Act.bind_of_ok (releaseBlock_freed settled inside answered)]
        exact (dropped backend).behind
          (Exchange.returned area ptr bytes inside answered (by simp)).course (elsewhere backend)
      | refused failure =>
        rw [Act.bind_of_ok (releaseBlock_failed settled inside answered)]
        exact (dropped backend).behind
          (Exchange.returned area ptr bytes inside answered (by simp)).course (elsewhere backend)
      | raised reason =>
        rw [Act.bind_of_error (releaseBlock_raised answered)]
        exact
          { settled := settled
            course := (Exchange.raised area ptr bytes reason inside answered).course
            elsewhere := fun _ _ => rfl
            emptied := nofun
            broken := fun fault broke => by
              cases broke
              exact ⟨area.space, ptr, bytes, reason, rfl, by simp⟩ }

theorem Releases.append {first second : List Area} {act : Act (Site β) Unit}
    {next : Unit → Act (Site β) Unit} (one : Releases first site (act site))
    (two : ∀ middle : Site β, middle.books.IsSettled → Releases second middle (next () middle)) :
    Releases (first ++ second) site ((act >>= next) site) := by
  have later := two (act site).state one.settled
  cases result : (act site).result with
  | error fault =>
    rw [Act.bind_apply_error result]
    exact
      { settled := one.settled
        course := one.course
        elsewhere := fun area outside =>
          one.elsewhere area fun inside => outside (List.mem_append_left _ inside)
        emptied := nofun
        broken := fun fault broke => one.broken fault (result.trans broke) }
  | ok value =>
    rw [Act.bind_apply_ok result]
    exact
      { settled := later.settled
        course := by
          rw [Trace.calls_append]
          exact one.course.append later.course
        elsewhere := fun area outside => by
          rw [List.mem_append, not_or] at outside
          exact (later.elsewhere area outside.2).trans (one.elsewhere area outside.1)
        emptied := fun done area inside => by
          -- An area of the first part that is not one of the second is left as it was.
          by_cases again : area ∈ second
          · exact later.emptied done area again
          · rw [later.elsewhere area again]
            exact one.emptied result area ((List.mem_append.1 inside).resolve_right again)
        broken := fun fault broke => by
          obtain ⟨space, ptr, bytes, reason, same, called⟩ := later.broken fault broke
          refine ⟨space, ptr, bytes, reason, same, ?_⟩
          rw [Trace.calls_append]
          exact List.mem_append_right _ called }

theorem releaseAreas_releases (settled : site.books.IsSettled) (areas : List Area) :
    Releases areas site (releaseAreas setup areas site) := by
  induction areas generalizing site with
  | nil => exact releases_nil settled
  | cons area rest ih =>
    rw [releaseAreas, Act.read_bind_apply]
    exact (releaseBlocks_releases settled rfl).append fun middle later => ih later

def leakTrace (setup : Setup) (registries : Registries) : Trace :=
  if setup.config.reportLeaks && !registries.leakReport.isClean then
    [.logged (.leaked registries.leakReport)]
  else []

omit [Backend β] in
theorem reportLeaks_apply (setup : Setup) (site : Site β) :
    onBooks (Books.reportLeaks setup) site =
      ⟨.ok (), site, leakTrace setup site.books.registries⟩ := by
  simp only [onBooks, Act.within_apply, Books.reportLeaks, Act.read_bind_apply, leakTrace]
  split <;> rfl

@[simp] theorem calls_leakTrace (setup : Setup) (registries : Registries) :
    (leakTrace setup registries).calls = [] := by
  rw [leakTrace]
  split <;> rfl

/-- The end of a manager releases all of its blocks, or none if that is not asked for. -/
theorem teardown_releases (settled : site.books.IsSettled) (setup : Setup) :
    Releases (if setup.config.releaseBlocks then Area.all else []) site
      (teardown setup site) := by
  have silent := calls_leakTrace setup site.books.registries
  have released : Releases (if setup.config.releaseBlocks then Area.all else []) site
      ((if setup.config.releaseBlocks then releaseAreas setup Area.all else pure ()) site) := by
    split
    · exact releaseAreas_releases settled Area.all
    · exact releases_nil settled
  rw [teardown, Act.bind_of_ok (reportLeaks_apply setup site)]
  exact released.behind (silent ▸ .done _ _) fun _ _ => rfl

end Site

/-! ## Runs -/

namespace Fleet

variable {fleet : Fleet β} {step : Step β} {steps : List (Step β)}

def IsSettled (fleet : Fleet β) : Prop :=
  ∀ member ∈ fleet.members, member.books.IsSettled

omit [Backend β] in
theorem isSettled_launch (setups : List Setup) (backend : β) :
    (launch setups backend).IsSettled := by
  intro member inside
  obtain ⟨setup, -, rfl⟩ := List.mem_map.1 inside
  exact Books.isSettled_empty

omit [Backend β] in
theorem IsSettled.of_active (settled : fleet.IsSettled) {index : Nat} {member : Member}
    (active : fleet.active? index = some member) : member.books.IsSettled :=
  settled member (List.mem_of_getElem? (active?_eq_some_iff.1 active).1)

omit [Backend β] in
theorem IsSettled.set (settled : fleet.IsSettled) (index : Nat) {member : Member}
    (own : member.books.IsSettled) (backend : β) :
    IsSettled (⟨fleet.members.set index member, backend⟩ : Fleet β) :=
  forall_mem_set settled own index

theorem IsSettled.perform (settled : fleet.IsSettled) (step : Step β) :
    (fleet.perform step).state.IsSettled := by
  have done := fleet.performs step
  generalize fleet.perform step = outcome at done ⊢
  cases done with
  | idle | adjust => exact settled
  | command index member command outcome active done =>
    have runs : Site.Runs member.setup ⟨member.books, fleet.backend⟩ command outcome :=
      done ▸ Site.runs (settled.of_active active) command
    exact settled.set index (runs.isSettled (settled.of_active active)) _
  | drop index member outcome active done =>
    have released : Site.Releases _ ⟨member.books, fleet.backend⟩ outcome :=
      done ▸ Site.teardown_releases (settled.of_active active) member.setup
    exact settled.set index released.settled _

theorem IsSettled.after (settled : fleet.IsSettled) (steps : List (Step β)) :
    (fleet.after steps).IsSettled := by
  induction steps generalizing fleet with
  | nil => exact settled
  | cons step rest ih => exact ih (settled.perform step)

omit [Backend β] in
theorem set_own {registries : List Registries} {index : Nat} {own : Registries}
    (owned : registries[index]? = some own) : registries.set index own = registries := by
  obtain ⟨inside, rfl⟩ := List.getElem?_eq_some_iff.1 owned
  exact List.set_getElem_self inside

/-- Every exchange of a manager keeps a property of history, registries and backend. -/
def ExchangesKeep (P : List Entry → List Registries → β → Prop) : Prop :=
  ∀ ⦃history registries backend index own request reply next after⦄,
    P history registries backend → registries[index]? = some own → own.AreSound →
    own.AreGenuine → Exchange own backend request reply next after →
    P (history ++ [⟨index, request, reply⟩]) (registries.set index next) after

variable {P : List Entry → List Registries → β → Prop} {history : List Entry}

theorem course_keeps (kept : ExchangesKeep P) {registries : List Registries} {index : Nat}
    {own next : Registries} {backend after : β} {calls : List (Request × Reply (Option Ptr))}
    (course : Course own backend calls next after) (before : P history registries backend)
    (owned : registries[index]? = some own) (sound : own.AreSound) (genuine : own.AreGenuine) :
    P (history ++ calls.map fun call => ⟨index, call.1, call.2⟩) (registries.set index next)
      after := by
  induction course generalizing history registries with
  | done own backend => simpa [set_own owned] using before
  | call exchange further ih =>
    obtain ⟨inside, -⟩ := List.getElem?_eq_some_iff.1 owned
    have later := ih (kept before owned sound genuine exchange)
      (List.getElem?_set_self inside) (exchange.areSound sound) (exchange.areGenuine genuine)
    simpa using later

/-- A step keeps what every exchange keeps, and a change of the backend if it is one. -/
theorem perform_keeps_exchanges (kept : ExchangesKeep P) (settled : fleet.IsSettled)
    (adjusted : ∀ change, step = .adjust change → ∀ history registries backend,
      P history registries backend → P history registries (change backend))
    (before : P history fleet.registries fleet.backend) :
    P (history ++ step.entries (fleet.perform step).trace) (fleet.perform step).state.registries
      (fleet.perform step).state.backend := by
  have done := fleet.performs step
  generalize fleet.perform step = outcome at done ⊢
  have renewed : ∀ (index : Nat) (member : Member) (backend : β),
      (Fleet.mk (fleet.members.set index member) backend).registries =
        fleet.registries.set index member.books.registries := fun index member backend =>
    List.map_set
  cases done with
  | idle => cases step <;> simpa [Step.entries, Trace.calls] using before
  | adjust change =>
    rw [Step.entries, List.append_nil]
    exact adjusted change rfl _ _ _ before
  | command index member command outcome active done =>
    have own := settled.of_active active
    have runs : Site.Runs member.setup ⟨member.books, fleet.backend⟩ command outcome :=
      done ▸ Site.runs own command
    rw [renewed]
    exact course_keeps kept runs.course before (getElem?_registries active) own.sound own.genuine
  | drop index member outcome active done =>
    have own := settled.of_active active
    have released : Site.Releases _ ⟨member.books, fleet.backend⟩ outcome :=
      done ▸ Site.teardown_releases own member.setup
    rw [renewed]
    exact course_keeps kept released.course before (getElem?_registries active) own.sound
      own.genuine

/-- What every exchange keeps, and every change of the backend that a run makes, holds after the
run. -/
theorem run_keeps_exchanges (kept : ExchangesKeep P) (settled : fleet.IsSettled)
    (adjusted : ∀ change, .adjust change ∈ steps → ∀ history registries backend,
      P history registries backend → P history registries (change backend))
    (before : P history fleet.registries fleet.backend) :
    P (history ++ fleet.history steps) (fleet.after steps).registries
      (fleet.after steps).backend := by
  induction steps generalizing fleet history with
  | nil => simpa using before
  | cons step rest ih =>
    have first := perform_keeps_exchanges kept settled
      (fun change same => adjusted change (same ▸ List.mem_cons_self)) before
    have later := ih (settled.perform step)
      (fun change member => adjusted change (List.mem_cons_of_mem _ member)) first
    simpa [Fleet.history] using later

/-- What holds of new managers, and is kept by every exchange and every change of the backend that a
run makes, holds after the run. -/
theorem launch_keeps_exchanges (kept : ExchangesKeep P) {setups : List Setup} {backend : β}
    (adjusted : ∀ change, .adjust change ∈ steps → ∀ history registries backend,
      P history registries backend → P history registries (change backend))
    (before : P [] (launch setups backend).registries backend) :
    P ((launch setups backend).history steps) ((launch setups backend).after steps).registries
      ((launch setups backend).after steps).backend := by
  simpa using run_keeps_exchanges kept (isSettled_launch setups backend) adjusted before

end Fleet

end TrackedMemory
