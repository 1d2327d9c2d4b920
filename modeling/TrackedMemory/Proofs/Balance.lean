import TrackedMemory.Proofs.Concurrent.Runs
import TrackedMemory.Proofs.Fleet.Runs
import TrackedMemory.Proofs.Manager.Balance

/-!
# The counters of a registry always balance

Counters and records of a registry agree whenever its lock is free: in direct use of a registry, in
runs of managers that share a backend, and in runs of calls side by side on one manager. So no check
of them ever raises an alarm, and every figure that a client is told balances. Steps of calls that
run side by side are put together like calls are, and have one lemma each.
-/

namespace TrackedMemory

/-! ## Calls side by side -/

/-- Whether a command asks for the figures of registries or for their consistency. -/
def Command.isCensus : Command → Bool
  | .query .isConsistent | .query (.figures _) | .query .statistics => true
  | _ => false

theorem Command.admits_of_not_isCensus {command : Command} (other : command.isCensus = false)
    (answer : Answer) : command.Admits answer := by
  cases command with
  | query query =>
    cases query with
    | isConsistent | figures | statistics => cases other
    | _ => trivial
  | _ => trivial

def Change.IsCalm : Change → Prop
  | .nothing fault => fault.isAlarm = false
  | _ => True

namespace Change

variable {setup : Setup}

theorem apply_keeps (change : Change) :
    Act.Keeps Books.AreSound (fun _ => True) (change.apply setup) := by
  cases change with
  | register area ptr bytes =>
    refine (Books.register_keeps setup area ptr bytes).andThen fun _ => ?_
    exact .of_pure trivial
  | deregister area ptr =>
    refine (Books.deregister_keeps setup area ptr.addr).andThen fun _ => ?_
    exact .of_pure trivial
  | nothing => exact .of_pure trivial

end Change

namespace Phase

/-- A call with this command is in a phase that it can come into without an alarm: a query has seen
sound registries, and an answer that is given is one that balance admits. -/
def Accords (command : Command) : Phase → Prop
  | .entered begun => begun = command
  | .surveying query _ seen => command = .query query ∧ seen.AreSound
  | .finished result => EndsWell command.Admits result
  | .queued _ change | .inTurn _ change => command.isCensus = false ∧ change.IsCalm
  | .changed _ change result =>
      command.isCensus = false ∧ change.IsCalm ∧ EndsWell (fun _ => True) result
  | _ => command.isCensus = false

variable {setup : Setup} {command : Command} {books : Books} {phase : Phase}

theorem accords_finished (other : command.isCensus = false) (answer : Answer) :
    (finished (.ok answer)).Accords command :=
  command.admits_of_not_isCensus other answer

theorem refuse_keeps (change : Tally → Tally) (reason : Remark) {answer : Answer}
    (other : command.isCensus = false) :
    Act.Keeps Books.AreSound (Accords command) (do
      Books.count change
      Books.remark setup reason
      pure (.finished (.ok answer))) := by
  refine (Books.count_keeps change).andThen fun _ => ?_
  refine (Books.remark_keeps setup reason).andThen fun _ => ?_
  exact .of_pure (accords_finished other answer)

theorem enter_keeps (command : Command) :
    Act.Keeps Books.AreSound (Accords command) (enter setup command) := by
  cases command with
  | allocate bytes space =>
    simp only [enter]
    cases allocationArea bytes space with
    | error reason => exact refuse_keeps _ reason rfl
    | ok area => exact .of_pure rfl
  | deallocate addr bytes space =>
    simp only [enter]
    cases deallocationTarget addr space with
    | error reason => exact refuse_keeps _ reason rfl
    | ok target =>
      obtain ⟨ptr, area⟩ := target
      refine (Books.lookUp_keeps setup area ptr bytes).andThen fun known => ?_
      cases known with
      | none => exact .of_pure trivial
      | some registered => exact .of_pure rfl
  | copy request =>
    simp only [enter]
    refine .ite (fun _ => .of_pure trivial) fun _ => ?_
    cases request.transfer? with
    | none => exact refuse_keeps _ _ rfl
    | some transfer => exact .ite (fun _ => .of_pure rfl) fun _ => .of_pure rfl
  | query query =>
    cases query with
    | spaceOf addr | sizeOf addr => exact .of_pure rfl
    | _ => exact .of_pure ⟨rfl, Registries.areSound_empty⟩

theorem answerSize_keeps (addr : Addr) (size : Size) (other : command.isCensus = false) :
    Act.Keeps Books.AreSound (Accords command) (do
      let answer ← Books.answerSize setup addr size
      pure (.finished (.ok answer))) := by
  have admits : (Command.query (.sizeOf addr)).Admits (.bytes size) := trivial
  refine (Books.answerSize_keeps setup addr size admits).andThen fun answer => ?_
  exact .of_pure (accords_finished other answer)

theorem resolve_keeps (addr : Addr) (area? : Option Area) (purpose : Purpose)
    (other : command.isCensus = false) :
    Act.Keeps Books.AreSound (Accords command) (resolve setup addr area? purpose) := by
  cases purpose with
  | space => exact .of_pure (accords_finished other _)
  | size =>
    cases area? with
    | none => exact answerSize_keeps addr 0 other
    | some area => exact .of_pure other
  | confirm area ptr bytes ticket =>
    refine (Books.requireFound_keeps setup area ptr area?).andThen fun _ => ?_
    refine (Act.Keeps.of_log rfl).andThen fun _ => ?_
    exact .of_pure (accords_finished other _)

/-- Passing the turn on has nothing to do with the registries. -/
theorem retire_keeps : Act.Keeps Books.AreSound (fun _ => True) (Act.update Books.retire) :=
  .of_update fun _ sound => sound

theorem leave_keeps (ticket : Nat) {change : Change} {result : Except Fault Unit}
    (other : command.isCensus = false) (calm : change.IsCalm)
    (endsWell : EndsWell (fun _ => True) result) :
    Act.Keeps Books.AreSound (Accords command) (leave setup ticket change result) := by
  cases result with
  | error fault =>
    cases change <;> exact retire_keeps.andThen fun _ => .of_pure endsWell
  | ok =>
    cases change with
    | register area ptr bytes =>
      refine retire_keeps.andThen fun _ => .ite (fun _ => .of_pure other) fun _ => ?_
      refine (Act.Keeps.of_log rfl).andThen fun _ => ?_
      exact .of_pure (accords_finished other _)
    | deregister area ptr bytes freed =>
      refine retire_keeps.andThen fun _ => (Act.Keeps.of_log rfl).andThen fun _ => ?_
      exact .of_pure (accords_finished other _)
    | nothing fault => exact retire_keeps.andThen fun _ => .of_pure calm

theorem conclude_keeps (query : Query) {seen : Registries} (sound : seen.AreSound) :
    Act.Keeps Books.AreSound (Accords (.query query)) (conclude setup query seen) where
  state _ holds := holds
  quiet books _ := (Books.query_keeps setup query).quiet { books with registries := seen } sound
  result books _ := (Books.query_keeps setup query).result { books with registries := seen } sound

theorem search_keeps {act : Act Books Phase} {addr : Addr} {rest : List Area} {purpose : Purpose}
    (next : (searching addr rest purpose).act? setup books = some act)
    (other : command.isCensus = false) : Act.Keeps Books.AreSound (Accords command) act := by
  cases rest with
  | nil =>
    cases next
    exact resolve_keeps addr none purpose other
  | cons area rest =>
    cases next
    refine Act.Keeps.of_read.andThen fun _ => .ite (fun _ => ?_) fun _ => .ite (fun _ => ?_) ?_
    · exact resolve_keeps addr (some area) purpose other
    · exact resolve_keeps addr none purpose other
    · exact fun _ => .of_pure other

theorem check_keeps {act : Act Books Phase} {transfer : Transfer} {side : End} {rest : List Area}
    (next : (checking transfer side rest).act? setup books = some act)
    (other : command.isCensus = false) : Act.Keeps Books.AreSound (Accords command) act := by
  cases rest with
  | nil =>
    cases next
    exact refuse_keeps _ _ other
  | cons area rest =>
    cases next
    refine Act.Keeps.of_read.andThen fun _ => .ite (fun _ => ?_) fun _ => .ite (fun _ => ?_) ?_
    · cases side <;> exact .of_pure other
    · exact refuse_keeps _ _ other
    · exact fun _ => .of_pure other

theorem survey_keeps {act : Act Books Phase} {query : Query} {rest : List Area}
    {seen : Registries} (next : (surveying query rest seen).act? setup books = some act)
    (sound : seen.AreSound) : Act.Keeps Books.AreSound (Accords (.query query)) act := by
  cases rest with
  | nil =>
    cases next
    exact conclude_keeps query sound
  | cons area rest =>
    cases next
    exact Act.Keeps.of_read.bind fun _ found => .of_pure ⟨rfl, sound.set (found area)⟩

/-- Every step that a call takes on its own keeps the registries sound, without alarm. -/
theorem act?_keeps {act : Act Books Phase} (next : phase.act? setup books = some act)
    (accords : phase.Accords command) : Act.Keeps Books.AreSound (Accords command) act := by
  cases phase with
  | entered begun =>
    cases next
    cases accords
    exact enter_keeps command
  | granted area ptr bytes =>
    cases next
    exact Books.draw_keeps.andThen fun _ => .of_pure ⟨accords, trivial⟩
  | found area ptr bytes =>
    cases next
    exact Books.draw_keeps.andThen fun _ => .of_pure accords
  | queued ticket change =>
    obtain ⟨entered, -, rfl⟩ := Option.map_eq_some_iff.1 next
    exact (Books.enter_keeps ticket).andThen fun _ => .of_pure accords
  | inTurn ticket change =>
    cases next
    refine (change.apply_keeps).attempt.bind fun result endsWell => ?_
    exact .of_pure ⟨accords.1, accords.2, endsWell⟩
  | changed ticket change result =>
    cases next
    exact leave_keeps ticket accords.1 accords.2.1 accords.2.2
  | searching addr rest purpose => exact search_keeps next accords
  | measuring addr area =>
    cases next
    exact Act.Keeps.of_read.andThen fun _ => answerSize_keeps addr _ accords
  | checking transfer side rest => exact check_keeps next accords
  | surveying query rest seen =>
    obtain ⟨rfl, sound⟩ := accords
    exact survey_keeps next sound
  | inAlloc | inFree | inCopy | finished => cases next

/-- So does every answer of the backend to a request for a block. -/
theorem grant?_keeps {act : Act Books Phase} {reply : Reply Ptr}
    (next : phase.grant? reply = some act) (accords : phase.Accords command) :
    Act.Keeps Books.AreSound (Accords command) act := by
  cases phase with
  | inAlloc area bytes =>
    cases next
    refine Act.Keeps.of_call.andThen fun _ => ?_
    cases reply with
    | granted ptr => exact .of_pure accords
    | refused failure =>
      refine (Books.failed_keeps _ .allocate failure).andThen fun _ => ?_
      exact .of_pure (accords_finished accords _)
    | raised reason => exact .of_fail rfl
  | _ => cases next

/-- So does every answer of the backend to a request to free or to copy. -/
theorem reply?_keeps {act : Act Books Phase} {reply : Reply Unit}
    (next : phase.reply? reply = some act) (accords : phase.Accords command) :
    Act.Keeps Books.AreSound (Accords command) act := by
  cases phase with
  | inFree ticket area ptr bytes =>
    cases next
    refine Act.Keeps.of_call.andThen fun _ => ?_
    cases reply with
    | granted value => exact .of_pure ⟨accords, trivial⟩
    | refused failure =>
      refine (Books.settleFree_keeps (.error failure)).andThen fun _ => ?_
      exact .of_pure ⟨accords, trivial⟩
    | raised reason => exact (Act.Keeps.of_log rfl).andThen fun _ => .of_pure ⟨accords, rfl⟩
  | inCopy transfer =>
    cases next
    refine Act.Keeps.of_call.andThen fun _ => ?_
    cases reply with
    | granted value => exact .of_pure (accords_finished accords _)
    | refused failure =>
      refine (Books.failed_keeps _ .copy failure).andThen fun _ => ?_
      exact .of_pure (accords_finished accords _)
    | raised reason => exact .of_fail rfl
  | _ => cases next

theorem Goes.keeps {act : Act Books Phase} (goes : phase.Goes setup books act)
    (accords : phase.Accords command) : Act.Keeps Books.AreSound (Accords command) act := by
  cases goes with
  | alone acts => exact act?_keeps acts accords
  | granted reply acts => exact grant?_keeps acts accords
  | replied reply acts => exact reply?_keeps acts accords

end Phase

theorem Machine.accords_landing {command : Command} {result : Except Fault Phase}
    (endsWell : EndsWell (Phase.Accords command) result) : (landing result).Accords command := by
  cases result with
  | ok phase => exact endsWell
  | error fault => exact endsWell

namespace Machine

variable {setup : Setup} {machine : Machine}

/-- The registries are sound, and no call raises an alarm. -/
structure IsCalm (machine : Machine) : Prop where
  sound : machine.books.AreSound
  calls : machine.Every fun call => call.phase.Accords call.command ∧ call.trace.IsQuiet

theorem isCalm_empty : IsCalm {} :=
  ⟨Registries.areSound_empty, every_empty⟩

/-- A step of a call that keeps the registries sound quietly leaves a calm machine calm. -/
theorem IsCalm.perform (calm : machine.IsCalm) {index : Nat} {call : Call} {act : Act Books Phase}
    (called : machine.calls[index]? = some call)
    (kept : Act.Keeps Books.AreSound (Phase.Accords call.command) act) :
    (machine.perform index call act).IsCalm where
  sound := kept.state _ calm.sound
  calls := every_goOn called
    ⟨accords_landing (kept.result _ calm.sound),
      Trace.isQuiet_append.2 ⟨(calm.calls called).2, kept.quiet _ calm.sound⟩⟩
    fun _ there => calm.calls there

theorem IsCalm.move (calm : machine.IsCalm) {next : Machine} {move : Move}
    (moved : machine.move? setup move = some next) : next.IsCalm := by
  rcases move?_goes moved with ⟨command, -, rfl⟩ | ⟨index, call, act, -, called, goes, rfl⟩
  · exact ⟨calm.sound, calm.calls.start ⟨rfl, Trace.isQuiet_nil⟩⟩
  · exact calm.perform called (goes.keeps (calm.calls called).1)

theorem Reachable.isCalm (reachable : Reachable setup machine) : machine.IsCalm := by
  induction reachable with
  | empty => exact isCalm_empty
  | move move _ moved ih => exact ih.move moved

end Machine

/-! ## Managers that share a backend -/

namespace Fleet

variable {β : Type} [Backend β] {fleet : Fleet β}

/-- What a step may answer: a command what balance admits, other steps anything. -/
def Step.Admits : Step β → Option Answer → Prop
  | .command _ asked, some answer => asked.Admits answer
  | _, _ => True

def AreSound (fleet : Fleet β) : Prop :=
  ∀ member ∈ fleet.members, member.books.AreSound

omit [Backend β] in
theorem AreSound.set (sound : fleet.AreSound) {member : Member} (own : member.books.AreSound)
    (index : Nat) (backend : β) :
    AreSound (⟨fleet.members.set index member, backend⟩ : Fleet β) :=
  forall_mem_set sound own index

theorem perform_keeps (step : Step β) :
    Act.Keeps AreSound step.Admits fun fleet => fleet.perform step := by
  have parts : ∀ fleet : Fleet β, fleet.AreSound → (fleet.perform step).state.AreSound ∧
      (fleet.perform step).trace.IsQuiet ∧ EndsWell step.Admits (fleet.perform step).result := by
    intro fleet sound
    have done := fleet.performs step
    generalize fleet.perform step = outcome at done ⊢
    cases done with
    | idle => exact ⟨sound, Trace.isQuiet_nil, by cases step <;> trivial⟩
    | adjust => exact ⟨sound, Trace.isQuiet_nil, trivial⟩
    | command index member command outcome active done =>
      have own : Site.AreSound ⟨member.books, fleet.backend⟩ :=
        sound member (List.mem_of_getElem? (active?_eq_some_iff.1 active).1)
      have kept := Site.run_keeps (β := β) member.setup command
      rw [← done]
      refine ⟨sound.set ?_ index _, kept.quiet _ own,
        (kept.result _ own).map fun _ admitted => admitted⟩
      exact kept.state _ own
    | drop index member outcome active done =>
      have own : Site.AreSound ⟨member.books, fleet.backend⟩ :=
        sound member (List.mem_of_getElem? (active?_eq_some_iff.1 active).1)
      have kept := Site.teardown_keeps (β := β) member.setup
      rw [← done]
      refine ⟨sound.set ?_ index _, kept.quiet _ own, (kept.result _ own).map fun _ _ => trivial⟩
      exact kept.state _ own
  exact ⟨fun state holds => (parts state holds).1, fun state holds => (parts state holds).2.1,
    fun state holds => (parts state holds).2.2⟩

omit [Backend β] in
theorem areSound_launch (setups : List Setup) (backend : β) : (launch setups backend).AreSound := by
  intro member inside
  obtain ⟨setup, -, rfl⟩ := List.mem_map.1 inside
  exact Registries.areSound_empty

theorem areSound_after (sound : fleet.AreSound) (steps : List (Step β)) :
    (fleet.after steps).AreSound := by
  induction steps generalizing fleet with
  | nil => exact sound
  | cons step rest ih => exact ih ((perform_keeps step).state fleet sound)

end Fleet

/-! ## Everything that can happen to counters -/

/-- Counters and records agree in every area. -/
structure Registries.AreBalanced (registries : Registries) : Prop where
  figures : ∀ area, (registries.get area).figures.IsBalanced
  consistent : registries.areConsistent = true

/-- Neither a log line nor the result of an action is an alarm. -/
structure Outcome.IsQuiet {σ α : Type} (outcome : Outcome σ α) : Prop where
  trace : outcome.trace.IsQuiet
  result : ∀ fault, outcome.result = .error fault → fault.isAlarm = false

theorem EndsWell.isAlarm_eq_false {α : Type} {good : α → Prop} {result : Except Fault α}
    (endsWell : EndsWell good result) : ∀ fault, result = .error fault → fault.isAlarm = false := by
  rintro fault rfl
  exact endsWell

theorem Books.AreSound.registries_areBalanced {books : Books} (sound : books.AreSound) :
    books.registries.AreBalanced :=
  ⟨fun area => (sound area).isBalanced, Registries.AreSound.areConsistent sound⟩

/-- The counters of registries balance whatever happens. Direct use of a registry keeps them in
balance and raises no alarm, nor does any run of managers over any backend, nor do calls that run
side by side on one manager, whose backend may answer anything, nor does the end of that manager. -/
theorem counters_balance :
    (∀ (uses : List Registry.Use) (use : Registry.Use),
      (Registry.afterUses uses).figures.IsBalanced ∧
        (Registry.afterUses uses).isConsistent = true ∧
        (use.perform (Registry.afterUses uses)).IsQuiet) ∧
    (∀ (β : Type) [Backend β] (setups : List Setup) (backend : β) (steps : List (Fleet.Step β))
      (step : Fleet.Step β),
      let fleet := (Fleet.launch setups backend).after steps
      (∀ member ∈ fleet.members, member.books.registries.AreBalanced) ∧
        (fleet.perform step).IsQuiet ∧
        ∀ answer, (fleet.perform step).result = .ok answer → step.Admits answer) ∧
    (∀ (setup : Setup) (machine : Machine), Machine.Reachable setup machine →
      machine.books.registries.AreBalanced ∧
        machine.Every (fun call => call.trace.IsQuiet ∧
          ∀ result, call.phase = .finished result → EndsWell call.command.Admits result) ∧
        ∀ (β : Type) [Backend β] (backend : β),
          let ending := Site.teardown setup ⟨machine.books, backend⟩
          ending.IsQuiet ∧ ending.state.books.registries.AreBalanced) := by
  refine ⟨fun uses use => ?_, fun β _ setups backend steps step => ?_,
    fun setup machine reachable => ?_⟩
  · have sound := Registry.isSound_afterUses uses
    have kept := Registry.use_keeps use
    exact ⟨sound.isBalanced, sound.isConsistent, kept.quiet _ sound,
      (kept.result _ sound).isAlarm_eq_false⟩
  · have sound := Fleet.areSound_after (Fleet.areSound_launch setups backend) steps
    have kept := Fleet.perform_keeps step
    refine ⟨fun member inside => (sound member inside).registries_areBalanced,
      ⟨kept.quiet _ sound, (kept.result _ sound).isAlarm_eq_false⟩, fun answer answered => ?_⟩
    have admitted := kept.result _ sound
    rw [answered] at admitted
    exact admitted
  · have calm := reachable.isCalm
    refine ⟨calm.sound.registries_areBalanced, fun index call called => ?_,
      fun β _ backend => ?_⟩
    · refine ⟨(calm.calls called).2, fun result ends => ?_⟩
      have accords := (calm.calls called).1
      rw [ends] at accords
      exact accords
    · have kept := Site.teardown_keeps (β := β) setup
      have sound : Site.AreSound ⟨machine.books, backend⟩ := calm.sound
      exact ⟨⟨kept.quiet _ sound, (kept.result _ sound).isAlarm_eq_false⟩,
        (kept.state _ sound).registries_areBalanced⟩

/-- A block is allocated and freed by two calls at once; the second one breaks a contract in its
turn, and the figures are asked for afterwards. -/
def Machine.freedTwice : List Move :=
  [.start (.allocate 8 .host), .advance 0, .grant 0 (.granted ⟨16, by decide⟩), .advance 0,
    .advance 0, .advance 0, .advance 0, .advance 0, .advance 0,
    .start (.deallocate 16 8 .host), .start (.deallocate 16 8 .host), .advance 1, .advance 2,
    .advance 1, .advance 2, .reply 1 (.granted ()), .reply 2 (.granted ()), .advance 1,
    .advance 1, .advance 1, .advance 2, .advance 2, .advance 2,
    .start (.query .statistics), .advance 3, .advance 3, .advance 3, .advance 3, .advance 3]

/-- The counters balance although a block was deregistered in a race. -/
theorem counters_balance_freedTwice : ∃ machine,
    Machine.Reachable (.standard .checked) machine ∧
    machine.books.registries.host.registrations = 1 ∧
    machine.books.registries.host.deregistrations = 1 ∧
    machine.calls.all Call.isFinished = true ∧
    machine.books.registries.AreBalanced ∧
    machine.Every (fun call => call.trace.IsQuiet ∧
      ∀ result, call.phase = .finished result → EndsWell call.command.Admits result) := by
  have ran : (Machine.run? (.standard .checked) {} Machine.freedTwice).map (fun machine =>
      (machine.books.registries.host.registrations, machine.books.registries.host.deregistrations,
        machine.calls.all Call.isFinished)) = some (1, 1, true) := by
    decide +kernel
  obtain ⟨machine, run, shape⟩ := Option.map_eq_some_iff.1 ran
  simp only [Prod.mk.injEq] at shape
  obtain ⟨came, went, finished⟩ := shape
  have reachable := Machine.reachable_iff_run?.2 ⟨_, run⟩
  have kept := counters_balance.2.2 (.standard .checked) machine reachable
  exact ⟨machine, reachable, came, went, finished, kept.1, kept.2.1⟩

end TrackedMemory
