import TrackedMemory.Proofs.Manager.Observation

/-!
# Counters, tickets and results balance

A passage is what is seen of one command of a run: its result and its backend calls, and the
registries that it met. The transcript of a run is the list of its passages. Every counter of a
manager is the number of passages or backend calls of one kind in the transcript, and every ticket
that was issued was served: it stands for a registration, a deregistration, a block that was on
record already, or a free that broke off.
-/

namespace TrackedMemory

/-- What is seen of one command, and the registries that it met. -/
structure Passage where
  met : Registries
  command : Command
  result : Except Fault Answer
  calls : List (Request × Reply (Option Ptr))

namespace Passage

@[simp] def isRefusedAllocation : Passage → Bool
  | ⟨_, .allocate .., .ok (.block none), _⟩ => true
  | _ => false

@[simp] def isRefusedCopy : Passage → Bool
  | ⟨_, .copy _, .ok (.verdict false), _⟩ => true
  | _ => false

/-- A deallocation that did not succeed, and did not reach the backend. -/
@[simp] def isRefusedDeallocation : Passage → Bool
  | ⟨_, .deallocate .., .ok (.verdict false), []⟩ => true
  | _ => false

end Passage

/-- Backend call with its answer, and the registries when it was made. -/
structure Contact where
  met : Registries
  request : Request
  reply : Reply (Option Ptr)

namespace Contact

@[simp] def isRefused : Contact → Bool
  | ⟨_, _, .refused _⟩ => true
  | _ => false

@[simp] def isGrant (area : Area) : Contact → Bool
  | ⟨_, .alloc space _, .granted (some _)⟩ => space.area? = some area
  | _ => false

/-- A block of an area that was handed out while its address was on record there. -/
@[simp] def isRepeat (area : Area) : Contact → Bool
  | ⟨met, .alloc space _, .granted (some ptr)⟩ =>
      space.area? = some area ∧ (met.get area).contains ptr.addr = true
  | _ => false

/-- A free of a block of an area that came back, with an error or without. -/
@[simp] def isReturn (area : Area) : Contact → Bool
  | ⟨_, .free space _ _, .granted _⟩ | ⟨_, .free space _ _, .refused _⟩ =>
      space.area? = some area
  | _ => false

@[simp] def isBrokenFree : Contact → Bool
  | ⟨_, .free .., .raised _⟩ => true
  | _ => false

end Contact

def Passage.contacts (passage : Passage) : List Contact :=
  passage.calls.map fun call => ⟨passage.met, call.1, call.2⟩

def contactsOf (transcript : List Passage) : List Contact :=
  transcript.flatMap Passage.contacts

def Area.total (number : Area → Nat) : Nat :=
  number .device + number .host + number .managed

@[simp] theorem Area.total_zero : (Area.total fun _ => 0) = 0 :=
  rfl

namespace Books

/-- Number of registrations and deregistrations, over all areas. -/
def changes (books : Books) : Nat :=
  Area.total fun area => (books.statistics.area area).registrations +
    (books.statistics.area area).deregistrations

/-- What backend calls enter into the registries, and the tickets that are drawn for it. -/
structure Enters (before : Books) (contacts : List Contact) (after : Books) : Prop where
  registrations : ∀ area, (after.registries.get area).registrations +
      contacts.countP (Contact.isRepeat area) =
    (before.registries.get area).registrations + contacts.countP (Contact.isGrant area)
  deregistrations : ∀ area, (after.registries.get area).deregistrations =
    (before.registries.get area).deregistrations + contacts.countP (Contact.isReturn area)
  issued : after.sequencer.issued + before.changes =
    before.sequencer.issued + after.changes +
      (Area.total fun area => contacts.countP (Contact.isRepeat area)) +
      contacts.countP Contact.isBrokenFree

structure Adds (before : Books) (passage : Passage) (after : Books) : Prop where
  allocations : after.tally.allocations =
    before.tally.allocations + [passage].countP Passage.isRefusedAllocation
  copies : after.tally.copies = before.tally.copies + [passage].countP Passage.isRefusedCopy
  deallocations : after.tally.deallocations =
    before.tally.deallocations + [passage].countP Passage.isRefusedDeallocation
  failures : after.tally.backendFailures =
    before.tally.backendFailures + passage.contacts.countP Contact.isRefused
  enters : Enters before passage.contacts after

end Books

namespace Registries

variable {registries : Registries} {area : Area} {ptr : Ptr} {bytes : Size}

theorem registrations_register (registries : Registries) (area : Area) (ptr : Ptr) (bytes : Size)
    (other : Area) :
    ((registries.apply (.register area ptr bytes)).get other).registrations +
        (if area = other ∧ (registries.get other).contains ptr.addr = true then 1 else 0) =
      (registries.get other).registrations + if area = other then 1 else 0 := by
  cases present : (registries.get area).contains ptr.addr with
  | true =>
    by_cases same : area = other
    · subst same
      simp [apply, present]
    · simp [apply, present, same]
  | false =>
    rw [get_apply_register present]
    by_cases same : area = other
    · subst same
      simp [Registry.insert, present]
    · simp [same, Ne.symm same]

theorem deregistrations_register (registries : Registries) (area : Area) (ptr : Ptr) (bytes : Size)
    (other : Area) :
    ((registries.apply (.register area ptr bytes)).get other).deregistrations =
      (registries.get other).deregistrations := by
  cases present : (registries.get area).contains ptr.addr with
  | true => simp [apply, present]
  | false =>
    rw [get_apply_register present]
    split
    next same => rw [same, Registry.insert]
    next => rfl

theorem registrations_deregister (sound : registries.AreSound)
    (member : ⟨ptr.addr, bytes⟩ ∈ (registries.get area).blocks) (other : Area) :
    ((registries.apply (.deregister area ptr)).get other).registrations =
      (registries.get other).registrations := by
  rw [get_apply_deregister ((sound area).find?_of_mem member)]
  split
  next same => rw [same, Registry.erase]
  next => rfl

theorem deregistrations_deregister (sound : registries.AreSound)
    (member : ⟨ptr.addr, bytes⟩ ∈ (registries.get area).blocks) (other : Area) :
    ((registries.apply (.deregister area ptr)).get other).deregistrations =
      (registries.get other).deregistrations + if area = other then 1 else 0 := by
  rw [get_apply_deregister ((sound area).find?_of_mem member)]
  by_cases same : area = other
  · subst same
    simp [Registry.erase]
  · simp [same, Ne.symm same]

end Registries

namespace Books

variable {books : Books} {area : Area} {ptr : Ptr} {bytes : Size}

theorem issued_settle (books : Books) (mutation : Mutation) :
    (books.settle mutation).sequencer.issued = books.sequencer.issued + 1 :=
  rfl

theorem changes_settle_register (books : Books) (area : Area) (ptr : Ptr) (bytes : Size) :
    (books.settle (.register area ptr bytes)).changes +
        (Area.total fun other =>
          if area = other ∧ (books.registries.get other).contains ptr.addr = true then 1 else 0) =
      books.changes + 1 := by
  have came := books.registries.registrations_register area ptr bytes
  have went := books.registries.deregistrations_register area ptr bytes
  have device := came .device
  have host := came .host
  have managed := came .managed
  simp only [changes, area_statistics, Registry.figures, settle, Area.total, went]
  cases area <;> simp only [reduceCtorEq, if_true, if_false, false_and, true_and] at * <;> omega

theorem changes_settle_deregister (settled : books.IsSettled)
    (member : ⟨ptr.addr, bytes⟩ ∈ (books.registries.get area).blocks) :
    (books.settle (.deregister area ptr)).changes = books.changes + 1 := by
  have came := Registries.registrations_deregister settled.sound member
  have went := Registries.deregistrations_deregister settled.sound member
  simp only [changes, area_statistics, Registry.figures, settle, Area.total, came, went]
  cases area <;> simp only [reduceCtorEq, if_true, if_false] <;> omega

/-- A block that was handed out is registered, unless its address is on record already. -/
theorem enters_register (books : Books) (area : Area) (ptr : Ptr) (bytes : Size) :
    Enters books
      [⟨books.registries, .alloc area.space bytes, .granted (some ptr)⟩]
      (books.settle (.register area ptr bytes)) where
  registrations other := by
    have came := books.registries.registrations_register area ptr bytes other
    simpa [settle] using came
  deregistrations other := by
    have went := books.registries.deregistrations_register area ptr bytes other
    simpa [settle] using went
  issued := by
    have changed := books.changes_settle_register area ptr bytes
    have drawn := books.issued_settle (.register area ptr bytes)
    have repeats : (Area.total fun other => List.countP (Contact.isRepeat other)
        [⟨books.registries, .alloc area.space bytes, .granted (some ptr)⟩]) =
        Area.total fun other =>
          if area = other ∧ (books.registries.get other).contains ptr.addr = true then 1
          else 0 := by simp
    have free : List.countP Contact.isBrokenFree
        [⟨books.registries, .alloc area.space bytes, .granted (some ptr)⟩] = 0 := rfl
    omega

theorem enters_deregister (settled : books.IsSettled)
    (member : ⟨ptr.addr, bytes⟩ ∈ (books.registries.get area).blocks) {reply : Reply (Option Ptr)}
    (calm : ∀ reason, reply ≠ .raised reason) :
    Enters books [⟨books.registries, .free area.space ptr bytes, reply⟩]
      (books.settle (.deregister area ptr)) := by
  have came := Registries.registrations_deregister settled.sound member
  have went := Registries.deregistrations_deregister settled.sound member
  have changed := changes_settle_deregister settled member
  have drawn := books.issued_settle (.deregister area ptr)
  cases reply with
  | granted value =>
    exact ⟨by simpa [settle] using came, by simpa [settle] using went, by simp; omega⟩
  | refused failure =>
    exact ⟨by simpa [settle] using came, by simpa [settle] using went, by simp; omega⟩
  | raised reason => exact absurd rfl (calm reason)

/-- A free that broke off has used a ticket up. -/
theorem enters_nothing (books : Books) (area : Area) (ptr : Ptr) (bytes : Size) (reason : String) :
    Enters books [⟨books.registries, .free area.space ptr bytes, .raised reason⟩]
      (books.settle .nothing) := by
  have drawn := books.issued_settle .nothing
  have same : (books.settle .nothing).changes = books.changes := rfl
  exact ⟨by simp [settle, Registries.apply], by simp [settle, Registries.apply], by simp; omega⟩

end Books

namespace Site

variable {β : Type} [Backend β] {setup : Setup} {site : Site β} {command : Command}
  {outcome : Outcome (Site β) Answer}

def passage (site : Site β) (command : Command) (outcome : Outcome (Site β) Answer) : Passage :=
  ⟨site.books.registries, command, outcome.result, outcome.trace.calls⟩

theorem Runs.adds (runs : Runs setup site command outcome) (settled : site.books.IsSettled) :
    site.books.Adds (site.passage command outcome) outcome.state.books := by
  cases runs with
  | allocateRefused | allocateFailed | allocateRaised | deallocateRefused | deallocateUnknown
  | copyNothing | copyRefused | copyGranted | copyFailed | copyRaised =>
    refine ⟨?_, ?_, ?_, ?_, ?_, ?_, ?_⟩ <;> simp [passage, Passage.contacts, Books.changes]
  | query query =>
    refine ⟨?_, ?_, ?_, ?_, ?_, ?_, ?_⟩ <;>
      simp [passage, Passage.contacts, Books.changes, Books.query_calls]
  | @allocateGranted bytes area ptr backend positive answered =>
    have enters := site.books.enters_register area ptr bytes
    -- The allocation ends with its block, or breaks off over it.
    have result : granted setup site.books area ptr bytes = .ok (some ptr) ∨
        ∃ fault, granted setup site.books area ptr bytes = .error fault := by
      rw [granted]
      split
      · exact .inr ⟨_, rfl⟩
      · exact .inl rfl
    rw [passage, Trace.calls_called, Trace.calls_grantedTrace]
    rcases result with result | ⟨fault, result⟩
    · rw [result]
      exact ⟨rfl, rfl, rfl, rfl, enters⟩
    · rw [result]
      exact ⟨rfl, rfl, rfl, rfl, enters⟩
  | deallocateFreed area ptr registered backend member answered =>
    have calm : ∀ reason, Reply.granted (none : Option Ptr) ≠ .raised reason := by simp
    have enters := Books.enters_deregister settled member calm
    rw [passage, Trace.calls_append, Trace.calls_correction]
    exact ⟨rfl, rfl, rfl, rfl, enters⟩
  | deallocateFailed area ptr registered failure backend member answered =>
    have calm : ∀ reason, (.refused failure : Reply (Option Ptr)) ≠ .raised reason := by simp
    have enters := Books.enters_deregister settled member calm
    rw [passage, Trace.calls_append, Trace.calls_correction]
    exact ⟨rfl, rfl, rfl, rfl, enters.registrations, enters.deregistrations, enters.issued⟩
  | deallocateRaised area ptr registered reason backend member answered =>
    have enters := site.books.enters_nothing area ptr registered reason
    rw [passage, Trace.calls_append, Trace.calls_correction]
    exact ⟨rfl, rfl, rfl, rfl, enters⟩

end Site

/-! ## Runs -/

/-- The counters and the tickets of a manager are those that its transcript accounts for. -/
structure Books.Balances (books : Books) (transcript : List Passage) : Prop where
  allocations : books.statistics.rejected.allocations =
    transcript.countP Passage.isRefusedAllocation
  copies : books.statistics.rejected.copies = transcript.countP Passage.isRefusedCopy
  deallocations : books.statistics.rejected.deallocations =
    transcript.countP Passage.isRefusedDeallocation
  failures : books.statistics.rejected.backendFailures =
    (contactsOf transcript).countP Contact.isRefused
  registrations : ∀ area, (books.statistics.area area).registrations +
      (contactsOf transcript).countP (Contact.isRepeat area) =
    (contactsOf transcript).countP (Contact.isGrant area)
  deregistrations : ∀ area, (books.statistics.area area).deregistrations =
    (contactsOf transcript).countP (Contact.isReturn area)
  served : books.sequencer.serving = books.sequencer.issued
  issued : books.sequencer.issued = books.changes +
    (Area.total fun area => (contactsOf transcript).countP (Contact.isRepeat area)) +
    (contactsOf transcript).countP Contact.isBrokenFree

namespace Books

variable {books before after : Books} {transcript : List Passage} {passage : Passage}

theorem balances_empty : Balances {} [] where
  allocations := rfl
  copies := rfl
  deallocations := rfl
  failures := rfl
  registrations area := by cases area <;> rfl
  deregistrations area := by cases area <;> rfl
  served := rfl
  issued := rfl

theorem contactsOf_concat (transcript : List Passage) (passage : Passage) :
    contactsOf (transcript ++ [passage]) = contactsOf transcript ++ passage.contacts := by
  simp [contactsOf]

theorem Balances.concat (balances : before.Balances transcript) (adds : before.Adds passage after)
    (settled : after.IsSettled) : after.Balances (transcript ++ [passage]) where
  allocations := by
    rw [List.countP_append, ← balances.allocations]
    exact adds.allocations
  copies := by
    rw [List.countP_append, ← balances.copies]
    exact adds.copies
  deallocations := by
    rw [List.countP_append, ← balances.deallocations]
    exact adds.deallocations
  failures := by
    rw [contactsOf_concat, List.countP_append, ← balances.failures]
    exact adds.failures
  registrations area := by
    have held := balances.registrations area
    have came := adds.enters.registrations area
    rw [area_statistics] at held ⊢
    rw [contactsOf_concat, List.countP_append, List.countP_append]
    simp only [Registry.figures] at held ⊢
    omega
  deregistrations area := by
    have held := balances.deregistrations area
    have went := adds.enters.deregistrations area
    rw [area_statistics] at held ⊢
    rw [contactsOf_concat, List.countP_append]
    simp only [Registry.figures] at held ⊢
    omega
  served := settled.served
  issued := by
    have held := balances.issued
    have drawn := adds.enters.issued
    rw [contactsOf_concat]
    simp only [List.countP_append, Area.total] at held drawn ⊢
    omega

end Books

namespace Site

variable {β : Type} [Backend β] {site : Site β}

/-- The passages of a run; a command that breaks off does not end it. -/
def transcript (setup : Setup) : List Command → Site β → List Passage
  | [], _ => []
  | command :: rest, site =>
      let outcome := run setup command site
      site.passage command outcome :: transcript setup rest outcome.state

def after (setup : Setup) (commands : List Command) (site : Site β) : Site β :=
  commands.foldl (fun site command => (run setup command site).state) site

theorem balances_run (setup : Setup) (commands : List Command) (settled : site.books.IsSettled)
    {earlier : List Passage} (balances : site.books.Balances earlier) :
    (after setup commands site).books.Balances (earlier ++ transcript setup commands site) := by
  induction commands generalizing site earlier with
  | nil => rwa [transcript, List.append_nil]
  | cons command rest ih =>
    have done : Runs setup site command (run setup command site) := runs settled command
    have next := done.isSettled settled
    have later := ih next (balances.concat (done.adds settled) next)
    rwa [List.append_assoc] at later

/-- After every run of a new manager, over any backend and in either build, every counter is the
number of results or backend calls of its kind. Every ticket was served: there is one for each
registration and each deregistration, one for each block that was handed out at an address on record
in its area, and one for each free that broke off. -/
theorem tallies_balance (setup : Setup) (commands : List Command) (backend : β) :
    (after setup commands { backend }).books.Balances (transcript setup commands { backend }) := by
  have settled : (Site.mk {} backend).books.IsSettled := Books.isSettled_empty
  have balances : (Site.mk {} backend).books.Balances [] := Books.balances_empty
  simpa only [List.nil_append] using balances_run setup commands settled balances

end Site

end TrackedMemory
