import TrackedMemory.Backend.Scripted
import TrackedMemory.Proofs.Fleet.Builds
import TrackedMemory.Proofs.Fleet.Holdings
import TrackedMemory.Proofs.Reach

/-!
# Calls that fail leave nothing half done

A call that comes to nothing leaves registries and tickets as they were. A free in which the backend
breaks off uses one ticket up and keeps the block on record until some free of it comes back. A free
that comes back drops the record, with an error or without, and the block is unknown from then on
until the backend hands it out again.
-/

namespace TrackedMemory

/-- A call of a manager, and the backend that it meets. -/
structure Visit (β : Type) where
  command : Command
  backend : β

namespace Books

variable {β : Type} [Backend β]

def visit (setup : Setup) (books : Books) (visit : Visit β) : Outcome (Site β) Answer :=
  Site.run setup visit.command ⟨books, visit.backend⟩

/-- The books after visits, one after the other; those that break off do not end it, and the backend
may have changed in any way between two of them. -/
def after (setup : Setup) (visits : List (Visit β)) (books : Books) : Books :=
  visits.foldl (fun books next => (books.visit setup next).state.books) books

def calls (setup : Setup) : List (Visit β) → Books → List (Request × Reply (Option Ptr))
  | [], _ => []
  | next :: rest, books =>
      (books.visit setup next).trace.calls ++ calls setup rest (books.visit setup next).state.books

end Books

/-! ## Blocks on record from call to call -/

/-- A backend call after which a block is still on record: it is no free of the block, unless the
backend broke off. -/
def Spares (area : Area) (ptr : Ptr) (call : Request × Reply (Option Ptr)) : Prop :=
  ∀ bytes, call.1 = .free area.space ptr bytes → ∃ reason, call.2 = .raised reason

/-- A backend call that does not hand a block out. -/
def Withholds (area : Area) (ptr : Ptr) (call : Request × Reply (Option Ptr)) : Prop :=
  ∀ bytes, call ≠ (.alloc area.space bytes, .granted (some ptr))

/-- Every backend call of the kind `Q` keeps the property `P` of registries. -/
def ExchangesPreserve (β : Type) [Backend β] (Q : Request × Reply (Option Ptr) → Prop)
    (P : Registries → Prop) : Prop :=
  ∀ ⦃registries next : Registries⦄ ⦃backend served : β⦄ ⦃request : Request⦄
    ⦃reply : Reply (Option Ptr)⦄, Exchange registries backend request reply next served →
    registries.AreSound → Q (request, reply) → P registries → P next

section Exchanges

variable {β : Type} [Backend β] {registries next : Registries} {backend served : β}
  {calls : List (Request × Reply (Option Ptr))} {Q : Request × Reply (Option Ptr) → Prop}
  {P : Registries → Prop}

/-- A block stays on record until a free of it comes back. -/
theorem spared_found (area : Area) (ptr : Ptr) (block : Block) :
    ExchangesPreserve β (Spares area ptr) fun registries =>
      (registries.get area).find? ptr.addr = some block := by
  intro registries next backend served request reply exchange sound spares found
  cases exchange with
  | denied | raised | copied => exact found
  | granted other bytes new positive answered =>
    cases present : (registries.get other).contains new.addr with
    | true => simpa [Registries.apply, present] using found
    | false =>
      rw [Registries.find?_register sound present, if_neg, found]
      rintro ⟨rfl, same⟩
      rw [← same, Registry.contains, found] at present
      cases present
  | @returned _ answer other old bytes member answered calm =>
    rw [Registries.find?_deregister sound member, if_neg, found]
    rintro ⟨rfl, same⟩
    obtain rfl := Ptr.ext same
    obtain ⟨reason, broke⟩ := spares bytes rfl
    cases answer with
    | raised => exact calm _ rfl
    | granted | refused => cases broke

/-- A block that is not on record stays so until the backend hands it out. -/
theorem withheld_unknown (area : Area) (ptr : Ptr) :
    ExchangesPreserve β (Withholds area ptr) fun registries =>
      (registries.get area).find? ptr.addr = none := by
  intro registries next backend served request reply exchange sound withholds absent
  cases exchange with
  | denied | raised | copied => exact absent
  | granted other bytes new positive answered =>
    cases present : (registries.get other).contains new.addr with
    | true => simpa [Registries.apply, present] using absent
    | false =>
      rw [Registries.find?_register sound present, if_neg, absent]
      rintro ⟨rfl, same⟩
      obtain rfl := Ptr.ext same
      exact withholds bytes rfl
  | returned other old bytes member answered calm =>
    rw [Registries.find?_deregister sound member, absent, ite_self]

theorem Course.preserves (kept : ExchangesPreserve β Q P)
    (course : Course registries backend calls next served) (sound : registries.AreSound)
    (kind : ∀ call ∈ calls, Q call) (holds : P registries) : P next := by
  induction course with
  | done => exact holds
  | call exchange further ih =>
    obtain ⟨first, rest⟩ := List.forall_mem_cons.1 kind
    exact ih (exchange.areSound sound) rest (kept exchange sound first holds)

end Exchanges

namespace Books

variable {β : Type} [Backend β] {setup : Setup} {books : Books} {visits : List (Visit β)}
  {area : Area} {ptr : Ptr} {bytes : Size} {Q : Request × Reply (Option Ptr) → Prop}
  {P : Registries → Prop}

/-- What every backend call of a kind keeps holds after visits that make no others. -/
theorem after_preserves (kept : ExchangesPreserve β Q P) (settled : books.IsSettled)
    (kind : ∀ call ∈ calls setup visits books, Q call) (holds : P books.registries) :
    (after setup visits books).IsSettled ∧ P (after setup visits books).registries := by
  induction visits generalizing books with
  | nil => exact ⟨settled, holds⟩
  | cons next rest ih =>
    have runs : Site.Runs setup ⟨books, next.backend⟩ next.command (books.visit setup next) :=
      Site.runs settled next.command
    obtain ⟨first, later⟩ := List.forall_mem_append.1 kind
    exact ih (runs.isSettled settled) later (runs.course.preserves kept settled.sound first holds)

theorem visit_known (settled : books.IsSettled)
    (member : ⟨ptr.addr, bytes⟩ ∈ (books.registries.get area).blocks) (given : Size) (backend : β) :
    ∃ reply, (books.visit setup ⟨.deallocate ptr.addr given area.space, backend⟩).trace.calls =
      [(.free area.space ptr bytes, reply)] := by
  cases answered : Backend.free area.space ptr bytes backend with
  | mk reply served =>
    cases reply with
    | granted value =>
      have runs : Site.Runs setup ⟨books, backend⟩ (.deallocate ptr.addr given area.space) _ :=
        .deallocateFreed area ptr bytes served member answered
      exact ⟨.granted none, by rw [visit, runs.run_eq settled]; simp⟩
    | refused failure =>
      have runs : Site.Runs setup ⟨books, backend⟩ (.deallocate ptr.addr given area.space) _ :=
        .deallocateFailed area ptr bytes failure served member answered
      exact ⟨.refused failure, by rw [visit, runs.run_eq settled]; simp⟩
    | raised reason =>
      have runs : Site.Runs setup ⟨books, backend⟩ (.deallocate ptr.addr given area.space) _ :=
        .deallocateRaised area ptr bytes reason served member answered
      exact ⟨.raised reason, by rw [visit, runs.run_eq settled]; simp⟩

/-- What a call comes to that is turned down without asking the backend. -/
structure IsTurnedDown (before : Books) (outcome : Outcome (Site β) Answer) : Prop where
  result : outcome.result = .ok (.verdict false)
  calls : outcome.trace.calls = []
  registries : outcome.state.books.registries = before.registries
  sequencer : outcome.state.books.sequencer = before.sequencer

theorem visit_unknown (settled : books.IsSettled)
    (absent : (books.registries.get area).find? ptr.addr = none) (given : Size) (backend : β) :
    books.IsTurnedDown
      (books.visit setup ⟨.deallocate ptr.addr given area.space, backend⟩) := by
  have runs : Site.Runs setup ⟨books, backend⟩ (.deallocate ptr.addr given area.space) _ :=
    .deallocateUnknown area ptr (by simp [Registry.contains, absent])
  rw [visit, runs.run_eq settled]
  exact ⟨rfl, Trace.calls_remarks setup _, rfl, rfl⟩

/-- A block on record can be freed as long as no free of it has come back. -/
theorem reaches_after (settled : books.IsSettled)
    (member : ⟨ptr.addr, bytes⟩ ∈ (books.registries.get area).blocks)
    (spared : ∀ call ∈ calls setup visits books, Spares area ptr call) (given : Size)
    (backend : β) :
    ∃ reply, ((after setup visits books).visit setup
      ⟨.deallocate ptr.addr given area.space, backend⟩).trace.calls =
        [(.free area.space ptr bytes, reply)] := by
  have found := (settled.sound area).find?_of_mem member
  obtain ⟨rest, still⟩ := after_preserves (spared_found area ptr _) settled spared found
  exact visit_known rest ((rest.sound area).find?_eq_some_iff.1 still).1 given backend

/-- A block that is not on record cannot be freed until the backend hands it out. -/
theorem isTurnedDown_after (settled : books.IsSettled)
    (absent : (books.registries.get area).find? ptr.addr = none)
    (withheld : ∀ call ∈ calls setup visits books, Withholds area ptr call) (given : Size)
    (backend : β) :
    (after setup visits books).IsTurnedDown ((after setup visits books).visit setup
      ⟨.deallocate ptr.addr given area.space, backend⟩) := by
  obtain ⟨rest, still⟩ := after_preserves (withheld_unknown area ptr) settled withheld absent
  exact visit_unknown rest still given backend

end Books

/-! ## What a call that fails leaves behind -/

namespace Books

variable {β : Type} [Backend β]

inductive ComesToNothing (before : Books) (outcome : Outcome (Site β) Answer) : Command → Prop
  /-- An allocation returns no block. -/
  | unallocated {bytes : Size} {space : Space} (nothing : outcome.result = .ok (.block none)) :
      ComesToNothing before outcome (.allocate bytes space)
  /-- The backend breaks off while it looks for a block. -/
  | allocRaised {bytes : Size} {space : Space} {reason : String}
      (raised : (.alloc space bytes, .raised reason) ∈ outcome.trace.calls) :
      ComesToNothing before outcome (.allocate bytes space)
  /-- A deallocation names a null pointer, a space without blocks or a block that is not on
  record. -/
  | refused {addr : Addr} {bytes : Size} {space : Space}
      (guards : before.TurnsDown (.deallocate addr bytes space)) :
      ComesToNothing before outcome (.deallocate addr bytes space)
  /-- Nothing is copied. -/
  | uncopied {request : CopyRequest} (nothing : outcome.result = .ok (.verdict false)) :
      ComesToNothing before outcome (.copy request)
  /-- The backend breaks off while it copies. -/
  | copyRaised {request : CopyRequest} {transfer : Transfer} {reason : String}
      (raised : (.copy transfer, .raised reason) ∈ outcome.trace.calls) :
      ComesToNothing before outcome (.copy request)

/-- What is left after the backend broke off the free of a block. -/
structure KeepsBlock (setup : Setup) (before : Books) (outcome : Outcome (Site β) Answer)
    (area : Area) (ptr : Ptr) (bytes : Size) (reason : String) : Prop where
  result : outcome.result = .error (.raised reason)
  registries : outcome.state.books.registries = before.registries
  tally : outcome.state.books.tally = before.tally
  issued : outcome.state.books.sequencer.issued = before.sequencer.issued + 1
  served : outcome.state.books.sequencer.serving = before.sequencer.serving + 1
  recorded : ⟨ptr.addr, bytes⟩ ∈ (outcome.state.books.registries.get area).blocks
  /-- A later deallocation of the block reaches the backend as long as no free of it came back. -/
  accepted : ∀ (visits : List (Visit β)) (given : Size) (backend : β),
    (∀ call ∈ calls setup visits outcome.state.books, Spares area ptr call) →
    ∃ reply, ((after setup visits outcome.state.books).visit setup
      ⟨.deallocate ptr.addr given area.space, backend⟩).trace.calls =
        [(.free area.space ptr bytes, reply)]

/-- What is left after the free of a block came back, with an error or without. -/
structure DropsBlock (setup : Setup) (before : Books) (outcome : Outcome (Site β) Answer)
    (area : Area) (ptr : Ptr) (bytes : Size) : Prop where
  recorded : ⟨ptr.addr, bytes⟩ ∈ (before.registries.get area).blocks
  /-- One record is gone, and one deregistration is counted. -/
  registries : outcome.state.books.registries =
    before.registries.set ((before.registries.get area).erase ⟨ptr.addr, bytes⟩) area
  issued : outcome.state.books.sequencer.issued = before.sequencer.issued + 1
  served : outcome.state.books.sequencer.serving = before.sequencer.serving + 1
  /-- A later deallocation of the block is turned down until the backend hands it out again. -/
  unknown : ∀ (visits : List (Visit β)) (given : Size) (backend : β),
    (∀ call ∈ calls setup visits outcome.state.books, Withholds area ptr call) →
    (after setup visits outcome.state.books).IsTurnedDown
      ((after setup visits outcome.state.books).visit setup
        ⟨.deallocate ptr.addr given area.space, backend⟩)

structure FailsAtomically (setup : Setup) (before : Books) (command : Command)
    (outcome : Outcome (Site β) Answer) : Prop where
  nothing : before.ComesToNothing outcome command →
    outcome.state.books.registries = before.registries ∧
      outcome.state.books.sequencer = before.sequencer
  raised : ∀ space ptr bytes reason,
    (.free space ptr bytes, .raised reason) ∈ outcome.trace.calls →
      ∃ area : Area, space = area.space ∧ KeepsBlock setup before outcome area ptr bytes reason
  returned : ∀ space ptr bytes reply, (.free space ptr bytes, reply) ∈ outcome.trace.calls →
    (∀ reason, reply ≠ .raised reason) →
      ∃ area : Area, space = area.space ∧ DropsBlock setup before outcome area ptr bytes

end Books

namespace Site

variable {β : Type} [Backend β] {setup : Setup} {site : Site β} {command : Command}
  {outcome : Outcome (Site β) Answer}

omit [Backend β] in
theorem not_turnsDown (settled : site.books.IsSettled) {area : Area} {ptr : Ptr}
    {registered given : Size}
    (member : ⟨ptr.addr, registered⟩ ∈ (site.books.registries.get area).blocks) :
    ¬site.books.TurnsDown (.deallocate ptr.addr given area.space) := by
  have target : deallocationTarget ptr.addr area.space = .ok (ptr, area) :=
    deallocationTarget_eq_ok_iff.2 ⟨rfl, rfl⟩
  rintro (⟨reason, refused⟩ | ⟨other, here, named, unknown⟩)
  · rw [target] at refused
    cases refused
  · rw [target] at named
    cases named
    have found := (settled.sound area).find?_of_mem member
    rw [Registry.sizeOf, found] at unknown
    exact (settled.genuine area _ member).2 unknown

theorem Runs.of_nothing (runs : Runs setup site command outcome) (settled : site.books.IsSettled)
    (nothing : site.books.ComesToNothing outcome command) :
    outcome.state.books.registries = site.books.registries ∧
      outcome.state.books.sequencer = site.books.sequencer := by
  cases runs with
  | allocateGranted area ptr backend positive answered =>
    cases nothing with
    | unallocated nothing =>
      simp only [granted] at nothing
      split at nothing <;> cases nothing
    | allocRaised raised => simp at raised
  | deallocateFreed area ptr registered backend member
  | deallocateRaised area ptr registered reason backend member
  | deallocateFailed area ptr registered failure backend member =>
    cases nothing with
    | refused guards => exact absurd guards (not_turnsDown settled member)
  | _ => exact ⟨rfl, rfl⟩

/-- A free is made of a block on record, and what it leaves depends on whether it came back. -/
theorem Runs.of_free (runs : Runs setup site command outcome) {space : Space} {ptr : Ptr}
    {bytes : Size} {reply : Reply (Option Ptr)}
    (called : (.free space ptr bytes, reply) ∈ outcome.trace.calls) :
    ∃ area : Area, space = area.space ∧
      ⟨ptr.addr, bytes⟩ ∈ (site.books.registries.get area).blocks ∧
      ((∃ reason, reply = .raised reason ∧ outcome.result = .error (.raised reason) ∧
          outcome.state.books = site.books.settle .nothing) ∨
        ((∀ reason, reply ≠ .raised reason) ∧
          outcome.state.books.registries = site.books.registries.apply (.deregister area ptr) ∧
          outcome.state.books.sequencer = site.books.sequencer.draw.retire)) := by
  cases runs with
  | deallocateFreed area own registered backend member answered =>
    rw [Trace.calls_append, Trace.calls_correction] at called
    cases List.mem_singleton.1 called
    exact ⟨area, rfl, member, .inr ⟨by simp, rfl, rfl⟩⟩
  | deallocateFailed area own registered failure backend member answered =>
    rw [Trace.calls_append, Trace.calls_correction] at called
    cases List.mem_singleton.1 called
    exact ⟨area, rfl, member, .inr ⟨by simp, rfl, rfl⟩⟩
  | deallocateRaised area own registered reason backend member answered =>
    rw [Trace.calls_append, Trace.calls_correction] at called
    cases List.mem_singleton.1 called
    exact ⟨area, rfl, member, .inl ⟨reason, rfl, rfl, rfl⟩⟩
  | query query => simp [Books.query_calls] at called
  | _ => simp at called

theorem Runs.keepsBlock (runs : Runs setup site command outcome) (settled : site.books.IsSettled)
    {space : Space} {ptr : Ptr} {bytes : Size} {reason : String}
    (called : (.free space ptr bytes, .raised reason) ∈ outcome.trace.calls) :
    ∃ area : Area, space = area.space ∧
      Books.KeepsBlock setup site.books outcome area ptr bytes reason := by
  obtain ⟨area, same, member, ⟨_, broke, result, kept⟩ | ⟨calm, -⟩⟩ := runs.of_free called
  · cases broke
    have recorded : ⟨ptr.addr, bytes⟩ ∈ (outcome.state.books.registries.get area).blocks := by
      rw [kept]
      exact member
    have registries := congrArg Books.registries kept
    have tally := congrArg Books.tally kept
    have tickets := congrArg Books.sequencer kept
    refine ⟨area, same, result, registries, tally, congrArg Sequencer.issued tickets,
      congrArg Sequencer.serving tickets, recorded, ?_⟩
    intro visits given backend spared
    exact Books.reaches_after (runs.isSettled settled) recorded spared given backend
  · exact absurd rfl (calm reason)

theorem Runs.dropsBlock (runs : Runs setup site command outcome) (settled : site.books.IsSettled)
    {space : Space} {ptr : Ptr} {bytes : Size} {reply : Reply (Option Ptr)}
    (called : (.free space ptr bytes, reply) ∈ outcome.trace.calls)
    (calm : ∀ reason, reply ≠ .raised reason) :
    ∃ area : Area, space = area.space ∧
      Books.DropsBlock setup site.books outcome area ptr bytes := by
  obtain ⟨area, same, member, ⟨reason, broke, -⟩ | ⟨-, dropped, tickets⟩⟩ := runs.of_free called
  · exact absurd broke (calm reason)
  · have found := (settled.sound area).find?_of_mem member
    have absent : (outcome.state.books.registries.get area).find? ptr.addr = none := by
      rw [dropped, Registries.find?_deregister settled.sound member, if_pos ⟨rfl, rfl⟩]
    refine ⟨area, same, member, ?_, congrArg Sequencer.issued tickets,
      congrArg Sequencer.serving tickets, ?_⟩
    · simp [dropped, Registries.apply, found]
    · intro visits given backend withheld
      exact Books.isTurnedDown_after (runs.isSettled settled) absent withheld given backend

end Site

namespace Books

variable {β : Type} [Backend β] {books : Books}

/-- Every call of a manager at rest leaves nothing half done, however it fails: it changes neither
registries nor tickets, or it is a deallocation that used one ticket up and kept its block or
dropped it. -/
theorem fails_atomically (rest : books.Rest) (setup : Setup) (visit : Visit β) :
    FailsAtomically setup books visit.command (books.visit setup visit) := by
  have settled := rest.isSettled
  have runs : Site.Runs setup ⟨books, visit.backend⟩ visit.command (books.visit setup visit) :=
    Site.runs settled visit.command
  refine ⟨runs.of_nothing settled, ?_, ?_⟩
  · intro space ptr bytes reason called
    exact runs.keepsBlock settled called
  · intro space ptr bytes reply called calm
    exact runs.dropsBlock settled called calm

def laden : Fleet Scripted :=
  (Fleet.launch [.standard .checked] { script := [.place ⟨0x7000, by decide⟩] }).after
    [.command 0 (.allocate 8 .host)]

def unloading (cue : Cue) : Visit Scripted :=
  ⟨.deallocate 0x7000 8 .host, { script := [cue] }⟩

/-- The block is kept if the backend breaks off, and dropped if it answers with an error. -/
theorem fails_atomically_laden : ∃ member ∈ laden.members,
    KeepsBlock (.standard .checked) member.books
        (member.books.visit (.standard .checked) (unloading (.breakOff "torn")))
        .host ⟨0x7000, by decide⟩ 8 "torn" ∧
      DropsBlock (.standard .checked) member.books
        (member.books.visit (.standard .checked) (unloading (.fail (.system "lost"))))
        .host ⟨0x7000, by decide⟩ 8 := by
  have held : ∃ member ∈ laden.members,
      (.free .host ⟨0x7000, by decide⟩ 8, .raised "torn") ∈
          (member.books.visit (.standard .checked) (unloading (.breakOff "torn"))).trace.calls ∧
        (.free .host ⟨0x7000, by decide⟩ 8, .refused (.system "lost")) ∈
          (member.books.visit (.standard .checked)
            (unloading (.fail (.system "lost")))).trace.calls := by decide +kernel
  obtain ⟨member, inside, torn, lost⟩ := held
  have rest : member.books.Rest := .fleet _ _ _ member inside
  have breaks := fails_atomically rest (.standard .checked) (unloading (.breakOff "torn"))
  have errs := fails_atomically rest (.standard .checked) (unloading (.fail (.system "lost")))
  obtain ⟨area, same, keeps⟩ := breaks.raised _ _ _ _ torn
  obtain rfl : Area.host = area := Area.space_injective same
  obtain ⟨area, same, drops⟩ := errs.returned _ _ _ _ lost (by simp)
  obtain rfl : Area.host = area := Area.space_injective same
  exact ⟨member, inside, keeps, drops⟩

end Books

end TrackedMemory
