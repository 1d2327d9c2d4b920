import TrackedMemory.Backend.Scripted
import TrackedMemory.Proofs.Copying
import TrackedMemory.Proofs.Failing

/-!
# Calls that name a space without blocks

The space `invalid` holds no blocks. An allocation or a deallocation that names it is turned down
before the backend is asked. A copy is accepted if both of its ends lie inside live blocks, and
managed blocks are accepted for whichever space is named; so a copy that names `invalid` is handed
on where that end lies inside a managed block, and nowhere else.
-/

namespace TrackedMemory

/-- Whether a call names the space without blocks. A copy counts if it has something to copy and the
caller does not answer for its ends. -/
def Command.NamesInvalid : Command → Prop
  | .allocate _ space | .deallocate _ _ space => space = .invalid
  | .copy request => request.outside = false ∧ request.bytes ≠ 0 ∧
      (request.dstSpace = .invalid ∨ request.srcSpace = .invalid)
  | .query _ => False

def Command.refusal : Command → Answer
  | .allocate .. => .block none
  | .deallocate .. | .copy _ | .query _ => .verdict false

def Tally.reject (tally : Tally) : Command → Tally
  | .allocate .. => { tally with allocations := tally.allocations + 1 }
  | .deallocate .. => { tally with deallocations := tally.deallocations + 1 }
  | .copy _ => { tally with copies := tally.copies + 1 }
  | .query _ => tally

/-- Whether both ends of a copy lie inside live blocks, each of its own space or of the managed
space. -/
def Registries.Harbours (registries : Registries) : Command → Prop
  | .copy request => registries.Encloses request.dstSpace request.dst request.bytes ∧
      registries.Encloses request.srcSpace request.src request.bytes
  | .allocate .. | .deallocate .. | .query _ => False

namespace Registries

variable {registries : Registries} {addr : Addr} {bytes : Size} {space : Space}

theorem encloses_of_covers (sound : registries.AreSound)
    (covered : registries.covers addr bytes space = true) :
    registries.Encloses space addr bytes := by
  obtain ⟨area, named, block, member, inside, -⟩ := surrounds_of_covers sound covered
  exact ⟨area, named, block, member, inside⟩

/-- The space without blocks encloses what lies inside a managed block. -/
theorem encloses_invalid_iff : registries.Encloses .invalid addr bytes ↔
    ∃ block ∈ registries.managed.blocks, block.Contains addr bytes := by
  constructor
  · rintro ⟨area, named | rfl, inside⟩
    · cases area <;> cases named
    · exact inside
  · exact fun inside => ⟨.managed, .inr rfl, inside⟩

end Registries

namespace Books

variable {β : Type} [Backend β] {setup : Setup} {books : Books} {command : Command}
  {request : CopyRequest} {transfer : Transfer} {visits : List (Visit β)}

/-- What a call comes to that is turned down and counted, and does nothing else. -/
structure Rejects (before : Books) (command : Command) (outcome : Outcome (Site β) Answer) :
    Prop where
  result : outcome.result = .ok command.refusal
  calls : outcome.trace.calls = []
  books : outcome.state.books = { before with tally := before.tally.reject command }

theorem encloses_of_transferOf (sound : books.registries.AreSound) (own : request.outside = false)
    (accepted : books.transferOf request = .ok transfer) :
    transfer.request false = request ∧
      ∀ side, books.registries.Encloses (transfer.space side) (transfer.addr side)
        transfer.bytes := by
  obtain ⟨same, covered⟩ := (transferOf_eq_ok_iff own).1 accepted
  exact ⟨same, fun side => Registries.encloses_of_covers sound (covered side)⟩

theorem rejects_allocate (setup : Setup) (books : Books) (bytes : Size) (backend : β) :
    books.Rejects (.allocate bytes .invalid)
      (books.visit setup ⟨.allocate bytes .invalid, backend⟩) := by
  obtain ⟨remark, refused⟩ : ∃ remark, allocationArea bytes .invalid = .error remark := by
    cases served : allocationArea bytes .invalid with
    | error remark => exact ⟨remark, rfl⟩
    | ok area =>
      obtain ⟨-, named⟩ := allocationArea_eq_ok_iff.1 served
      cases area <;> cases named
  have visited : books.visit setup ⟨.allocate bytes .invalid, backend⟩ = _ :=
    Site.run_of_eq rfl (Site.allocate_refused refused)
  rw [visited]
  exact ⟨rfl, Trace.calls_remarks setup remark, rfl⟩

theorem rejects_deallocate (setup : Setup) (books : Books) (addr : Addr) (bytes : Size)
    (backend : β) :
    books.Rejects (.deallocate addr bytes .invalid)
      (books.visit setup ⟨.deallocate addr bytes .invalid, backend⟩) := by
  obtain ⟨remark, refused⟩ : ∃ remark, deallocationTarget addr .invalid = .error remark := by
    cases target : deallocationTarget addr .invalid with
    | error remark => exact ⟨remark, rfl⟩
    | ok pair =>
      obtain ⟨ptr, area⟩ := pair
      obtain ⟨-, named⟩ := deallocationTarget_eq_ok_iff.1 target
      cases area <;> cases named
  have visited : books.visit setup ⟨.deallocate addr bytes .invalid, backend⟩ = _ :=
    Site.run_of_eq rfl (Site.deallocate_refused refused)
  rw [visited]
  exact ⟨rfl, Trace.calls_remarks setup remark, rfl⟩

theorem rejects_copy {remark : Remark} (positive : request.bytes ≠ 0)
    (refused : books.transferOf request = .error remark) (setup : Setup) (backend : β) :
    books.Rejects (.copy request) (books.visit setup ⟨.copy request, backend⟩) := by
  have visited : books.visit setup ⟨.copy request, backend⟩ = _ :=
    Site.run_of_eq rfl (Site.copy_refused positive refused)
  rw [visited]
  exact ⟨rfl, Trace.calls_remarks setup remark, rfl⟩

theorem visit_accepted (positive : request.bytes ≠ 0)
    (accepted : books.transferOf request = .ok transfer) (setup : Setup) (backend : β) :
    (∃ reply, (books.visit setup ⟨.copy request, backend⟩).trace.calls =
      [(.copy transfer, reply)]) ∧
    (books.visit setup ⟨.copy request, backend⟩).state.books.registries = books.registries ∧
    (books.visit setup ⟨.copy request, backend⟩).state.books.sequencer = books.sequencer := by
  cases answered : Backend.copy transfer backend with
  | mk reply served =>
    cases reply with
    | granted value =>
      have visited : books.visit setup ⟨.copy request, backend⟩ = _ :=
        Site.run_of_eq rfl (Site.copy_granted positive accepted answered)
      rw [visited]
      exact ⟨⟨_, rfl⟩, rfl, rfl⟩
    | refused failure =>
      have visited : books.visit setup ⟨.copy request, backend⟩ = _ :=
        Site.run_of_eq rfl (Site.copy_failed positive accepted answered)
      rw [visited]
      exact ⟨⟨_, rfl⟩, rfl, rfl⟩
    | raised reason =>
      have visited : books.visit setup ⟨.copy request, backend⟩ = _ :=
        Site.run_of_eq rfl (Site.copy_raised positive accepted answered)
      rw [visited]
      exact ⟨⟨_, rfl⟩, rfl, rfl⟩

theorem rejects_of_namesInvalid (sound : books.registries.AreSound) (names : command.NamesInvalid)
    (unharboured : ¬books.registries.Harbours command) (setup : Setup) (backend : β) :
    books.Rejects command (books.visit setup ⟨command, backend⟩) := by
  cases command with
  | allocate bytes space =>
    obtain rfl : space = .invalid := names
    exact rejects_allocate setup books bytes backend
  | deallocate addr bytes space =>
    obtain rfl : space = .invalid := names
    exact rejects_deallocate setup books addr bytes backend
  | copy request =>
    obtain ⟨own, positive, -⟩ := names
    cases judged : books.transferOf request with
    | error remark => exact rejects_copy positive judged setup backend
    | ok transfer =>
      obtain ⟨rfl, enclosed⟩ := encloses_of_transferOf sound own judged
      exact absurd ⟨enclosed .destination, enclosed .source⟩ unharboured
  | query query => exact absurd names id

/-- A backend call that names the space without blocks at most for an end of a copy, where this end
lies inside a managed block. -/
def KeepsInvalidOut (registries : Registries) (call : Request × Reply (Option Ptr)) : Prop :=
  ∃ transfer, call.1 = .copy transfer ∧ ∀ side, transfer.space side = .invalid →
    ∃ block ∈ registries.managed.blocks, block.Contains (transfer.addr side) transfer.bytes

theorem visit_namesInvalid (sound : books.registries.AreSound) (names : command.NamesInvalid)
    (setup : Setup) (backend : β) :
    (books.visit setup ⟨command, backend⟩).state.books.registries = books.registries ∧
    (books.visit setup ⟨command, backend⟩).state.books.sequencer = books.sequencer ∧
    ∀ call ∈ (books.visit setup ⟨command, backend⟩).trace.calls,
      KeepsInvalidOut books.registries call := by
  by_cases rejected : books.Rejects command (books.visit setup ⟨command, backend⟩)
  · rw [rejected.books, rejected.calls]
    exact ⟨rfl, rfl, fun _ none => absurd none List.not_mem_nil⟩
  · -- It was not turned down, so it is a copy between live blocks.
    have harboured : books.registries.Harbours command := by
      by_contra unharboured
      exact rejected (rejects_of_namesInvalid sound names unharboured setup backend)
    cases command with
    | copy request =>
      obtain ⟨own, positive, -⟩ := names
      cases judged : books.transferOf request with
      | error remark => exact absurd (rejects_copy positive judged setup backend) rejected
      | ok transfer =>
        obtain ⟨⟨reply, calls⟩, registries, sequencer⟩ :=
          visit_accepted positive judged setup backend
        refine ⟨registries, sequencer, fun call inside => ?_⟩
        rw [calls] at inside
        refine ⟨transfer, congrArg Prod.fst (List.mem_singleton.1 inside), fun side named => ?_⟩
        have enclosed := (encloses_of_transferOf sound own judged).2 side
        rw [named] at enclosed
        exact Registries.encloses_invalid_iff.1 enclosed
    | allocate | deallocate | query => exact absurd harboured id

theorem after_namesInvalid (sound : books.registries.AreSound)
    (names : ∀ visit ∈ visits, visit.command.NamesInvalid) (setup : Setup) :
    (after setup visits books).registries = books.registries ∧
    (after setup visits books).sequencer = books.sequencer ∧
    ∀ call ∈ calls setup visits books, KeepsInvalidOut books.registries call := by
  induction visits generalizing books with
  | nil => exact ⟨rfl, rfl, fun _ none => absurd none List.not_mem_nil⟩
  | cons next rest ih =>
    obtain ⟨own, others⟩ := List.forall_mem_cons.1 names
    obtain ⟨registries, sequencer, kept⟩ := visit_namesInvalid sound own setup next.backend
    obtain ⟨registries', sequencer', kept'⟩ := ih (registries ▸ sound) others
    rw [registries] at registries' kept'
    exact ⟨registries', sequencer'.trans sequencer, List.forall_mem_append.2 ⟨kept, kept'⟩⟩

/-- Whatever happened to a manager before, a call that names the space without blocks is turned
down, counted once and does nothing else, unless it is a copy between live blocks of the spaces it
names or managed ones. No run of such calls changes registries or tickets, and none has the backend
allocate or free, or copy from or to an end in the space without blocks that lies outside managed
blocks. -/
theorem keeps_invalid_out (arise : books.Arise) (setup : Setup) :
    (∀ (command : Command) (backend : β), command.NamesInvalid →
      ¬books.registries.Harbours command →
        books.Rejects command (books.visit setup ⟨command, backend⟩)) ∧
    ∀ visits : List (Visit β), (∀ visit ∈ visits, visit.command.NamesInvalid) →
      (after setup visits books).registries = books.registries ∧
      (after setup visits books).sequencer = books.sequencer ∧
      ∀ call ∈ calls setup visits books, KeepsInvalidOut books.registries call :=
  ⟨fun _ backend names unharboured =>
      rejects_of_namesInvalid arise.areSound names unharboured setup backend,
    fun _ names => after_namesInvalid arise.areSound names setup⟩

def lent : Fleet Scripted :=
  (Fleet.launch [.standard .checked]
      { script := [.place ⟨0x6000, by decide⟩, .place ⟨0x6800, by decide⟩] }).after
    [.command 0 (.allocate 0x40 .managed), .command 0 (.allocate 0x40 .host)]

/-- Calls that name the space without blocks: an allocation, a deallocation, a copy from inside the
host block, and one inside the managed block. -/
def misnamed : List (Visit Scripted) :=
  [⟨.allocate 8 .invalid, {}⟩, ⟨.deallocate 0x6800 0x40 .invalid, {}⟩,
    ⟨.copy ⟨0x6000, 0x6800, 8, .managed, .invalid, false⟩, {}⟩,
    ⟨.copy ⟨0x6000, 0x6020, 8, .invalid, .invalid, false⟩, {}⟩]

/-- Only the last one reaches the backend. -/
theorem keeps_invalid_out_lent : ∃ member ∈ lent.members,
    (∀ visit ∈ misnamed, visit.command.NamesInvalid) ∧
    member.books.Rejects (.allocate 8 .invalid)
      (member.books.visit (.standard .checked) ⟨.allocate 8 .invalid, ({} : Scripted)⟩) ∧
    calls (.standard .checked) misnamed member.books =
      [(.copy ⟨⟨0x6000, by decide⟩, ⟨0x6020, by decide⟩, 8, .invalid, .invalid⟩, .granted none)] ∧
    ∀ call ∈ calls (.standard .checked) misnamed member.books,
      KeepsInvalidOut member.books.registries call := by
  have made : ∃ member ∈ lent.members, calls (.standard .checked) misnamed member.books =
      [(.copy ⟨⟨0x6000, by decide⟩, ⟨0x6020, by decide⟩, 8, .invalid, .invalid⟩,
        .granted none)] := by
    decide +kernel
  obtain ⟨member, inside, only⟩ := made
  have arise : member.books.Arise := .fleet _ _ _ member inside
  obtain ⟨rejects, keeps⟩ := @keeps_invalid_out Scripted _ member.books arise (.standard .checked)
  have names : ∀ visit ∈ misnamed, visit.command.NamesInvalid := by
    simp [misnamed, Command.NamesInvalid]
  exact ⟨member, inside, names, rejects (.allocate 8 .invalid) {} rfl id, only,
    (keeps misnamed names).2.2⟩

/-- A copy that names the space without blocks for both of its ends is handed on, as it was asked
for, and made: both ends lie inside a managed block. -/
theorem lent_copied : ∃ member ∈ lent.members,
    Command.NamesInvalid (.copy ⟨0x6000, 0x6020, 8, .invalid, .invalid, false⟩) ∧
    (member.books.visit (.standard .checked) ⟨.copy ⟨0x6000, 0x6020, 8, .invalid, .invalid, false⟩,
      ({} : Scripted)⟩).trace.calls =
        [(.copy ⟨⟨0x6000, by decide⟩, ⟨0x6020, by decide⟩, 8, .invalid, .invalid⟩,
          .granted none)] := by
  have made : ∃ member ∈ lent.members, (member.books.visit (.standard .checked)
      ⟨.copy ⟨0x6000, 0x6020, 8, .invalid, .invalid, false⟩, ({} : Scripted)⟩).trace.calls =
        [(.copy ⟨⟨0x6000, by decide⟩, ⟨0x6020, by decide⟩, 8, .invalid, .invalid⟩,
          .granted none)] := by
    decide +kernel
  obtain ⟨member, inside, handed⟩ := made
  exact ⟨member, inside, by simp [Command.NamesInvalid], handed⟩

end Books

end TrackedMemory
