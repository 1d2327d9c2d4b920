import TrackedMemory.Backend.Scripted
import TrackedMemory.Proofs.Reach
import TrackedMemory.Proofs.Registry.Ranges

/-!
# Which copies reach the backend

A copy reaches the backend if it is admitted: there are bytes to copy, neither end is null, and
unless the caller answers for both ends, each of them lies inside one live block of its own space or
of the managed space. Whether it does is said of natural numbers, so that no range wraps. On books
that come up while a manager runs, and whose blocks lie apart, every copy does this and no more: it
leaves registries and tickets alone and counts what was turned down.
-/

namespace TrackedMemory

namespace Registries

variable {registries : Registries} {addr : Addr} {bytes : Size} {space : Space}

/-- In every area the blocks do not overlap, and each of them ends below `2 ^ 64`. -/
def LieApart (registries : Registries) : Prop :=
  ∀ area, (registries.get area).LiesApart

/-- A range of addresses lies inside one live block, of a space or of the managed space. -/
def Encloses (registries : Registries) (space : Space) (addr : Addr) (bytes : Size) : Prop :=
  ∃ area : Area, (space = area.space ∨ area = .managed) ∧
    ∃ block ∈ (registries.get area).blocks, block.Contains addr bytes

/-- A range lies inside such a block, and the block ends below `2 ^ 64`. -/
def Surrounds (registries : Registries) (space : Space) (addr : Addr) (bytes : Size) : Prop :=
  ∃ area : Area, (space = area.space ∨ area = .managed) ∧
    ∃ block ∈ (registries.get area).blocks, block.Contains addr bytes ∧ block.stop < UInt64.size

theorem mem_candidates {area : Area} :
    area ∈ candidates space ↔ space = area.space ∨ area = .managed := by
  rw [candidates, List.mem_append, Option.mem_toList, Space.area?_eq_some_iff, List.mem_singleton]

/-- What is covered is surrounded, wherever blocks lie. -/
theorem surrounds_of_covers (sound : registries.AreSound)
    (covered : registries.covers addr bytes space = true) :
    registries.Surrounds space addr bytes := by
  obtain ⟨area, candidate, found⟩ := List.any_eq_true.1 covered
  exact ⟨area, mem_candidates.1 candidate, (sound area).exists_contains found⟩

theorem covers_iff_encloses (sound : registries.AreSound) (apart : registries.LieApart) :
    registries.covers addr bytes space = true ↔ registries.Encloses space addr bytes := by
  simp only [covers, Encloses, List.any_eq_true, mem_candidates]
  exact exists_congr fun area => and_congr_right fun _ =>
    (sound area).covers_iff_exists (apart area)

end Registries

def Transfer.request (transfer : Transfer) (outside : Bool) : CopyRequest :=
  ⟨transfer.dst.addr, transfer.src.addr, transfer.bytes, transfer.dstSpace, transfer.srcSpace,
    outside⟩

structure CopyRequest.IsAdmitted (request : CopyRequest) (registries : Registries) : Prop where
  positive : 0 < request.bytes
  dst : request.dst ≠ 0
  src : request.src ≠ 0
  vouched : request.outside = true ∨
    registries.Encloses request.dstSpace request.dst request.bytes ∧
      registries.Encloses request.srcSpace request.src request.bytes

theorem CopyRequest.exists_transfer {request : CopyRequest} (dst : request.dst ≠ 0)
    (src : request.src ≠ 0) : ∃ transfer : Transfer, transfer.request request.outside = request :=
  ⟨⟨⟨request.dst, dst⟩, ⟨request.src, src⟩, request.bytes, request.dstSpace, request.srcSpace⟩, rfl⟩

theorem CopyRequest.transfer?_eq_some_iff {request : CopyRequest} {transfer : Transfer} :
    request.transfer? = some transfer ↔ transfer.request request.outside = request := by
  obtain ⟨dst, src, bytes, dstSpace, srcSpace, outside⟩ := request
  obtain ⟨dstPtr, srcPtr, bytes', dstSpace', srcSpace'⟩ := transfer
  constructor
  · intro asked
    unfold transfer? at asked
    split at asked
    next dstFound srcFound =>
      cases asked
      rw [Transfer.request, Ptr.ofAddr?_eq_some_iff.1 dstFound, Ptr.ofAddr?_eq_some_iff.1 srcFound]
    next => cases asked
  · intro same
    cases same
    simp [transfer?]

namespace Books

variable {books : Books} {request : CopyRequest} {transfer : Transfer}

theorem uncovered?_eq_none_iff (sound : books.registries.AreSound)
    (apart : books.registries.LieApart) :
    books.uncovered? transfer = none ↔
      books.registries.Encloses transfer.dstSpace transfer.dst.addr transfer.bytes ∧
        books.registries.Encloses transfer.srcSpace transfer.src.addr transfer.bytes := by
  rw [← Registries.covers_iff_encloses sound apart, ← Registries.covers_iff_encloses sound apart]
  simp [uncovered?, coversEnd, Transfer.space, Transfer.addr]

theorem uncovered?_eq_none : books.uncovered? transfer = none ↔
    ∀ side, books.coversEnd transfer side = true := by
  constructor
  · intro covered side
    have both : ∀ side ∈ [End.destination, .source], books.coversEnd transfer side = true := by
      simpa [uncovered?] using covered
    exact both side (by cases side <;> decide)
  · intro covered
    simp [uncovered?, covered]

/-- A copy for whose ends the caller does not answer has a transfer if both ends are covered. -/
theorem transferOf_eq_ok_iff (own : request.outside = false) :
    books.transferOf request = .ok transfer ↔
      transfer.request false = request ∧ ∀ side, books.coversEnd transfer side = true := by
  rw [← uncovered?_eq_none, ← own, ← CopyRequest.transfer?_eq_some_iff]
  cases named : request.transfer? with
  | none => simp [transferOf, named]
  | some asked =>
    cases objected : books.uncovered? asked with
    | none =>
      simp only [transferOf, named, own, objected, Bool.false_eq_true, if_false, Except.ok.injEq,
        Option.some.injEq]
      exact ⟨fun same => ⟨same, same ▸ objected⟩, And.left⟩
    | some side =>
      simp only [transferOf, named, own, objected, Bool.false_eq_true, if_false, reduceCtorEq,
        Option.some.injEq, false_iff, not_and]
      rintro rfl
      simp [objected]

theorem transferOf_of_isAdmitted (sound : books.registries.AreSound)
    (apart : books.registries.LieApart) {outside : Bool}
    (admitted : (transfer.request outside).IsAdmitted books.registries) :
    books.transferOf (transfer.request outside) = .ok transfer := by
  have named : (transfer.request outside).transfer? = some transfer :=
    CopyRequest.transfer?_eq_some_iff.2 rfl
  have unopposed : (if outside then none else books.uncovered? transfer) = none := by
    rcases admitted.vouched with vouched | enclosed
    · exact if_pos vouched
    · split
      · rfl
      · exact (uncovered?_eq_none_iff sound apart).2 enclosed
  simp only [transferOf, named]
  rw [show (transfer.request outside).outside = outside from rfl, unopposed]

theorem isAdmitted_of_transferOf (sound : books.registries.AreSound)
    (apart : books.registries.LieApart) (positive : request.bytes ≠ 0)
    (accepted : books.transferOf request = .ok transfer) :
    request.IsAdmitted books.registries := by
  cases named : request.transfer? with
  | none => simp [transferOf, named] at accepted
  | some asked =>
    cases objected : if request.outside then none else books.uncovered? asked with
    | some side => simp [transferOf, named, objected] at accepted
    | none =>
      simp only [transferOf, named, objected] at accepted
      cases accepted
      have same := CopyRequest.transfer?_eq_some_iff.1 named
      refine ⟨UInt64.pos_iff_ne_zero.2 positive, ?_, ?_, ?_⟩
      · rw [← same]
        exact transfer.dst.addr_ne_zero
      · rw [← same]
        exact transfer.src.addr_ne_zero
      · cases outside : request.outside with
        | true => exact .inl rfl
        | false =>
          rw [outside] at objected
          have enclosed := (uncovered?_eq_none_iff sound apart).1 objected
          rw [← same]
          exact .inr enclosed

end Books

namespace Site

variable {β : Type} [Backend β] {site : Site β} {setup : Setup} {request : CopyRequest}
  {transfer : Transfer} {outcome : Outcome (Site β) Bool}

structure CopiesExactly (site : Site β) (request : CopyRequest) (outcome : Outcome (Site β) Bool) :
    Prop where
  /-- A copy that is admitted reaches the backend once, as it was asked for, and leaves the backend
  as it is after that call. -/
  called : request.IsAdmitted site.books.registries → ∃ transfer : Transfer,
    transfer.request request.outside = request ∧
      outcome.trace.calls =
        [(.copy transfer, (Backend.copy transfer site.backend).1.map fun _ => none)] ∧
      outcome.state.backend = (Backend.copy transfer site.backend).2
  /-- No other copy does. -/
  silent : ¬request.IsAdmitted site.books.registries →
    outcome.trace.calls = [] ∧ outcome.state.backend = site.backend
  copied : outcome.result = .ok true ↔ request.bytes = 0 ∨
    ∃ transfer, outcome.trace.calls = [(.copy transfer, .granted none)]
  broken : ∀ fault, outcome.result = .error fault ↔ ∃ transfer reason, fault = .raised reason ∧
    outcome.trace.calls = [(.copy transfer, .raised reason)]
  registries : outcome.state.books.registries = site.books.registries
  sequencer : outcome.state.books.sequencer = site.books.sequencer
  tally : outcome.state.books.tally = { site.books.tally with
    copies := site.books.tally.copies + if outcome.result = .ok false then 1 else 0
    backendFailures := site.books.tally.backendFailures +
      outcome.trace.calls.countP fun call => call.2.isRefused }

theorem copiesExactly_of_not_isAdmitted (sound : site.books.registries.AreSound)
    (apart : site.books.registries.LieApart) (barred : ¬request.IsAdmitted site.books.registries) :
    site.CopiesExactly request (copy setup request site) := by
  by_cases nothing : request.bytes = 0
  · rw [copy_nothing nothing]
    constructor <;> simp [barred, nothing]
  · cases accepted : site.books.transferOf request with
    | ok transfer =>
      exact absurd (Books.isAdmitted_of_transferOf sound apart nothing accepted) barred
    | error remark =>
      rw [copy_refused nothing accepted]
      constructor <;> simp [barred, nothing]

theorem copiesExactly_of_isAdmitted (sound : site.books.registries.AreSound)
    (apart : site.books.registries.LieApart) (admitted : request.IsAdmitted site.books.registries) :
    site.CopiesExactly request (copy setup request site) := by
  obtain ⟨transfer, same⟩ := CopyRequest.exists_transfer admitted.dst admitted.src
  have positive : request.bytes ≠ 0 := UInt64.pos_iff_ne_zero.1 admitted.positive
  have accepted : site.books.transferOf request = .ok transfer := by
    rw [← same] at admitted ⊢
    exact Books.transferOf_of_isAdmitted sound apart admitted
  cases answered : Backend.copy transfer site.backend with
  | mk reply backend =>
    cases reply with
    | granted value =>
      rw [copy_granted positive accepted answered]
      exact ⟨fun _ => ⟨transfer, same, by rw [answered]; rfl, by rw [answered]⟩,
        fun barred => absurd admitted barred, by simp, by simp, rfl, rfl, by simp⟩
    | refused failure =>
      rw [copy_failed positive accepted answered]
      exact ⟨fun _ => ⟨transfer, same, by rw [answered]; rfl, by rw [answered]⟩,
        fun barred => absurd admitted barred, by simp [positive], by simp, rfl, rfl, by simp⟩
    | raised reason =>
      rw [copy_raised positive accepted answered]
      exact ⟨fun _ => ⟨transfer, same, by rw [answered]; rfl, by rw [answered]⟩,
        fun barred => absurd admitted barred, by simp [positive], by simp [eq_comm], rfl, rfl,
        by simp⟩

/-- Where the blocks of every area lie apart, whatever happened to the manager before, a copy is
handed on to the backend exactly if it is admitted. -/
theorem copies_exactly {books : Books} (arise : books.Arise) (apart : books.registries.LieApart)
    (setup : Setup) (backend : β) (request : CopyRequest) :
    CopiesExactly ⟨books, backend⟩ request (copy setup request ⟨books, backend⟩) := by
  have sound := arise.areSound
  by_cases admitted : request.IsAdmitted books.registries
  · exact copiesExactly_of_isAdmitted sound apart admitted
  · exact copiesExactly_of_not_isAdmitted sound apart admitted

/-- A manager with a block of host memory and one of managed memory right behind it. -/
def furnished : Fleet Scripted :=
  (Fleet.launch [.standard .checked]
      { script := [.place ⟨0x2000, by decide⟩, .place ⟨0x2100, by decide⟩] }).after
    [.command 0 (.allocate 0x100 .host), .command 0 (.allocate 0x40 .managed)]

def furniture : Area → List Block
  | .device => []
  | .host => [⟨0x2000, 0x100⟩]
  | .managed => [⟨0x2100, 0x40⟩]

/-- A copy from inside the managed block, which is said to be device memory, to inside the host
block reaches the backend. One to a range across both blocks does not. -/
theorem copies_exactly_furnished : ∃ member ∈ furnished.members,
    member.books.registries.LieApart ∧
      (∃ transfer reply, (copy (.standard .checked) ⟨0x2010, 0x2120, 0x20, .host, .device, false⟩
          ⟨member.books, ({} : Scripted)⟩).trace.calls = [(.copy transfer, reply)]) ∧
      (copy (.standard .checked) ⟨0x20f0, 0x2120, 0x20, .host, .device, false⟩
          ⟨member.books, ({} : Scripted)⟩).trace.calls = [] := by
  have held : ∃ member ∈ furnished.members, ∀ area ∈ Area.all,
      (member.books.registries.get area).blocks = furniture area := by decide +kernel
  obtain ⟨member, inside, blocks⟩ := held
  have listed : ∀ area, (member.books.registries.get area).blocks = furniture area :=
    fun area => blocks area (Area.mem_all area)
  have arise : member.books.Arise := .fleet _ _ _ member inside
  have apart : member.books.registries.LieApart := by
    intro area
    constructor <;> rw [listed] <;> cases area <;> decide
  refine ⟨member, inside, apart, ?_, ?_⟩
  · have copies := copies_exactly arise apart (.standard .checked) ({} : Scripted)
      ⟨0x2010, 0x2120, 0x20, .host, .device, false⟩
    have dst : member.books.registries.Encloses .host 0x2010 0x20 :=
      ⟨.host, .inl rfl, ⟨0x2000, 0x100⟩, by rw [listed]; decide, by decide⟩
    have src : member.books.registries.Encloses .device 0x2120 0x20 :=
      ⟨.managed, .inr rfl, ⟨0x2100, 0x40⟩, by rw [listed]; decide, by decide⟩
    obtain ⟨transfer, -, calls, -⟩ :=
      copies.called ⟨by decide, by decide, by decide, .inr ⟨dst, src⟩⟩
    exact ⟨transfer, _, calls⟩
  · have copies := copies_exactly arise apart (.standard .checked) ({} : Scripted)
      ⟨0x20f0, 0x2120, 0x20, .host, .device, false⟩
    refine (copies.silent fun admitted => ?_).1
    rcases admitted.vouched with vouched | ⟨⟨area, -, block, member, within⟩, -⟩
    · cases vouched
    · rw [listed] at member
      have across : ∀ area ∈ Area.all, ∀ block ∈ furniture area,
          ¬block.Contains 0x20f0 0x20 := by decide
      exact across area (Area.mem_all area) block member within

end Site

end TrackedMemory
