import TrackedMemory.Manager.Command
import TrackedMemory.Proofs.Running

/-!
# What the actions on the books do

One equation for each action on the books that a call is made of: its result, the books after it and
what it logs. Later proofs use these and do not open the actions.
-/

namespace TrackedMemory

theorem Ptr.ofAddr?_eq_some_iff {addr : Addr} {ptr : Ptr} :
    Ptr.ofAddr? addr = some ptr ↔ ptr.addr = addr := by
  constructor
  · intro found
    unfold Ptr.ofAddr? at found
    split at found <;> cases found
    rfl
  · rintro rfl
    exact Ptr.ofAddr?_addr ptr

theorem allocationArea_eq_ok_iff {bytes : Size} {space : Space} {area : Area} :
    allocationArea bytes space = .ok area ↔ bytes ≠ 0 ∧ space = area.space := by
  unfold allocationArea
  split
  next zero => simp [zero]
  next positive =>
    rw [← Space.area?_eq_some_iff]
    cases space.area? <;> simp [positive]

theorem deallocationTarget_eq_ok_iff {addr : Addr} {space : Space} {ptr : Ptr} {area : Area} :
    deallocationTarget addr space = .ok (ptr, area) ↔ addr = ptr.addr ∧ space = area.space := by
  unfold deallocationTarget
  constructor
  · intro accepted
    split at accepted
    next => cases accepted
    next => cases accepted
    next pointer served =>
      cases accepted
      exact ⟨(Ptr.ofAddr?_eq_some_iff.1 pointer).symm, Space.area?_eq_some_iff.1 served⟩
  · rintro ⟨rfl, rfl⟩
    simp

namespace Statistics

variable {statistics : Statistics} {total : Size}

/-- A checked build adds the three byte figures up if their sum is a word. -/
theorem totalLiveBytes?_checked_eq_some_iff :
    statistics.totalLiveBytes? .checked = some total ↔
      statistics.device.liveBytes.toNat + statistics.host.liveBytes.toNat +
        statistics.managed.liveBytes.toNat = total.toNat := by
  simp only [totalLiveBytes?, Option.bind_eq_some_iff, Word.checkedAdd_eq_some_iff]
  constructor
  · rintro ⟨both, first, second⟩
    rw [first, second]
  · intro whole
    have fits : statistics.device.liveBytes.toNat + statistics.host.liveBytes.toNat <
        UInt64.size := by
      have bound := total.toNat_lt_size
      omega
    refine ⟨UInt64.ofNat (statistics.device.liveBytes.toNat + statistics.host.liveBytes.toNat),
      ?_, ?_⟩
    · rw [UInt64.toNat_ofNat_of_lt' fits]
    · rw [UInt64.toNat_ofNat_of_lt' fits, whole]

theorem totalLiveBytes?_unchecked (exact : statistics.totalLiveBytes? .checked = some total) :
    statistics.totalLiveBytes? .unchecked = some total := by
  have whole := totalLiveBytes?_checked_eq_some_iff.1 exact
  rw [totalLiveBytes?, Option.some.injEq, ← UInt64.toNat_inj, UInt64.toNat_add, UInt64.toNat_add,
    Nat.mod_add_mod, whole, Nat.mod_eq_of_lt total.toNat_lt_size]

theorem exists_totalLiveBytes? (fits : statistics.device.liveBytes.toNat +
      statistics.host.liveBytes.toNat + statistics.managed.liveBytes.toNat < UInt64.size) :
    ∃ total : Size, total.toNat = statistics.device.liveBytes.toNat +
        statistics.host.liveBytes.toNat + statistics.managed.liveBytes.toNat ∧
      ∀ build, statistics.totalLiveBytes? build = some total := by
  have exact : statistics.totalLiveBytes? .checked = some (UInt64.ofNat _) :=
    totalLiveBytes?_checked_eq_some_iff.2 (UInt64.toNat_ofNat_of_lt' fits).symm
  refine ⟨_, UInt64.toNat_ofNat_of_lt' fits, fun build => ?_⟩
  cases build with
  | checked => exact exact
  | unchecked => exact totalLiveBytes?_unchecked exact

end Statistics

namespace Books

variable {γ : Type} {books : Books}

@[simp] theorem area_statistics (books : Books) (area : Area) :
    books.statistics.area area = (books.registries.get area).figures := by
  cases area <;> rfl

@[simp] theorem remark_apply (setup : Setup) (reason : Remark) :
    remark setup reason books =
      ⟨.ok (), books, if setup.config.logRejections then [.logged (.remarked reason)] else []⟩ := by
  unfold remark
  split <;> rfl

@[simp] theorem remark_bind_apply (setup : Setup) (reason : Remark) (next : Unit → Act Books γ) :
    (remark setup reason >>= next) books =
      ⟨(next () books).result, (next () books).state,
        (if setup.config.logRejections then [.logged (.remarked reason)] else []) ++
          (next () books).trace⟩ := by
  unfold remark
  split <;> rfl

@[simp] theorem count_bind_apply (change : Tally → Tally) (next : Unit → Act Books γ) :
    (count change >>= next) books = next () { books with tally := change books.tally } := rfl

theorem lookUp_unknown {area : Area} {ptr : Ptr} (setup : Setup) (given : Size)
    (unknown : (books.registries.get area).sizeOf ptr.addr = 0) :
    lookUp setup area ptr given books =
      ⟨.ok none, { books with
          tally := { books.tally with deallocations := books.tally.deallocations + 1 } },
        if setup.config.logRejections then
          [.logged (.remarked (.freeOfUnknown ptr.addr area.space))] else []⟩ := by
  simp [-bind_pure_comp, lookUp, unknown, refuseDeallocation, rejectDeallocation]

theorem lookUp_known {area : Area} {ptr : Ptr} (setup : Setup) (given : Size)
    (known : (books.registries.get area).sizeOf ptr.addr ≠ 0) :
    lookUp setup area ptr given books =
      ⟨.ok (some ((books.registries.get area).sizeOf ptr.addr)), books,
        if (books.registries.get area).sizeOf ptr.addr = given then []
        else if setup.config.logRejections then
          [.logged (.remarked (.sizeDiffers ptr.addr
            ((books.registries.get area).sizeOf ptr.addr) given))] else []⟩ := by
  by_cases same : (books.registries.get area).sizeOf ptr.addr = given
  · subst same
    simp [-bind_pure_comp, lookUp, known]
  · simp [-bind_pure_comp, lookUp, known, same]

theorem answerSize_apply (setup : Setup) (addr : Addr) (size : Size) :
    answerSize setup addr size books =
      ⟨.ok (.bytes size), books,
        if size = 0 then
          if setup.config.logRejections then [.logged (.remarked (.sizeUnknown addr))] else []
        else []⟩ := by
  by_cases zero : size = 0 <;> simp [-bind_pure_comp, answerSize, zero]

theorem answerCount_apply (setup : Setup) (operation : Operation) (space : Space)
    (counter : Figures → Nat) :
    answerCount setup operation space counter books =
      ⟨.ok (.count (((books.statistics.space? space).map counter).getD 0)), books,
        if (books.statistics.space? space).isNone then
          if setup.config.logRejections then
            [.logged (.remarked (.unsupportedSpace operation space))] else []
        else []⟩ := by
  cases known : books.statistics.space? space <;>
    simp [-bind_pure_comp, answerCount, known]

end Books

end TrackedMemory
