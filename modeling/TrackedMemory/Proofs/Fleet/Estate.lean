import Mathlib.Algebra.BigOperators.Group.Finset.Basic
import TrackedMemory.Proofs.Concurrent.Parcels
import TrackedMemory.Proofs.Fleet.Courses

/-!
# What all managers have on record

The records of a fleet are those of its live managers, and those that were left behind with managers
that were dropped. A manager leaves its records behind if it does not release its blocks, or if the
release breaks off. Records are multisets of parcels, so that an exchange of one manager is an
equation between the records of all before and after it.
-/

namespace TrackedMemory

namespace Fleet

theorem sum_map_set {α : Type} (blocks : α → Multiset Parcel) {things : List α} {index : Nat}
    {old : α} (new : α) (there : things[index]? = some old) :
    ((things.set index new).map blocks).sum + blocks old =
      (things.map blocks).sum + blocks new := by
  induction things generalizing index with
  | nil => simp at there
  | cons first rest ih =>
    cases index with
    | zero =>
      cases there
      simp only [List.set_cons_zero, List.map_cons, List.sum_cons]
      abel
    | succ index =>
      have later := ih there
      simp only [List.set_cons_succ, List.map_cons, List.sum_cons, add_assoc] at later ⊢
      rw [later]

theorem parcels_eq_zero {registries : Registries}
    (empty : ∀ area, (registries.get area).blocks = []) : registries.parcels = 0 := by
  refine Multiset.eq_zero_of_forall_notMem fun parcel member => ?_
  simpa [empty parcel.area] using Registries.mem_parcels.1 member

@[simp] theorem parcels_empty : Registries.parcels {} = 0 := rfl

def recorded (registries : List Registries) : Multiset Parcel :=
  (registries.map Registries.parcels).sum

section Recorded

variable {registries : List Registries} {index : Nat} {own : Registries}

theorem recorded_set (next : Registries) (owned : registries[index]? = some own) :
    recorded (registries.set index next) + own.parcels = recorded registries + next.parcels :=
  sum_map_set Registries.parcels next owned

theorem parcels_le_recorded (owned : registries[index]? = some own) :
    own.parcels ≤ recorded registries := by
  have removed := recorded_set {} owned
  rw [parcels_empty, add_zero] at removed
  exact removed ▸ Multiset.le_add_left _ _

theorem recorded_register {area : Area} {ptr : Ptr} {bytes : Size}
    (owned : registries[index]? = some own) (absent : (own.get area).contains ptr.addr = false) :
    recorded (registries.set index (own.apply (.register area ptr bytes))) =
      ⟨area, ptr.addr, bytes⟩ ::ₘ recorded registries := by
  have replaced := recorded_set (own.apply (.register area ptr bytes)) owned
  rw [Registries.parcels_register absent, Multiset.add_cons, ← Multiset.cons_add] at replaced
  exact add_right_cancel replaced

theorem recorded_deregister {area : Area} {ptr : Ptr} {bytes : Size}
    (owned : registries[index]? = some own) (sound : own.AreSound)
    (member : ⟨ptr.addr, bytes⟩ ∈ (own.get area).blocks) :
    recorded registries = ⟨area, ptr.addr, bytes⟩ ::ₘ
      recorded (registries.set index (own.apply (.deregister area ptr))) := by
  have listed : ⟨area, ptr.addr, bytes⟩ ∈ own.parcels := Registries.mem_parcels.2 member
  have replaced := recorded_set (own.apply (.deregister area ptr)) owned
  rw [Registries.parcels_deregister sound listed, Multiset.add_cons, ← Multiset.cons_add]
    at replaced
  exact (add_right_cancel replaced).symm

end Recorded

/-! ## Live managers and managers that were dropped -/

variable {β : Type}

def blocksIf (dropped : Bool) (member : Member) : Multiset Parcel :=
  if member.dropped = dropped then member.books.registries.parcels else 0

/-- The blocks on record with the managers that were dropped, or with those that were not. -/
def recordedWhere (dropped : Bool) (fleet : Fleet β) : Multiset Parcel :=
  (fleet.members.map (blocksIf dropped)).sum

def live (fleet : Fleet β) : Multiset Parcel :=
  recordedWhere false fleet

variable [Backend β]

/-- The blocks that a step leaves behind: those on record with a manager that is dropped without a
release of its blocks, or whose release breaks off. -/
def leavings (fleet : Fleet β) : Step β → Multiset Parcel
  | .drop index =>
      match fleet.active? index with
      | none => 0
      | some member =>
          let outcome := Site.teardown member.setup ⟨member.books, fleet.backend⟩
          if member.setup.config.releaseBlocks && outcome.result.isOk then 0
          else outcome.state.books.registries.parcels
  | .command .. | .adjust _ => 0

def abandoned (fleet : Fleet β) : List (Step β) → Multiset Parcel
  | [] => 0
  | step :: rest => fleet.leavings step + abandoned (fleet.perform step).state rest

variable {fleet : Fleet β} {step : Step β} {steps : List (Step β)}

omit [Backend β] in
theorem recorded_eq (fleet : Fleet β) :
    recorded fleet.registries = fleet.live + recordedWhere true fleet := by
  unfold recorded registries live recordedWhere
  induction fleet.members with
  | nil => rfl
  | cons member rest ih =>
    simp only [List.map_cons, List.sum_cons, ih, blocksIf]
    cases member.dropped <;> simp only [reduceIte, Bool.true_eq_false, Bool.false_eq_true] <;> abel

/-- The end of a manager leaves nothing on record if the blocks are released and nothing breaks
off. -/
theorem parcels_teardown {member : Member} (settled : member.books.IsSettled) (backend : β) :
    let outcome := Site.teardown member.setup ⟨member.books, backend⟩
    outcome.state.books.registries.parcels =
      if member.setup.config.releaseBlocks && outcome.result.isOk then 0
      else outcome.state.books.registries.parcels := by
  intro outcome
  have ends : Site.Releases _ _ outcome := Site.teardown_releases settled member.setup
  split
  next complete =>
    obtain ⟨asked, done⟩ := Bool.and_eq_true_iff.1 complete
    rw [asked, if_pos rfl] at ends
    refine parcels_eq_zero fun area => ends.emptied ?_ area (Area.mem_all area)
    cases result : outcome.result with
    | ok value => rfl
    | error fault => simp [result, Except.isOk, Except.toBool] at done
  next => rfl

/-- The blocks on record with managers that were dropped are those that steps leave behind. -/
theorem recordedWhere_perform (settled : fleet.IsSettled) (step : Step β) :
    recordedWhere true (fleet.perform step).state =
      recordedWhere true fleet + fleet.leavings step := by
  cases step with
  | adjust change => exact (add_zero _).symm
  | command index command =>
    cases active : fleet.active? index with
    | none =>
      have idle : fleet.run? index command = none := by simp [run?, onMember, active]
      simp [perform, idle, leavings]
    | some member =>
      obtain ⟨owned, there⟩ := active?_eq_some_iff.1 active
      rw [perform_command active, leavings, add_zero]
      have replaced := sum_map_set (blocksIf true) { member with
        books := (Site.run member.setup command ⟨member.books, fleet.backend⟩).state.books } owned
      have before : blocksIf true member = 0 := if_neg (by simp [there])
      rw [before, blocksIf, if_neg (by simp [there]), add_zero, add_zero] at replaced
      exact replaced
  | drop index =>
    cases active : fleet.active? index with
    | none =>
      have idle : fleet.drop? index = none := by simp [drop?, onMember, active]
      simp [perform, idle, leavings, active]
    | some member =>
      obtain ⟨owned, there⟩ := active?_eq_some_iff.1 active
      have left := parcels_teardown (settled.of_active active) fleet.backend
      rw [perform_drop active]
      simp only [leavings, active]
      generalize Site.teardown member.setup ⟨member.books, fleet.backend⟩ = outcome at left ⊢
      have replaced := sum_map_set (blocksIf true)
        { member with books := outcome.state.books, dropped := true } owned
      have before : blocksIf true member = 0 := if_neg (by simp [there])
      rw [before, add_zero, blocksIf, if_pos rfl] at replaced
      rw [← left]
      exact replaced

omit [Backend β] in
theorem recorded_launch (setups : List Setup) (backend : β) :
    recorded (launch setups backend).registries = 0 := by
  simp [recorded, registries, launch, Function.comp_def]

/-- Every block on record is live or was left behind. -/
theorem recorded_after (setups : List Setup) (backend : β) (steps : List (Step β)) :
    recorded ((launch setups backend).after steps).registries =
      live ((launch setups backend).after steps) + (launch setups backend).abandoned steps := by
  have left : ∀ fleet : Fleet β, fleet.IsSettled →
      recordedWhere true (fleet.after steps) =
        recordedWhere true fleet + fleet.abandoned steps := by
    induction steps with
    | nil => exact fun fleet _ => (add_zero _).symm
    | cons step rest ih =>
      intro fleet settled
      rw [after_cons, ih _ (settled.perform step), recordedWhere_perform settled, abandoned,
        add_assoc]
  have none : recordedWhere true (launch setups backend) = 0 := by
    simp [recordedWhere, launch, blocksIf, Function.comp_def]
  rw [recorded_eq, left _ (isSettled_launch setups backend), none, zero_add]

end Fleet

/-! ## The byte figure -/

namespace Registry

variable {registry : Registry} {block : Block}

/-- The byte figure is at most the sum of the sizes on record; it may be less, for it saturates. -/
def IsMeasured (registry : Registry) : Prop :=
  registry.liveBytes.toNat ≤ (registry.blocks.map fun block => block.size.toNat).sum

theorem IsMeasured.insert (measured : registry.IsMeasured)
    (absent : registry.contains block.start = false) : (registry.insert block).IsMeasured := by
  have added := ((insertBlock_perm (forall_start_ne absent)).map
    fun block => block.size.toNat).sum_eq
  simp only [IsMeasured, Registry.insert, Word.toNat_saturatingAdd, List.map_cons, List.sum_cons]
    at measured added ⊢
  omega

theorem IsMeasured.erase (measured : registry.IsMeasured) (sound : registry.IsSound)
    (member : block ∈ registry.blocks) : (registry.erase block).IsMeasured := by
  have removed := ((perm_cons_filter sound.ascending member).map
    fun block => block.size.toNat).sum_eq
  simp only [IsMeasured, Registry.erase, Word.toNat_saturatingSub, List.map_cons, List.sum_cons]
    at measured removed ⊢
  omega

end Registry

namespace Registries

variable {registries : Registries}

def AreMeasured (registries : Registries) : Prop :=
  ∀ area, (registries.get area).IsMeasured

theorem areMeasured_empty : AreMeasured {} := by
  intro area
  cases area <;> exact Nat.le_refl 0

theorem AreMeasured.apply (measured : registries.AreMeasured) (sound : registries.AreSound)
    (mutation : Mutation) : (registries.apply mutation).AreMeasured := by
  intro area
  rcases get_apply_cases registries mutation area with
    same | ⟨ptr, bytes, -, absent, added⟩ | ⟨ptr, block, -, found, dropped⟩
  · rw [same]
    exact measured area
  · rw [added]
    exact (measured area).insert absent
  · rw [dropped]
    exact (measured area).erase (sound area) ((sound area).find?_eq_some_iff.1 found).1

theorem AreMeasured.total_le (measured : registries.AreMeasured) :
    registries.device.liveBytes.toNat + registries.host.liveBytes.toNat +
        registries.managed.liveBytes.toNat ≤
      (registries.parcels.map fun parcel => parcel.bytes.toNat).sum := by
  have one := measured .device
  have two := measured .host
  have three := measured .managed
  simp only [parcels, parcelsIn, Multiset.map_add, Multiset.sum_add, Multiset.map_coe,
    Multiset.sum_coe, List.map_map, Function.comp_def]
  simp only [Registry.IsMeasured, get] at one two three
  omega

end Registries

theorem Fleet.exchangesKeep_areMeasured {β : Type} [Backend β] :
    ExchangesKeep fun _ registries (_ : β) => ∀ own ∈ registries, Registries.AreMeasured own := by
  intro history registries backend index own request reply next after before owned sound genuine
    exchange
  have measured := before own (List.mem_of_getElem? owned)
  have changed : next.AreMeasured := by
    cases exchange with
    | granted | returned => exact measured.apply sound _
    | denied | raised | copied => exact measured
  exact forall_mem_set before changed index

end TrackedMemory
