/-!
# Addresses and sizes

Both are 64-bit words. `Word` adds them with a check or with saturation, and each operation has a
lemma that says what it computes on natural numbers. `Ptr` is an address that is not zero.
-/

namespace TrackedMemory

abbrev Addr := UInt64

abbrev Size := UInt64

namespace Word

def checkedAdd (first second : UInt64) : Option UInt64 :=
  if first.toNat + second.toNat < UInt64.size then some (first + second) else none

def saturatingAdd (first second : UInt64) : UInt64 :=
  (checkedAdd first second).getD 0xffffffffffffffff

def saturatingSub (first second : UInt64) : UInt64 :=
  if second ≤ first then first - second else 0

/-- Hexadecimal digits of a word behind `0x`, without leading zeros. -/
def hexText (word : UInt64) : String :=
  "0x" ++ String.ofList (Nat.toDigits 16 word.toNat)

theorem toNat_pos {word : UInt64} (positive : word ≠ 0) : 0 < word.toNat :=
  Nat.pos_of_ne_zero fun zero => positive (UInt64.toNat_inj.1 zero)

theorem checkedAdd_eq_some_iff {first second sum : UInt64} :
    checkedAdd first second = some sum ↔ first.toNat + second.toNat = sum.toNat := by
  have bound := sum.toNat_lt_size
  unfold checkedAdd
  split
  next fits => rw [Option.some.injEq, ← UInt64.toNat_inj, UInt64.toNat_add, Nat.mod_eq_of_lt fits]
  next large => exact iff_of_false (by simp) fun exact => large (exact ▸ bound)

theorem checkedAdd_eq_none_iff {first second : UInt64} :
    checkedAdd first second = none ↔ UInt64.size ≤ first.toNat + second.toNat := by
  unfold checkedAdd
  split
  next fits => exact iff_of_false (by simp) (Nat.not_le.2 fits)
  next large => exact iff_of_true rfl (Nat.not_lt.1 large)

theorem toNat_saturatingAdd (first second : UInt64) :
    (saturatingAdd first second).toNat = min (first.toNat + second.toNat) (UInt64.size - 1) := by
  unfold saturatingAdd
  cases sum : checkedAdd first second with
  | none =>
    have large := checkedAdd_eq_none_iff.1 sum
    exact (Nat.min_eq_right (Nat.le_trans (Nat.sub_le _ 1) large)).symm
  | some total =>
    have exact := checkedAdd_eq_some_iff.1 sum
    rw [exact]
    exact (Nat.min_eq_left (Nat.le_sub_one_of_lt total.toNat_lt_size)).symm

theorem toNat_saturatingSub (first second : UInt64) :
    (saturatingSub first second).toNat = first.toNat - second.toNat := by
  unfold saturatingSub
  split
  next le => exact UInt64.toNat_sub_of_le _ _ le
  next lt =>
    rw [UInt64.le_iff_toNat_le] at lt
    simp only [UInt64.toNat_zero]
    omega

end Word

/-- Address of a block: any address but zero. -/
@[ext] structure Ptr where
  addr : Addr
  addr_ne_zero : addr ≠ 0
  deriving DecidableEq

namespace Ptr

def ofAddr? (addr : Addr) : Option Ptr :=
  if null : addr = 0 then none else some ⟨addr, null⟩

@[simp] theorem ofAddr?_addr (ptr : Ptr) : ofAddr? ptr.addr = some ptr := by
  simp [ofAddr?, ptr.addr_ne_zero]

end Ptr

end TrackedMemory
