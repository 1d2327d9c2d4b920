import TrackedMemory.Registry.Basic

/-!
# Ranges of addresses

The bytes of a block are a range of addresses. Where it ends is said among the natural numbers, so
that no end wraps.
-/

namespace TrackedMemory

namespace Block

def stop (block : Block) : Nat :=
  block.start.toNat + block.size.toNat

def Contains (block : Block) (addr : Addr) (bytes : Size) : Prop :=
  block.start.toNat ≤ addr.toNat ∧ addr.toNat + bytes.toNat ≤ block.stop

instance (block : Block) (addr : Addr) (bytes : Size) : Decidable (block.Contains addr bytes) :=
  inferInstanceAs (Decidable (_ ∧ _))

def Overlaps (first second : Block) : Prop :=
  first.start.toNat < second.stop ∧ second.start.toNat < first.stop

instance (first second : Block) : Decidable (first.Overlaps second) :=
  inferInstanceAs (Decidable (_ ∧ _))

variable {first second : Block}

theorem Overlaps.symm (overlaps : first.Overlaps second) : second.Overlaps first :=
  ⟨overlaps.2, overlaps.1⟩

theorem overlaps_of_start_eq (same : first.start = second.start) (left : first.size ≠ 0)
    (right : second.size ≠ 0) : first.Overlaps second := by
  have left := Word.toNat_pos left
  have right := Word.toNat_pos right
  unfold Overlaps stop
  rw [same]
  omega

end Block

end TrackedMemory
