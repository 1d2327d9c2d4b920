import TrackedMemory.Proofs.Concurrent.Parcels
import TrackedMemory.Proofs.Registry.Ranges

/-!
# Live blocks that share no byte

Where no two live blocks of a manager have a byte in common, in whichever areas they are, an address
belongs to one block at most. So at most one area has a block that starts at an address, or one that
contains a range with a byte in it, and looking at the nearest block finds every such range, unless
its block ends at `2 ^ 64` or beyond.
-/

namespace TrackedMemory

namespace Registries

/-- No two live blocks have a byte in common, and none is empty. -/
structure AreDisjoint (registries : Registries) : Prop where
  apart : ∀ first ∈ registries.parcels, ∀ second ∈ registries.parcels, first ≠ second →
    ¬first.block.Overlaps second.block
  sized : ∀ parcel ∈ registries.parcels, parcel.bytes ≠ 0

instance (registries : Registries) : Decidable registries.AreDisjoint :=
  decidable_of_iff ((∀ first ∈ registries.parcels, ∀ second ∈ registries.parcels, first ≠ second →
      ¬first.block.Overlaps second.block) ∧ ∀ parcel ∈ registries.parcels, parcel.bytes ≠ 0)
    ⟨fun ⟨apart, sized⟩ => ⟨apart, sized⟩, fun disjoint => ⟨disjoint.apart, disjoint.sized⟩⟩

variable {registries : Registries} {one two : Area} {first second : Block} {addr : Addr}
  {bytes : Size}

namespace AreDisjoint

theorem eq_of_overlaps (disjoint : registries.AreDisjoint)
    (inFirst : first ∈ (registries.get one).blocks)
    (inSecond : second ∈ (registries.get two).blocks)
    (overlaps : first.Overlaps second) : one = two ∧ first = second := by
  by_contra differ
  have distinct : Parcel.mk one first.start first.size ≠ ⟨two, second.start, second.size⟩ := by
    intro same
    obtain ⟨area, start, size⟩ := Parcel.mk.inj same
    refine differ ⟨area, ?_⟩
    obtain ⟨start', size'⟩ := first
    cases start
    cases size
    rfl
  exact disjoint.apart _ (mem_parcels.2 inFirst) _ (mem_parcels.2 inSecond) distinct overlaps

theorem size_pos (disjoint : registries.AreDisjoint)
    (member : first ∈ (registries.get one).blocks) : 0 < first.size.toNat :=
  Word.toNat_pos (disjoint.sized ⟨one, first.start, first.size⟩ (mem_parcels.2 member))

theorem eq_of_contains (disjoint : registries.AreDisjoint) (positive : bytes ≠ 0)
    (inFirst : first ∈ (registries.get one).blocks)
    (inSecond : second ∈ (registries.get two).blocks)
    (byFirst : first.Contains addr bytes) (bySecond : second.Contains addr bytes) :
    one = two ∧ first = second := by
  have positive := Word.toNat_pos positive
  obtain ⟨begun, ended⟩ := byFirst
  obtain ⟨begun', ended'⟩ := bySecond
  exact disjoint.eq_of_overlaps inFirst inSecond ⟨by omega, by omega⟩

theorem area_eq_of_contains (disjoint : registries.AreDisjoint)
    (inOne : (registries.get one).contains addr = true)
    (inTwo : (registries.get two).contains addr = true) : one = two := by
  obtain ⟨first, inFirst, start⟩ := Registry.contains_iff.1 inOne
  obtain ⟨second, inSecond, start'⟩ := Registry.contains_iff.1 inTwo
  have size := disjoint.size_pos inFirst
  have size' := disjoint.size_pos inSecond
  refine (disjoint.eq_of_overlaps inFirst inSecond ⟨?_, ?_⟩).1 <;>
    (rw [Block.stop, start, start']; omega)

/-- A range with a byte in it is covered exactly if it lies inside a block that ends below
`2 ^ 64`. -/
theorem covers_iff (disjoint : registries.AreDisjoint) (sound : registries.AreSound)
    (positive : bytes ≠ 0) :
    (registries.get one).covers addr bytes = true ↔
      ∃ block ∈ (registries.get one).blocks, block.Contains addr bytes ∧
        block.stop < UInt64.size := by
  refine ⟨(sound one).exists_contains, ?_⟩
  rintro ⟨block, member, inside, ends⟩
  obtain ⟨nearest, found, before⟩ :=
    (sound one).exists_nearest member (UInt64.le_iff_toNat_le.2 inside.1)
  obtain ⟨listed, below, -⟩ := (sound one).nearest?_eq_some_iff.1 found
  have positive := Word.toNat_pos positive
  -- The nearest block starts inside the block that contains the range, so it is that block.
  have reached := UInt64.le_iff_toNat_le.1 below
  have follows := UInt64.le_iff_toNat_le.1 before
  have size := disjoint.size_pos listed
  have stops := inside.2
  have overlaps : block.Overlaps nearest := ⟨by rw [Block.stop]; omega, by omega⟩
  obtain ⟨-, rfl⟩ := disjoint.eq_of_overlaps member listed overlaps
  exact Registry.covers_iff.2 ⟨block, found, inside.2, ends⟩

theorem area_eq_of_covers (disjoint : registries.AreDisjoint) (sound : registries.AreSound)
    (positive : bytes ≠ 0) (inOne : (registries.get one).covers addr bytes = true)
    (inTwo : (registries.get two).covers addr bytes = true) : one = two := by
  obtain ⟨first, inFirst, byFirst, -⟩ := (sound one).exists_contains inOne
  obtain ⟨second, inSecond, bySecond, -⟩ := (sound two).exists_contains inTwo
  exact (disjoint.eq_of_contains positive inFirst inSecond byFirst bySecond).1

end AreDisjoint

end Registries

end TrackedMemory
