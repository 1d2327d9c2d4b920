import TrackedMemory.Proofs.Manager.Balance
import TrackedMemory.Proofs.Ranges
import TrackedMemory.Proofs.Registry.Lookup

/-!
# Ranges of addresses inside live blocks

To tell whether a range of addresses lies inside a live block, a registry looks at one block only:
the one that starts last among those at the start of the range or below it. What it finds there is
true of that block among the natural numbers, where ends cannot wrap. If the blocks do not overlap
and end below `2 ^ 64`, that block contains every range that any block contains, so the answer is
what a look at all blocks would give.
-/

namespace TrackedMemory

namespace Registry

/-- The blocks do not overlap, and each of them ends below `2 ^ 64`. -/
structure LiesApart (registry : Registry) : Prop where
  apart : ∀ first ∈ registry.blocks, ∀ second ∈ registry.blocks,
    first.start < second.start → first.stop ≤ second.start.toNat
  ends : ∀ block ∈ registry.blocks, block.stop < UInt64.size

variable {registry : Registry} {block nearest : Block} {addr : Addr} {bytes : Size}

theorem IsSound.exists_nearest (sound : registry.IsSound) (member : block ∈ registry.blocks)
    (below : block.start ≤ addr) :
    ∃ nearest, registry.nearest? addr = some nearest ∧ block.start ≤ nearest.start := by
  cases found : registry.nearest? addr with
  | none =>
    have listed : block ∈ registry.blocks.filter fun block => block.start ≤ addr :=
      List.mem_filter.2 ⟨member, decide_eq_true below⟩
    rw [List.getLast?_eq_none_iff.1 found] at listed
    exact absurd listed List.not_mem_nil
  | some nearest =>
    obtain ⟨-, -, last⟩ := sound.nearest?_eq_some_iff.1 found
    exact ⟨nearest, rfl, last block member below⟩

/-- Of blocks that lie apart, the nearest one contains every range that any of them contains. -/
theorem IsSound.contains_nearest (sound : registry.IsSound) (apart : registry.LiesApart)
    (member : block ∈ registry.blocks) (inside : block.Contains addr bytes)
    (found : registry.nearest? addr = some nearest) (before : block.start ≤ nearest.start) :
    nearest.Contains addr bytes := by
  obtain ⟨listed, below, -⟩ := sound.nearest?_eq_some_iff.1 found
  by_cases same : nearest.start = block.start
  · rwa [sound.eq_of_start_eq member listed same]
  · -- The range ends before the nearest block starts, so it is empty and begins there.
    have less : block.start < nearest.start := UInt64.lt_of_le_of_ne before (Ne.symm same)
    have stops := apart.apart block member nearest listed less
    have reached := UInt64.le_iff_toNat_le.1 below
    have ended := inside.2
    exact ⟨reached, by rw [Block.stop]; omega⟩

theorem IsSound.exists_contains (sound : registry.IsSound)
    (covered : registry.covers addr bytes = true) :
    ∃ block ∈ registry.blocks, block.Contains addr bytes ∧ block.stop < UInt64.size := by
  obtain ⟨block, found, inside, ends⟩ := covers_iff.1 covered
  obtain ⟨member, below, -⟩ := sound.nearest?_eq_some_iff.1 found
  exact ⟨block, member, ⟨UInt64.le_iff_toNat_le.1 below, inside⟩, ends⟩

/-- If the blocks lie apart, a range is covered exactly if it lies inside some block. -/
theorem IsSound.covers_iff_exists (sound : registry.IsSound) (apart : registry.LiesApart) :
    registry.covers addr bytes = true ↔ ∃ block ∈ registry.blocks, block.Contains addr bytes := by
  constructor
  · intro covered
    obtain ⟨block, member, inside, -⟩ := sound.exists_contains covered
    exact ⟨block, member, inside⟩
  · rintro ⟨block, member, inside⟩
    obtain ⟨nearest, found, before⟩ :=
      sound.exists_nearest member (UInt64.le_iff_toNat_le.2 inside.1)
    obtain ⟨listed, -, -⟩ := sound.nearest?_eq_some_iff.1 found
    have covering := sound.contains_nearest apart member inside found before
    exact covers_iff.2 ⟨nearest, found, covering.2, apart.ends nearest listed⟩

/-- However a registry was used, in whichever build and with whichever breaches, a range that it
finds covered lies inside one live block, and ends where the block does or before, below `2 ^ 64`.
If the live blocks lie apart, it finds every range covered that lies inside any of them. -/
theorem covers_afterUses (uses : List Use) (addr : Addr) (bytes : Size) :
    ((afterUses uses).covers addr bytes = true →
      ∃ block ∈ (afterUses uses).blocks, block.Contains addr bytes ∧ block.stop < UInt64.size) ∧
    ((afterUses uses).LiesApart →
      ((afterUses uses).covers addr bytes = true ↔
        ∃ block ∈ (afterUses uses).blocks, block.Contains addr bytes)) := by
  have sound := isSound_afterUses uses
  exact ⟨sound.exists_contains, sound.covers_iff_exists⟩

/-- Two blocks side by side below the last address, the second of them registered twice, and one
that was dropped again. -/
def neighbours : List Use :=
  let watch : Watch := ⟨.checked, true, .host⟩
  [.register watch 0xffffffffffffff00 0xff, .register watch 0x2000 8,
    .register watch 0xfffffffffffffe00 0x100, .register watch 0xffffffffffffff00 1,
    .deregister watch 0x2000]

/-- The empty range between the two blocks is covered. A range across both of them is not, nor is
one across the last address. -/
theorem covers_neighbours :
    (afterUses neighbours).LiesApart ∧
      (afterUses neighbours).covers 0xffffffffffffff00 0 = true ∧
      (afterUses neighbours).covers 0xfffffffffffffef0 0x20 = false ∧
      (afterUses neighbours).covers 0xfffffffffffffff0 0x20 = false := by
  have blocks : (afterUses neighbours).blocks =
      [⟨0xfffffffffffffe00, 0x100⟩, ⟨0xffffffffffffff00, 0xff⟩] := by decide +kernel
  have apart : (afterUses neighbours).LiesApart := by
    constructor <;> rw [blocks] <;> decide
  have none_across : ∀ addr bytes,
      ¬(∃ block ∈ (afterUses neighbours).blocks, block.Contains addr bytes) →
        (afterUses neighbours).covers addr bytes = false := fun addr bytes outside =>
    Bool.eq_false_iff.2 fun covered =>
      outside (((covers_afterUses neighbours addr bytes).2 apart).1 covered)
  refine ⟨apart, ?_, none_across _ _ ?_, none_across _ _ ?_⟩
  · exact ((covers_afterUses neighbours _ _).2 apart).2
      ⟨⟨0xffffffffffffff00, 0xff⟩, by rw [blocks]; decide, by decide⟩
  · rw [blocks]
    decide
  · rw [blocks]
    decide

end Registry

end TrackedMemory
