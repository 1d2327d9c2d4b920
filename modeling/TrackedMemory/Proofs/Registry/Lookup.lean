import TrackedMemory.Proofs.Registry.Soundness

/-!
# Looking blocks up in a sound registry

What is found at an address after a block came or went, and which block is the nearest one below an
address. Sums of addresses and sizes are taken among the natural numbers, where they cannot wrap.
-/

namespace TrackedMemory

namespace Registry

variable {registry : Registry} {block : Block} {addr : Addr} {bytes : Size}

namespace IsSound

theorem find?_insert (sound : registry.IsSound) (absent : registry.contains block.start = false)
    (addr : Addr) :
    (registry.insert block).find? addr =
      if addr = block.start then some block else registry.find? addr := by
  have listed : ∀ other, other ∈ (registry.insert block).blocks ↔
      other = block ∨ other ∈ registry.blocks := fun other =>
    (insertBlock_perm (forall_start_ne absent)).mem_iff.trans List.mem_cons
  split
  next here =>
    exact (sound.insert absent).find?_eq_some_iff.2 ⟨(listed block).2 (.inl rfl), here.symm⟩
  next elsewhere =>
    refine Option.ext fun found => ?_
    rw [(sound.insert absent).find?_eq_some_iff, sound.find?_eq_some_iff, listed]
    constructor
    · rintro ⟨rfl | old, start⟩
      · exact absurd start.symm elsewhere
      · exact ⟨old, start⟩
    · rintro ⟨old, start⟩
      exact ⟨.inr old, start⟩

theorem find?_erase (sound : registry.IsSound) (member : block ∈ registry.blocks) (addr : Addr) :
    (registry.erase block).find? addr =
      if addr = block.start then none else registry.find? addr := by
  have listed : ∀ other, other ∈ (registry.erase block).blocks ↔
      other ∈ registry.blocks ∧ other.start ≠ block.start := fun other => by
    simp [Registry.erase, List.mem_filter]
  refine Option.ext fun found => ?_
  rw [(sound.erase member).find?_eq_some_iff, listed]
  split
  next here => exact iff_of_false (fun kept => kept.1.2 (kept.2.trans here)) (by simp)
  next elsewhere =>
    rw [sound.find?_eq_some_iff]
    constructor
    · rintro ⟨⟨old, -⟩, start⟩
      exact ⟨old, start⟩
    · rintro ⟨old, start⟩
      exact ⟨⟨old, start ▸ elsewhere⟩, start⟩

end IsSound

/-- The last of ascending blocks is the one that starts last. -/
theorem getLast?_eq_some_iff {blocks : List Block}
    (ascending : blocks.Pairwise fun first second => first.start < second.start) :
    blocks.getLast? = some block ↔
      block ∈ blocks ∧ ∀ other ∈ blocks, other.start ≤ block.start := by
  induction blocks with
  | nil => simp
  | cons first rest ih =>
    obtain ⟨below, later⟩ := List.pairwise_cons.1 ascending
    cases rest with
    | nil =>
      simp only [List.getLast?_singleton, Option.some.injEq, List.mem_singleton, forall_eq]
      constructor
      · rintro rfl
        exact ⟨rfl, UInt64.le_refl _⟩
      · rintro ⟨rfl, -⟩
        rfl
    | cons second rest =>
      rw [List.getLast?_cons_cons, ih later]
      constructor
      · rintro ⟨member, last⟩
        refine ⟨List.mem_cons_of_mem _ member, fun other inside => ?_⟩
        rcases List.mem_cons.1 inside with rfl | inside
        · exact UInt64.le_of_lt (below block member)
        · exact last other inside
      · rintro ⟨member, last⟩
        rcases List.mem_cons.1 member with rfl | member
        · have more := below second (by simp)
          exact absurd (last second (by simp)) (UInt64.not_le.2 more)
        · exact ⟨member, fun other inside => last other (List.mem_cons_of_mem _ inside)⟩

/-- The nearest block is the one that starts last among those at an address or below it. -/
theorem IsSound.nearest?_eq_some_iff (sound : registry.IsSound) :
    registry.nearest? addr = some block ↔
      block ∈ registry.blocks ∧ block.start ≤ addr ∧
        ∀ other ∈ registry.blocks, other.start ≤ addr → other.start ≤ block.start := by
  rw [nearest?, getLast?_eq_some_iff (sound.ascending.filter _)]
  simp only [List.mem_filter, decide_eq_true_eq, and_imp, and_assoc]

/-- A range is covered if it ends where the nearest block does or before, and the end of that block
is an address. -/
theorem covers_iff : registry.covers addr bytes = true ↔
    ∃ block, registry.nearest? addr = some block ∧
      addr.toNat + bytes.toNat ≤ block.start.toNat + block.size.toNat ∧
      block.start.toNat + block.size.toNat < UInt64.size := by
  unfold covers
  cases nearest : registry.nearest? addr with
  | none => cases Word.checkedAdd addr bytes <;> simp
  | some block =>
    cases blockStop : Word.checkedAdd block.start block.size with
    | none =>
      have large := Word.checkedAdd_eq_none_iff.1 blockStop
      cases Word.checkedAdd addr bytes <;> simp [blockStop] <;> omega
    | some last =>
      have blockEnd := Word.checkedAdd_eq_some_iff.1 blockStop
      have small := last.toNat_lt_size
      cases stop : Word.checkedAdd addr bytes with
      | none =>
        have large := Word.checkedAdd_eq_none_iff.1 stop
        simp
        omega
      | some reached =>
        have rangeEnd := Word.checkedAdd_eq_some_iff.1 stop
        simp [blockStop, UInt64.le_iff_toNat_le]
        omega

end Registry

end TrackedMemory
