import TrackedMemory.Proofs.Running

/-!
# Sound registries

A registry is sound when its blocks stand in strictly ascending order and its counters agree with
their number. Taking up a block that is absent and giving up one that is present keep a registry
sound. On a sound registry no invariant check ever fails, so `register_apply` and
`deregister_apply` say all that a guarded change does: it is made, or else only reported.
-/

namespace TrackedMemory

namespace Registry

variable {registry : Registry} {block : Block} {addr : Addr}

/-- The blocks ascend by start, and the counters agree with their number. -/
structure IsSound (registry : Registry) : Prop where
  ascending : registry.blocks.Pairwise fun first second => first.start < second.start
  balanced : registry.registrations = registry.deregistrations + registry.blocks.length

theorem isSound_empty : IsSound {} :=
  ⟨.nil, rfl⟩

theorem IsSound.isConsistent (sound : registry.IsSound) : registry.isConsistent = true := by
  simp [Registry.isConsistent, liveCount, sound.balanced]

theorem contains_iff :
    registry.contains addr = true ↔ ∃ block ∈ registry.blocks, block.start = addr := by
  simp [contains, find?]

theorem forall_start_ne (absent : registry.contains addr = false) :
    ∀ block ∈ registry.blocks, block.start ≠ addr := by
  intro block member same
  simp [contains_iff.2 ⟨block, member, same⟩] at absent

theorem sizeOf_eq_zero (absent : registry.contains addr = false) : registry.sizeOf addr = 0 := by
  have missing : registry.find? addr = none := by simpa [contains] using absent
  simp [sizeOf, missing]

/-- A size that is not zero is that of the block which starts at the address. -/
theorem mem_of_sizeOf_ne_zero (known : registry.sizeOf addr ≠ 0) :
    ⟨addr, registry.sizeOf addr⟩ ∈ registry.blocks := by
  unfold sizeOf at known ⊢
  cases found : registry.find? addr with
  | none => simp [found] at known
  | some block =>
    have start : block.start = addr := by simpa using List.find?_some found
    rw [← start]
    exact List.mem_of_find?_eq_some found

/-! ## Ascending blocks -/

theorem mem_insertBlock {blocks : List Block} {other : Block}
    (member : other ∈ insertBlock block blocks) : other = block ∨ other ∈ blocks := by
  induction blocks with
  | nil => simpa [insertBlock] using member
  | cons first rest ih =>
    unfold insertBlock at member
    split at member
    · simpa using member
    · split at member
      · simp only [List.mem_cons] at member ⊢
        exact member.imp_right .inr
      · simp only [List.mem_cons] at member ⊢
        rcases member with rfl | later
        · exact .inr (.inl rfl)
        · exact (ih later).imp_right .inr

theorem ascending_insertBlock {blocks : List Block}
    (ascending : blocks.Pairwise fun first second => first.start < second.start) :
    (insertBlock block blocks).Pairwise fun first second => first.start < second.start := by
  induction blocks with
  | nil => simp [insertBlock]
  | cons first rest ih =>
    obtain ⟨below, later⟩ := List.pairwise_cons.1 ascending
    unfold insertBlock
    split
    next less =>
      refine List.pairwise_cons.2 ⟨fun other member => ?_, ascending⟩
      rcases List.mem_cons.1 member with rfl | member
      · exact less
      · exact UInt64.lt_trans less (below other member)
    next =>
      split
      next same => exact List.pairwise_cons.2 ⟨fun other member => same ▸ below other member, later⟩
      next notLess differ =>
        refine List.pairwise_cons.2 ⟨fun other member => ?_, ih later⟩
        rcases mem_insertBlock member with rfl | member
        · exact UInt64.lt_of_le_of_ne (UInt64.not_lt.1 notLess) (Ne.symm differ)
        · exact below other member

/-- Putting a block in its place adds it, unless a block with its start was there. -/
theorem insertBlock_perm {blocks : List Block}
    (absent : ∀ other ∈ blocks, other.start ≠ block.start) :
    (insertBlock block blocks).Perm (block :: blocks) := by
  induction blocks with
  | nil => exact .refl _
  | cons first rest ih =>
    unfold insertBlock
    split
    · exact .refl _
    · rw [if_neg (Ne.symm (absent first (by simp)))]
      exact ((ih fun other member => absent other (by simp [member])).cons first).trans
        (.swap block first rest)

theorem perm_cons_filter {blocks : List Block}
    (ascending : blocks.Pairwise fun first second => first.start < second.start)
    (member : block ∈ blocks) :
    blocks.Perm (block :: blocks.filter fun other => other.start ≠ block.start) := by
  induction blocks with
  | nil => simp at member
  | cons first rest ih =>
    obtain ⟨below, later⟩ := List.pairwise_cons.1 ascending
    rcases List.mem_cons.1 member with rfl | member
    · have kept : rest.filter (fun other => decide (other.start ≠ block.start)) = rest :=
        List.filter_eq_self.2 fun other inside => by
          simpa using (UInt64.ne_of_lt (below other inside)).symm
      rw [List.filter_cons_of_neg (by simp), kept]
    · have differ : first.start ≠ block.start := UInt64.ne_of_lt (below block member)
      rw [List.filter_cons_of_pos (by simpa using differ)]
      exact ((ih later member).cons first).trans (.swap block first _)

theorem IsSound.nodup_starts (sound : registry.IsSound) :
    (registry.blocks.map Block.start).Nodup :=
  List.pairwise_map.2 (sound.ascending.imp UInt64.ne_of_lt)

theorem IsSound.eq_of_start_eq (sound : registry.IsSound) {first second : Block}
    (left : first ∈ registry.blocks) (right : second ∈ registry.blocks)
    (same : second.start = first.start) : second = first := by
  have listed := (perm_cons_filter sound.ascending left).subset right
  simpa [same] using listed

theorem IsSound.find?_eq_some_iff (sound : registry.IsSound) :
    registry.find? addr = some block ↔ block ∈ registry.blocks ∧ block.start = addr := by
  constructor
  · intro found
    exact ⟨List.mem_of_find?_eq_some found, by simpa using List.find?_some found⟩
  · rintro ⟨member, rfl⟩
    cases found : registry.find? block.start with
    | none => simpa using List.find?_eq_none.1 found block member
    | some other =>
      have start : other.start = block.start := by simpa using List.find?_some found
      rw [sound.eq_of_start_eq member (List.mem_of_find?_eq_some found) start]

theorem IsSound.find?_of_mem (sound : registry.IsSound) (member : block ∈ registry.blocks) :
    registry.find? block.start = some block :=
  sound.find?_eq_some_iff.2 ⟨member, rfl⟩

theorem contains_insert (absent : registry.contains addr = false) (bytes : Size) :
    (registry.insert ⟨addr, bytes⟩).contains addr = true := by
  have added : (insertBlock ⟨addr, bytes⟩ registry.blocks).Perm
      (⟨addr, bytes⟩ :: registry.blocks) :=
    insertBlock_perm (forall_start_ne absent)
  exact contains_iff.2 ⟨⟨addr, bytes⟩, added.symm.subset (by simp), rfl⟩

theorem contains_erase (start : block.start = addr) :
    (registry.erase block).contains addr = false := by
  rw [← Bool.not_eq_true, contains_iff]
  rintro ⟨other, member, same⟩
  simp [Registry.erase, start, same] at member

namespace IsSound

theorem insert (sound : registry.IsSound) (absent : registry.contains block.start = false) :
    (registry.insert block).IsSound where
  ascending := ascending_insertBlock sound.ascending
  balanced := by
    have added := (insertBlock_perm (forall_start_ne absent)).length_eq
    have balanced := sound.balanced
    simp only [Registry.insert, List.length_cons] at added ⊢
    omega

theorem erase (sound : registry.IsSound) (member : block ∈ registry.blocks) :
    (registry.erase block).IsSound where
  ascending := sound.ascending.filter _
  balanced := by
    have removed := (perm_cons_filter sound.ascending member).length_eq
    have balanced := sound.balanced
    simp only [Registry.erase, List.length_cons] at removed ⊢
    omega

end IsSound

end Registry

/-! ## Guarded changes of a sound registry -/

namespace Watch

variable {α : Type} {registry : Registry}

/-- Checking a sound registry has no effect. -/
theorem verifyAt_bind_apply (watch : Watch) (moment : Moment) (sound : registry.IsSound)
    (next : Unit → Act Registry α) :
    (watch.verifyAt moment >>= next) registry = next () registry := by
  simp only [verifyAt, bind_assoc, Act.read_bind_apply, sound.isConsistent]
  split <;> simp

end Watch

namespace Registry

variable {registry : Registry} {addr : Addr}

/-- A guarded registration inserts an absent block; where a block starts already, a checked build
breaks off and an unchecked build only reports it. -/
theorem register_apply (watch : Watch) (sound : registry.IsSound) (bytes : Size) :
    register watch addr bytes registry =
      if registry.contains addr then
        match watch.build with
        | .checked =>
            ⟨.error (.violated ⟨.precondition, .alreadyRegistered watch.space addr⟩), registry,
              [.logged (.violated ⟨.precondition, .alreadyRegistered watch.space addr⟩)]⟩
        | .unchecked => ⟨.ok false, registry, [.logged (.registerIgnored addr watch.space)]⟩
      else ⟨.ok true, registry.insert ⟨addr, bytes⟩, []⟩ := by
  cases present : registry.contains addr with
  | false =>
    have after : (registry.insert ⟨addr, bytes⟩).IsSound := sound.insert present
    have recorded := contains_insert present bytes
    simp [-bind_pure_comp, register, present, Watch.verifyAt_bind_apply, sound, after, recorded]
  | true =>
    cases build : watch.build <;>
      simp [-bind_pure_comp, register, present, build, Watch.verifyAt_bind_apply, sound]

/-- A guarded deregistration erases the block that starts at the address; where none does, a
checked build breaks off and an unchecked build only reports it. -/
theorem deregister_apply (watch : Watch) (sound : registry.IsSound) :
    deregister watch addr registry =
      match registry.find? addr with
      | none =>
          match watch.build with
          | .checked =>
              ⟨.error (.violated ⟨.precondition, .notRegistered watch.space addr⟩), registry,
                [.logged (.violated ⟨.precondition, .notRegistered watch.space addr⟩)]⟩
          | .unchecked => ⟨.ok none, registry, [.logged (.deregisterIgnored addr watch.space)]⟩
      | some block => ⟨.ok (some block.size), registry.erase block, []⟩ := by
  cases found : registry.find? addr with
  | none =>
    cases build : watch.build <;>
      simp [-bind_pure_comp, deregister, found, build, Watch.verifyAt_bind_apply, sound]
  | some block =>
    obtain ⟨member, start⟩ := sound.find?_eq_some_iff.1 found
    have after := sound.erase member
    have gone : (registry.erase block).contains addr = false := contains_erase start
    simp [-bind_pure_comp, deregister, found, Watch.verifyAt_bind_apply, sound, after, gone]

end Registry

end TrackedMemory
