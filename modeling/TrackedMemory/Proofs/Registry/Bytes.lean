import Mathlib.Algebra.Ring.Nat
import TrackedMemory.Proofs.Registry.Mapping

/-!
# The byte figure of a registry

A registry keeps its byte figure along the way. The figure stops at the greatest word when a block
comes, and at zero when one goes, so it may fall short of the sum of the sizes on record, but it
never exceeds it. What it lacks is at most what the sum exceeded the greatest word by, at its peak
since no block was live. So the figure is exact as long as that sum is a word, it is exact again
once no block is live, and nothing but the figure itself depends on it.
-/

namespace TrackedMemory

namespace Registry

variable {registry : Registry} {block : Block} {lack : Nat}

def recordedBytes (registry : Registry) : Nat :=
  (registry.blocks.map fun block => block.size.toNat).sum

def IsExact (registry : Registry) : Prop :=
  registry.liveBytes.toNat = registry.recordedBytes

def IsBounded (registry : Registry) : Prop :=
  registry.liveBytes.toNat ≤ registry.recordedBytes

/-- The byte figure falls short of the sum by at most so many bytes. -/
def LacksAtMost (registry : Registry) (lack : Nat) : Prop :=
  registry.recordedBytes ≤ registry.liveBytes.toNat + lack

theorem isExact_iff : registry.IsExact ↔ registry.IsBounded ∧ registry.LacksAtMost 0 :=
  Nat.le_antisymm_iff

/-! ## Blocks that come and go -/

theorem recordedBytes_insert (absent : registry.contains block.start = false) :
    (registry.insert block).recordedBytes = block.size.toNat + registry.recordedBytes := by
  have added := ((insertBlock_perm (forall_start_ne absent)).map
    fun block => block.size.toNat).sum_eq
  rwa [List.map_cons, List.sum_cons] at added

theorem recordedBytes_erase (sound : registry.IsSound) (member : block ∈ registry.blocks) :
    registry.recordedBytes = block.size.toNat + (registry.erase block).recordedBytes := by
  have removed := ((perm_cons_filter sound.ascending member).map
    fun block => block.size.toNat).sum_eq
  rwa [List.map_cons, List.sum_cons] at removed

theorem toNat_liveBytes_insert (registry : Registry) (block : Block) :
    (registry.insert block).liveBytes.toNat =
      min (registry.liveBytes.toNat + block.size.toNat) (UInt64.size - 1) :=
  Word.toNat_saturatingAdd _ _

theorem toNat_liveBytes_erase (registry : Registry) (block : Block) :
    (registry.erase block).liveBytes.toNat = registry.liveBytes.toNat - block.size.toNat :=
  Word.toNat_saturatingSub _ _

namespace IsBounded

theorem insert (bounded : registry.IsBounded)
    (absent : registry.contains block.start = false) : (registry.insert block).IsBounded := by
  have figure := toNat_liveBytes_insert registry block
  have added := recordedBytes_insert absent
  unfold IsBounded at bounded ⊢
  omega

theorem erase (bounded : registry.IsBounded) (sound : registry.IsSound)
    (member : block ∈ registry.blocks) : (registry.erase block).IsBounded := by
  have figure := toNat_liveBytes_erase registry block
  have removed := recordedBytes_erase sound member
  unfold IsBounded at bounded ⊢
  omega

end IsBounded

namespace LacksAtMost

/-- A figure that stops at the greatest word lacks what the sum is above it. -/
theorem insert (lacks : registry.LacksAtMost lack)
    (absent : registry.contains block.start = false)
    (grown : (registry.insert block).recordedBytes < UInt64.size + lack) :
    (registry.insert block).LacksAtMost lack := by
  have figure := toNat_liveBytes_insert registry block
  have added := recordedBytes_insert absent
  unfold LacksAtMost at lacks ⊢
  omega

/-- A figure that stops at zero lacks less than before. -/
theorem erase (lacks : registry.LacksAtMost lack) (sound : registry.IsSound)
    (member : block ∈ registry.blocks) : (registry.erase block).LacksAtMost lack := by
  have figure := toNat_liveBytes_erase registry block
  have removed := recordedBytes_erase sound member
  unfold LacksAtMost at lacks ⊢
  omega

end LacksAtMost

theorem IsExact.insert (exact : registry.IsExact) (absent : registry.contains block.start = false)
    (fits : (registry.insert block).recordedBytes < UInt64.size) :
    (registry.insert block).IsExact := by
  obtain ⟨bounded, lacks⟩ := isExact_iff.1 exact
  exact isExact_iff.2 ⟨bounded.insert absent, lacks.insert absent fits⟩

theorem IsExact.erase (exact : registry.IsExact) (sound : registry.IsSound)
    (member : block ∈ registry.blocks) : (registry.erase block).IsExact := by
  obtain ⟨bounded, lacks⟩ := isExact_iff.1 exact
  exact isExact_iff.2 ⟨bounded.erase sound member, lacks.erase sound member⟩

theorem recordedBytes_eq_zero (cleared : registry.liveCount = 0) : registry.recordedBytes = 0 := by
  rw [recordedBytes, List.length_eq_zero_iff.1 cleared]
  rfl

/-! ## Uses -/

namespace IsSound

theorem state_register (sound : registry.IsSound) (watch : Watch) (addr : Addr) (bytes : Size) :
    ((Use.register watch addr bytes).ask registry).state =
      if registry.contains addr then registry else registry.insert ⟨addr, bytes⟩ := by
  rw [Use.ask_register sound]
  split
  · exact Use.state_breached _ _ _
  · rfl

theorem state_deregister (sound : registry.IsSound) (watch : Watch) (addr : Addr) :
    ((Use.deregister watch addr).ask registry).state =
      match registry.find? addr with
      | none => registry
      | some block => registry.erase block := by
  rw [Use.ask_deregister sound]
  cases registry.find? addr with
  | none => exact Use.state_breached _ _ _
  | some block => rfl

theorem ask_cases (sound : registry.IsSound) (use : Use) :
    (use.ask registry).state = registry ∨
      (∃ block, registry.contains block.start = false ∧
        (use.ask registry).state = registry.insert block) ∨
      ∃ block ∈ registry.blocks, (use.ask registry).state = registry.erase block := by
  cases use with
  | register watch addr bytes =>
    rw [sound.state_register]
    split
    next => exact .inl rfl
    next absent => exact .inr (.inl ⟨⟨addr, bytes⟩, Bool.eq_false_iff.2 absent, rfl⟩)
  | deregister watch addr =>
    rw [sound.state_deregister]
    cases found : registry.find? addr with
    | none => exact .inl rfl
    | some block => exact .inr (.inr ⟨block, (sound.find?_eq_some_iff.1 found).1, rfl⟩)

end IsSound

/-- The byte figure has no influence on what a use answers, logs or breaks, nor on any record or
other figure. -/
theorem IsSound.ask_reckoned (sound : registry.IsSound) (use : Use) (figure : Size) :
    ∃ next : Size, use.ask { registry with liveBytes := figure } =
      { use.ask registry with state := { (use.ask registry).state with liveBytes := next } } := by
  have alike : IsSound { registry with liveBytes := figure } := ⟨sound.ascending, sound.balanced⟩
  have breached : ∀ answer, ∃ next : Size,
      use.breached answer { registry with liveBytes := figure } =
        { use.breached answer registry with
          state := { (use.breached answer registry).state with liveBytes := next } } := by
    intro answer
    unfold Use.breached
    cases use.watch.build <;> exact ⟨figure, rfl⟩
  cases use with
  | register watch addr bytes =>
    have found : Registry.contains { registry with liveBytes := figure } addr =
      registry.contains addr := rfl
    rw [Use.ask_register alike, Use.ask_register sound, found]
    split
    · exact breached _
    · exact ⟨Word.saturatingAdd figure bytes, rfl⟩
  | deregister watch addr =>
    have found : Registry.find? { registry with liveBytes := figure } addr =
      registry.find? addr := rfl
    rw [Use.ask_deregister alike, Use.ask_deregister sound, found]
    cases registry.find? addr with
    | none => exact breached _
    | some block => exact ⟨Word.saturatingSub figure block.size, rfl⟩

theorem isBounded_afterUses (uses : List Use) : (afterUses uses).IsBounded := by
  induction uses using List.reverseRecOn with
  | nil => exact Nat.le_refl 0
  | append_singleton uses use ih =>
    have sound := isSound_afterUses uses
    rw [afterUses_concat]
    rcases sound.ask_cases use with same | ⟨block, absent, added⟩ | ⟨block, member, dropped⟩
    · rwa [same]
    · rw [added]
      exact ih.insert absent
    · rw [dropped]
      exact ih.erase sound member

/-- What the figure lacks is at most what the sum on record exceeded the greatest word by, at its
peak since no block was live. -/
theorem lacksAtMost_afterUses {before since : List Use}
    (cleared : (afterUses before).liveCount = 0)
    (peak : ∀ part, part <+: since →
      (afterUses (before ++ part)).recordedBytes < UInt64.size + lack) :
    (afterUses (before ++ since)).LacksAtMost lack := by
  induction since using List.reverseRecOn with
  | nil =>
    rw [List.append_nil, LacksAtMost, recordedBytes_eq_zero cleared]
    exact Nat.zero_le _
  | append_singleton since use ih =>
    have sound := isSound_afterUses (before ++ since)
    have lacks := ih fun part start => peak part (start.trans (List.prefix_append since [use]))
    have grown := peak (since ++ [use]) (List.prefix_refl _)
    rw [← List.append_assoc, afterUses_concat] at grown ⊢
    rcases sound.ask_cases use with same | ⟨block, absent, added⟩ | ⟨block, member, dropped⟩
    · rwa [same]
    · rw [added] at grown ⊢
      exact lacks.insert absent grown
    · rw [dropped]
      exact lacks.erase sound member

structure ReckonsBytes (uses : List Use) : Prop where
  bounded : (afterUses uses).liveBytes.toNat ≤ (afterUses uses).recordedBytes
  cleared : (afterUses uses).liveCount = 0 → (afterUses uses).liveBytes = 0
  /-- The figure is exact if the sum has been a word ever since no block was live. -/
  exact : ∀ before since, uses = before ++ since → (afterUses before).liveCount = 0 →
    (∀ part, part <+: since → (afterUses (before ++ part)).recordedBytes < UInt64.size) →
      (afterUses uses).liveBytes.toNat = (afterUses uses).recordedBytes
  /-- A registration raises the figure to the greatest word at most. -/
  raised : ∀ watch addr bytes,
    ((Use.register watch addr bytes).ask (afterUses uses)).state.liveBytes.toNat =
      if (afterUses uses).contains addr then (afterUses uses).liveBytes.toNat
      else min ((afterUses uses).liveBytes.toNat + bytes.toNat) (UInt64.size - 1)
  /-- A deregistration lowers it to zero at most. -/
  lowered : ∀ watch addr,
    ((Use.deregister watch addr).ask (afterUses uses)).state.liveBytes.toNat =
      (afterUses uses).liveBytes.toNat - ((afterUses uses).sizeOf addr).toNat
  calm : ∀ use : Use, (use.ask (afterUses uses)).result ≠ .error .overflow
  /-- Whatever the figure is, a use comes to the same, apart from the figure. -/
  unheeded : ∀ (use : Use) (figure : Size), ∃ next : Size,
    use.ask { afterUses uses with liveBytes := figure } =
      { use.ask (afterUses uses) with
        state := { (use.ask (afterUses uses)).state with liveBytes := next } }

/-- However a registry was used, its byte figure does not exceed the sum of the sizes on record, is
zero once no block is live, and is exact as long as the sum has been a word since then; it stops at
its ends without wrapping, and no use breaks off because of it. -/
theorem reckonsBytes_afterUses (uses : List Use) : ReckonsBytes uses where
  bounded := isBounded_afterUses uses
  cleared none := by
    have bounded := isBounded_afterUses uses
    rw [IsBounded, recordedBytes_eq_zero none, Nat.le_zero] at bounded
    exact UInt64.toNat_inj.1 bounded
  exact before since split none peak := by
    subst split
    exact isExact_iff.2 ⟨isBounded_afterUses _, lacksAtMost_afterUses none peak⟩
  raised watch addr bytes := by
    rw [(isSound_afterUses uses).state_register]
    split
    · rfl
    · exact toNat_liveBytes_insert _ _
  lowered watch addr := by
    rw [(isSound_afterUses uses).state_deregister, sizeOf]
    cases (afterUses uses).find? addr with
    | none => rfl
    | some block => exact toNat_liveBytes_erase _ _
  calm use := by
    have conforms := Use.conforms (matches_afterUses uses) (isSound_afterUses uses) use
    by_cases breach : use.IsBreach (sizesAfter uses)
    · cases build : use.watch.build with
      | checked => simp [(conforms.broken breach build).1]
      | unchecked => simp [(conforms.ignored breach build).1]
    · simp [(conforms.kept breach).1]
  unheeded := (isSound_afterUses uses).ask_reckoned

/-- Five bytes are on record, but the figure lost them when it stopped at the greatest word. -/
example :
    let watch : Watch := ⟨.checked, true, .host⟩
    let uses : List Use :=
      [.register watch 1 0xffffffffffffffff, .register watch 2 5, .deregister watch 1]
    (afterUses uses).liveBytes = 0 ∧ (afterUses uses).recordedBytes = 5 := by
  decide +kernel

end Registry

end TrackedMemory
