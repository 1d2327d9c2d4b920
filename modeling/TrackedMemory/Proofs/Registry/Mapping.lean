import Mathlib.Data.Finmap
import TrackedMemory.Proofs.Manager.Settled
import TrackedMemory.Proofs.Manager.Balance
import TrackedMemory.Proofs.Registry.Lookup

/-!
# A registry is a finite map

What a registry has on record is a finite map from addresses to sizes. To register inserts an
address that is absent, and to deregister removes one that is present and tells its size; any other
use breaks its contract and changes nothing at all. However a registry was used, in whichever build,
it shows the map that went through the same uses, and the map decides what comes of the next use.
-/

namespace TrackedMemory

abbrev Sizes := Finmap fun _ : Addr => Size

namespace Registry

/-- Answer to a use: whether the block was recorded, or the size of the one that was dropped. -/
inductive Use.Answer where
  | recorded (isNew : Bool)
  | dropped (size : Option Size)
  deriving DecidableEq

namespace Use

def watch : Use → Watch
  | .register watch _ _ | .deregister watch _ => watch

def ask : Use → Act Registry Answer
  | .register watch addr bytes => do
      let recorded ← Registry.register watch addr bytes
      pure (.recorded recorded)
  | .deregister watch addr => do
      let size ← Registry.deregister watch addr
      pure (.dropped size)

/-- Whether a use breaks its contract: what it registers is there, or what it deregisters is not. -/
def IsBreach (sizes : Sizes) : Use → Prop
  | .register _ addr _ => addr ∈ sizes
  | .deregister _ addr => addr ∉ sizes

def applyTo (sizes : Sizes) : Use → Sizes
  | .register _ addr bytes => if addr ∈ sizes then sizes else sizes.insert addr bytes
  | .deregister _ addr => sizes.erase addr

/-- The answer that the map before a use gives to it. -/
def answerFrom (sizes : Sizes) : Use → Answer
  | .register _ addr _ => .recorded (decide (addr ∉ sizes))
  | .deregister _ addr => .dropped (sizes.lookup addr)

/-- What a checked build finds violated by a breach. -/
def violation : Use → Violation
  | .register watch addr _ => ⟨.precondition, .alreadyRegistered watch.space addr⟩
  | .deregister watch addr => ⟨.precondition, .notRegistered watch.space addr⟩

def objection : Use → Event
  | .register watch addr _ => .registerIgnored addr watch.space
  | .deregister watch addr => .deregisterIgnored addr watch.space

end Use

def sizesAfter (uses : List Use) : Sizes :=
  uses.foldl Use.applyTo ∅

/-- What a registry shows that has a map on record. -/
structure Represents (registry : Registry) (sizes : Sizes) : Prop where
  contains : ∀ addr, registry.contains addr = true ↔ addr ∈ sizes
  sizeOf : ∀ addr, registry.sizeOf addr = (sizes.lookup addr).getD 0
  liveCount : registry.liveCount = sizes.keys.card
  /-- The records come in strictly ascending order of their addresses. -/
  ascending : registry.blocks.Pairwise fun first second => first.start < second.start
  recorded : ∀ block, block ∈ registry.blocks ↔ sizes.lookup block.start = some block.size

structure Use.Conforms (use : Use) (registry : Registry) (sizes : Sizes) : Prop where
  next : (use.ask registry).state.Represents (use.applyTo sizes)
  /-- A use that keeps its contract is answered from the map, and nothing is logged. -/
  kept : ¬use.IsBreach sizes →
    (use.ask registry).result = .ok (use.answerFrom sizes) ∧ (use.ask registry).trace = []
  /-- A breach leaves the records and all figures as they are. -/
  unchanged : use.IsBreach sizes → (use.ask registry).state = registry
  /-- A checked build breaks off at a breach. -/
  broken : use.IsBreach sizes → use.watch.build = .checked →
    (use.ask registry).result = .error (.violated use.violation) ∧
      (use.ask registry).trace = [.logged (.violated use.violation)]
  /-- An unchecked build answers a breach from the map too, and logs one error. -/
  ignored : use.IsBreach sizes → use.watch.build = .unchecked →
    (use.ask registry).result = .ok (use.answerFrom sizes) ∧
      (use.ask registry).trace = [.logged use.objection] ∧ use.objection.level = .error

/-! ## Records and the map -/

variable {registry : Registry} {sizes : Sizes} {use : Use} {addr : Addr}

def Matches (registry : Registry) (sizes : Sizes) : Prop :=
  ∀ addr, (registry.find? addr).map Block.size = sizes.lookup addr

theorem matches_empty : Matches {} ∅ :=
  fun addr => by
    rw [Finmap.lookup_empty]
    rfl

namespace Matches

theorem contains_iff (matched : registry.Matches sizes) :
    registry.contains addr = true ↔ addr ∈ sizes := by
  rw [← Finmap.lookup_isSome, ← matched addr, contains, Option.isSome_map]

theorem insert (matched : registry.Matches sizes) (sound : registry.IsSound)
    (absent : registry.contains addr = false) (bytes : Size) :
    (registry.insert ⟨addr, bytes⟩).Matches (sizes.insert addr bytes) := by
  intro other
  rw [sound.find?_insert absent]
  split
  next here =>
    subst here
    exact (Finmap.lookup_insert sizes).symm
  next elsewhere => exact (matched other).trans (Finmap.lookup_insert_of_ne sizes elsewhere).symm

theorem erase {block : Block} (matched : registry.Matches sizes) (sound : registry.IsSound)
    (member : block ∈ registry.blocks) :
    (registry.erase block).Matches (sizes.erase block.start) := by
  intro other
  rw [sound.find?_erase member]
  split
  next here =>
    subst here
    exact (Finmap.lookup_erase _ sizes).symm
  next elsewhere => exact (matched other).trans (Finmap.lookup_erase_ne elsewhere).symm

theorem keys_eq (matched : registry.Matches sizes) :
    sizes.keys = (registry.blocks.map Block.start).toFinset := by
  ext addr
  rw [Finmap.mem_keys, ← matched.contains_iff, Registry.contains_iff, List.mem_toFinset,
    List.mem_map]

theorem represents (matched : registry.Matches sizes) (sound : registry.IsSound) :
    registry.Represents sizes where
  contains _ := matched.contains_iff
  sizeOf addr := by rw [Registry.sizeOf, matched addr]
  liveCount := by
    rw [matched.keys_eq, List.toFinset_card_of_nodup sound.nodup_starts, List.length_map,
      Registry.liveCount]
  ascending := sound.ascending
  recorded block := by
    rw [← matched block.start, Option.map_eq_some_iff]
    constructor
    · intro member
      exact ⟨block, sound.find?_of_mem member, rfl⟩
    · rintro ⟨other, found, size⟩
      obtain ⟨member, start⟩ := sound.find?_eq_some_iff.1 found
      rwa [← show other = block from by cases other; cases block; cases start; cases size; rfl]

end Matches

/-! ## Uses of a sound registry -/

namespace Use

/-- A breach breaks a checked build off; an unchecked build reports it and answers. -/
def breached (use : Use) (answer : Answer) : Act Registry Answer := fun registry =>
  match use.watch.build with
  | .checked => ⟨.error (.violated use.violation), registry, [.logged (.violated use.violation)]⟩
  | .unchecked => ⟨.ok answer, registry, [.logged use.objection]⟩

theorem state_breached (use : Use) (answer : Answer) (registry : Registry) :
    (use.breached answer registry).state = registry := by
  unfold breached
  cases use.watch.build <;> rfl

theorem ask_register (sound : registry.IsSound) (watch : Watch) (addr : Addr) (bytes : Size) :
    (Use.register watch addr bytes).ask registry =
      if registry.contains addr then
        (Use.register watch addr bytes).breached (.recorded false) registry
      else ⟨.ok (.recorded true), registry.insert ⟨addr, bytes⟩, []⟩ := by
  rw [ask, Act.map_apply, register_apply watch sound]
  split
  · simp only [breached, Use.watch]
    cases watch.build <;> rfl
  · rfl

theorem ask_deregister (sound : registry.IsSound) (watch : Watch) (addr : Addr) :
    (Use.deregister watch addr).ask registry =
      match registry.find? addr with
      | none => (Use.deregister watch addr).breached (.dropped none) registry
      | some block => ⟨.ok (.dropped (some block.size)), registry.erase block, []⟩ := by
  rw [ask, Act.map_apply, deregister_apply watch sound]
  cases registry.find? addr with
  | none =>
    simp only [breached, Use.watch]
    cases watch.build <;> rfl
  | some block => rfl

theorem applyTo_of_breach (breach : use.IsBreach sizes) : use.applyTo sizes = sizes := by
  cases use with
  | register watch addr bytes => exact if_pos breach
  | deregister watch addr =>
    refine Finmap.ext_lookup fun other => ?_
    by_cases here : other = addr
    · subst here
      rw [applyTo, Finmap.lookup_erase, Finmap.lookup_eq_none.2 breach]
    · exact Finmap.lookup_erase_ne here

theorem ask_of_breach (matched : registry.Matches sizes) (sound : registry.IsSound)
    (breach : use.IsBreach sizes) :
    use.ask registry = use.breached (use.answerFrom sizes) registry := by
  cases use with
  | register watch addr bytes =>
    have known : addr ∈ sizes := breach
    have answered : answerFrom sizes (.register watch addr bytes) = .recorded false :=
      congrArg Answer.recorded (decide_eq_false (not_not_intro known))
    rw [ask_register sound, if_pos (matched.contains_iff.2 known), answered]
  | deregister watch addr =>
    have unknown : sizes.lookup addr = none := Finmap.lookup_eq_none.2 breach
    have missing : registry.find? addr = none :=
      Option.map_eq_none_iff.1 ((matched addr).trans unknown)
    rw [ask_deregister sound, missing, answerFrom, unknown]

/-- A use that keeps its contract changes the registry as it changes the map. -/
theorem ask_of_kept (matched : registry.Matches sizes) (sound : registry.IsSound)
    (kept : ¬use.IsBreach sizes) :
    ∃ next : Registry, next.Matches (use.applyTo sizes) ∧
      use.ask registry = ⟨.ok (use.answerFrom sizes), next, []⟩ := by
  cases use with
  | register watch addr bytes =>
    have new : addr ∉ sizes := kept
    have absent : ¬registry.contains addr = true := mt matched.contains_iff.1 new
    refine ⟨registry.insert ⟨addr, bytes⟩, ?_, ?_⟩
    · rw [applyTo, if_neg new]
      exact matched.insert sound (Bool.eq_false_iff.2 absent) bytes
    · rw [ask_register sound, if_neg absent, answerFrom, decide_eq_true new]
  | deregister watch addr =>
    obtain ⟨size, known⟩ := Finmap.mem_iff.1 (not_not.1 kept)
    obtain ⟨block, found, rfl⟩ := Option.map_eq_some_iff.1 ((matched addr).trans known)
    obtain ⟨member, rfl⟩ := sound.find?_eq_some_iff.1 found
    refine ⟨registry.erase block, matched.erase sound member, ?_⟩
    rw [ask_deregister sound, found, answerFrom, known]

/-- A registry is changed alike, whether or not the answer is heard. -/
theorem state_perform (use : Use) (registry : Registry) :
    (use.perform registry).state = (use.ask registry).state := by
  cases use <;> rw [perform, ask, Act.discard_apply, Act.map_apply]

theorem matches_ask (matched : registry.Matches sizes) (sound : registry.IsSound) (use : Use) :
    (use.ask registry).state.Matches (use.applyTo sizes) := by
  by_cases breach : use.IsBreach sizes
  · rwa [applyTo_of_breach breach, ask_of_breach matched sound breach, state_breached]
  · obtain ⟨next, renewed, asked⟩ := ask_of_kept matched sound breach
    rwa [asked]

theorem conforms (matched : registry.Matches sizes) (sound : registry.IsSound) (use : Use) :
    use.Conforms registry sizes where
  next := by
    have kept : (use.ask registry).state.IsSound :=
      state_perform use registry ▸ (use_keeps use).state _ sound
    exact (matches_ask matched sound use).represents kept
  kept held := by
    obtain ⟨next, -, asked⟩ := ask_of_kept matched sound held
    rw [asked]
    exact ⟨rfl, rfl⟩
  unchanged breach := by
    rw [ask_of_breach matched sound breach, state_breached]
  broken breach checked := by
    rw [ask_of_breach matched sound breach, breached, checked]
    exact ⟨rfl, rfl⟩
  ignored breach unchecked := by
    rw [ask_of_breach matched sound breach, breached, unchecked]
    exact ⟨rfl, rfl, by cases use <;> rfl⟩

end Use

theorem afterUses_concat (uses : List Use) (use : Use) :
    afterUses (uses ++ [use]) = (use.ask (afterUses uses)).state := by
  rw [← Use.state_perform, afterUses, List.foldl_append]
  rfl

theorem sizesAfter_concat (uses : List Use) (use : Use) :
    sizesAfter (uses ++ [use]) = use.applyTo (sizesAfter uses) :=
  List.foldl_append

theorem matches_afterUses (uses : List Use) : (afterUses uses).Matches (sizesAfter uses) := by
  induction uses using List.reverseRecOn with
  | nil => exact matches_empty
  | append_singleton uses use ih =>
    rw [afterUses_concat, sizesAfter_concat]
    exact Use.matches_ask ih (isSound_afterUses uses) use

/-- However a registry was used, it shows the map that went through the same uses, and that map
decides what comes of the next use: how it is answered, what it logs, and whether it breaks off. -/
theorem conforms_afterUses (uses : List Use) :
    (afterUses uses).Represents (sizesAfter uses) ∧
      ∀ use : Use, use.Conforms (afterUses uses) (sizesAfter uses) := by
  have matched := matches_afterUses uses
  have sound := isSound_afterUses uses
  exact ⟨matched.represents sound, Use.conforms matched sound⟩

/-- A block of no bytes is on record like any other, and is not replaced. -/
example :
    let watch : Watch := ⟨.unchecked, false, .host⟩
    let uses : List Use := [.register watch 4 0, .register watch 4 8]
    ((Use.deregister watch 4).ask (afterUses uses)).result = .ok (.dropped (some 0)) := by
  rfl

end Registry

end TrackedMemory
