import TrackedMemory.Concurrent.Phase
import TrackedMemory.Proofs.Registry.Soundness

/-!
# What a ticket does to the registries

A mutation is what the holder of a ticket owes the registries: the record of a new block, the end of
a record, or nothing. `Registries.apply` carries it out in plain terms, without build, contract or
lock, and `Registries.replay` does so for a whole list from empty registries on. On sound
registries the guarded changes of a call come to the same.
-/

namespace TrackedMemory

/-- What the holder of a ticket does to the registries. -/
inductive Mutation where
  | register (area : Area) (ptr : Ptr) (bytes : Size)
  | deregister (area : Area) (ptr : Ptr)
  | nothing
  deriving DecidableEq

def Change.mutation : Change → Mutation
  | .register area ptr bytes => .register area ptr bytes
  | .deregister area ptr _ _ => .deregister area ptr
  | .nothing _ => .nothing

namespace Registries

variable {registries : Registries} {area : Area} {mutation : Mutation}

/-- Makes a mutation; one whose precondition does not hold changes nothing. -/
def apply (registries : Registries) : Mutation → Registries
  | .register area ptr bytes =>
      if (registries.get area).contains ptr.addr then registries
      else registries.set ((registries.get area).insert ⟨ptr.addr, bytes⟩) area
  | .deregister area ptr =>
      match (registries.get area).find? ptr.addr with
      | none => registries
      | some block => registries.set ((registries.get area).erase block) area
  | .nothing => registries

/-- Makes mutations one after the other, from empty registries on. -/
def replay (mutations : List Mutation) : Registries :=
  mutations.foldl apply {}

def admits (registries : Registries) : Mutation → Bool
  | .register area ptr _ => !(registries.get area).contains ptr.addr
  | .deregister area ptr => (registries.get area).contains ptr.addr
  | .nothing => true

def AreSound (registries : Registries) : Prop :=
  ∀ area, (registries.get area).IsSound

theorem set_get (registries : Registries) (area : Area) :
    registries.set (registries.get area) area = registries := by
  cases area <;> rfl

theorem areSound_empty : AreSound {} := by
  intro area
  cases area <;> exact Registry.isSound_empty

theorem AreSound.set (sound : registries.AreSound) {registry : Registry}
    (changed : registry.IsSound) : (registries.set registry area).AreSound := by
  intro other
  rw [get_set]
  split
  · exact changed
  · exact sound other

theorem AreSound.apply (sound : registries.AreSound) (mutation : Mutation) :
    (registries.apply mutation).AreSound := by
  cases mutation with
  | register area ptr bytes =>
    simp only [Registries.apply]
    split
    next => exact sound
    next absent => exact sound.set ((sound area).insert (Bool.eq_false_iff.2 absent))
  | deregister area ptr =>
    simp only [Registries.apply]
    split
    next => exact sound
    next block found =>
      exact sound.set ((sound area).erase ((sound area).find?_eq_some_iff.1 found).1)
  | nothing => exact sound

@[simp] theorem replay_concat (mutations : List Mutation) (mutation : Mutation) :
    replay (mutations ++ [mutation]) = (replay mutations).apply mutation := by
  simp [replay]

end Registries

namespace Change

variable {setup : Setup} {books : Books}

theorem apply_state (sound : books.registries.AreSound) (change : Change) :
    (change.apply setup books).state =
      { books with registries := books.registries.apply change.mutation } := by
  cases change with
  | register area ptr bytes =>
    rw [Change.apply, Act.discard_apply]
    simp only [Books.register, Books.onRegistry, Act.within_apply,
      Registry.register_apply _ (sound area)]
    simp only [mutation, Registries.apply]
    split
    · cases build : (Books.watch setup area).build <;> simp [Registries.set_get]
    · rfl
  | deregister area ptr bytes freed =>
    rw [Change.apply, Act.discard_apply]
    simp only [Books.deregister, Books.onRegistry, Act.within_apply,
      Registry.deregister_apply _ (sound area)]
    simp only [mutation, Registries.apply]
    cases found : (books.registries.get area).find? ptr.addr with
    | none => cases build : (Books.watch setup area).build <;> simp [Registries.set_get]
    | some block => rfl
  | nothing fault => rfl

theorem apply_result (sound : books.registries.AreSound) {change : Change}
    (admitted : books.registries.admits change.mutation = true) :
    (change.apply setup books).result = .ok () := by
  cases change with
  | register area ptr bytes =>
    have absent : (books.registries.get area).contains ptr.addr = false := by
      simpa [mutation, Registries.admits] using admitted
    rw [Change.apply, Act.discard_apply]
    simp only [Books.register, Books.onRegistry, Act.within_apply,
      Registry.register_apply _ (sound area), absent]
    rfl
  | deregister area ptr bytes freed =>
    have present : (books.registries.get area).contains ptr.addr = true := admitted
    obtain ⟨block, found⟩ := Option.isSome_iff_exists.1 present
    rw [Change.apply, Act.discard_apply]
    simp only [Books.deregister, Books.onRegistry, Act.within_apply,
      Registry.deregister_apply _ (sound area), found]
    rfl
  | nothing fault => rfl

theorem apply_sequencer (change : Change) :
    (change.apply setup books).state.sequencer = books.sequencer := by
  cases change <;> rw [Change.apply] <;> first | rw [Act.discard_apply] | skip
  all_goals rfl

end Change

end TrackedMemory
