import TrackedMemory.Proofs.Balance
import TrackedMemory.Proofs.Concurrent.Progress
import TrackedMemory.Proofs.Fleet.Courses

/-!
# The states of a manager

The books of a manager arise in a fleet that runs over any backend, or between two moves of calls
that run side by side. They are at rest if no call is under way. Books that arise are sound; at rest
they are settled, also after calls that ran side by side.
-/

namespace TrackedMemory

/-! ## Sizes of new blocks -/

namespace Phase

variable {setup : Setup} {books after : Books} {phase next : Phase} {trace : Trace}
  {command : Command}

/-- A block that is asked for, or about to be registered, has a size. -/
def IsSized : Phase → Prop
  | .inAlloc _ bytes | .granted _ _ bytes | .queued _ (.register _ _ bytes)
  | .inTurn _ (.register _ _ bytes) => bytes ≠ 0
  | _ => True

theorem Passes.isSized (passes : phase.Passes next) (serves : phase.Serves command) :
    next.IsSized := by
  have aside := passes.after
  have serves := passes.serves command serves
  cases next with
  | inAlloc area bytes => exact serves.1
  | granted | queued | inTurn => cases aside
  | _ => trivial

theorem isSized_afterTurn (setup : Setup) (ticket : Nat) (change : Change)
    (result : Except Fault Unit) : (afterTurn setup ticket change result).IsSized := by
  cases result with
  | error fault => cases change <;> trivial
  | ok =>
    cases change with
    | register area ptr bytes =>
      simp only [afterTurn]
      split <;> trivial
    | deregister | nothing => trivial

theorem isSized_afterSearch (setup : Setup) (area : Area) (ptr : Ptr) (found : Option Area) :
    (afterSearch setup area ptr found).IsSized := by
  simp only [afterSearch]
  split <;> trivial

theorem Step.isSized (step : Step setup books phase after next trace)
    (serves : phase.Serves command) (sized : phase.IsSized) : next.IsSized := by
  cases step with
  | aside tally passes => exact passes.isSized serves
  | granted | drawToRegister => exact sized
  | enter ticket change =>
    cases change with
    | register area ptr bytes => exact sized
    | deregister | nothing => trivial
  | leave ticket change result => exact isSized_afterTurn setup ticket change result
  | confirm here area ptr => exact isSized_afterSearch setup area ptr (some here)
  | miss area ptr => exact isSized_afterSearch setup area ptr none
  | _ => trivial

theorem Step.areGenuine (step : Step setup books phase after next trace)
    (sound : books.registries.AreSound) (sized : phase.IsSized)
    (genuine : books.registries.AreGenuine) : after.registries.AreGenuine := by
  cases step with
  | change ticket change =>
    rw [Change.apply_state sound]
    refine genuine.apply fun area ptr bytes register => ?_
    cases change with
    | register =>
      cases register
      exact sized
    | deregister | nothing => cases register
  | _ => exact genuine

end Phase

namespace Machine

variable {setup : Setup} {machine : Machine}

/-- Every block of a reachable machine has an address and a size, those on record and those that
calls have in hand. -/
theorem Reachable.areGenuine (reachable : Reachable setup machine) :
    machine.books.registries.AreGenuine := by
  have kept : machine.books.registries.AreSound ∧ machine.books.registries.AreGenuine ∧
      machine.Every fun call => call.phase.Serves call.command ∧ call.phase.IsSized := by
    refine Reachable.invariant
      (P := fun machine => machine.books.registries.AreSound ∧ machine.books.registries.AreGenuine ∧
        machine.Every fun call => call.phase.Serves call.command ∧ call.phase.IsSized)
      ⟨Registries.areSound_empty, Registries.areGenuine_empty, every_empty⟩ ?_ ?_ reachable
    · rintro machine command ⟨sound, genuine, calls⟩
      exact ⟨sound, genuine, calls.start ⟨rfl, trivial⟩⟩
    · rintro machine index call books phase trace ⟨sound, genuine, calls⟩ called step
      obtain ⟨serves, sized⟩ := calls called
      exact ⟨step.areSound sound, step.areGenuine sound sized genuine,
        every_goOn called ⟨step.serves serves, step.isSized serves sized⟩
          fun _ there => calls there⟩
  exact kept.2.1

theorem Reachable.isSettled (reachable : Reachable setup machine)
    (finished : ∀ call ∈ machine.calls, call.isFinished) : machine.books.IsSettled := by
  obtain ⟨holders, orderly⟩ := reachable.exists_orderly
  refine ⟨reachable.areSound, reachable.areGenuine, ?_, orderly.serving_eq_issued finished⟩
  -- The turn would be that of a call, and a finished call has none.
  refine Option.eq_none_iff_forall_ne_some.2 fun ticket turn => ?_
  obtain ⟨index, has⟩ := (orderly.turns ticket).1 turn
  obtain ⟨call, called, had⟩ := Option.bind_eq_some_iff.1 has
  obtain ⟨result, ends⟩ := call.isFinished_iff.1 (finished call (List.mem_of_getElem? called))
  rw [ends] at had
  cases had

end Machine

/-! ## Books -/

namespace Books

variable {books : Books}

/-- Books of a manager at some time: in a fleet that has run over any backend, with managers that
were dropped or broke off, or between two moves of calls that run side by side. -/
inductive Arise : Books → Prop
  | fleet {β : Type} [Backend β] (setups : List Setup) (backend : β) (steps : List (Fleet.Step β))
      (member : Member) (inside : member ∈ ((Fleet.launch setups backend).after steps).members) :
      Arise member.books
  | machine {setup : Setup} (machine : Machine) (reachable : Machine.Reachable setup machine) :
      Arise machine.books

inductive Rest : Books → Prop
  | fleet {β : Type} [Backend β] (setups : List Setup) (backend : β) (steps : List (Fleet.Step β))
      (member : Member) (inside : member ∈ ((Fleet.launch setups backend).after steps).members) :
      Rest member.books
  | machine {setup : Setup} (machine : Machine) (reachable : Machine.Reachable setup machine)
      (finished : ∀ call ∈ machine.calls, call.isFinished) : Rest machine.books

theorem Arise.areSound (arise : books.Arise) : books.registries.AreSound := by
  cases arise with
  | fleet setups backend steps member inside =>
    exact Fleet.areSound_after (Fleet.areSound_launch setups backend) steps member inside
  | machine machine reachable => exact reachable.areSound

theorem Rest.isSettled (rest : books.Rest) : books.IsSettled := by
  cases rest with
  | fleet setups backend steps member inside =>
    exact (Fleet.isSettled_launch setups backend).after steps member inside
  | machine machine reachable finished => exact reachable.isSettled finished

end Books

end TrackedMemory
