import Mathlib.Data.List.Induction
import TrackedMemory.Proofs.Concurrent.Mutations
import TrackedMemory.Proofs.Keeping

/-!
# The actions of a manager keep its counters in balance

The number of registrations less that of deregistrations is the number of live blocks. Every change
of a registry keeps this, whether it is made or breaks off, and no check of it ever fails. Each
action of a manager has one lemma here, which is put together from those of its parts; none of them
depends on what the backend answers.
-/

namespace TrackedMemory

structure Figures.IsBalanced (figures : Figures) : Prop where
  fewer : figures.deregistrations ≤ figures.registrations
  live : figures.registrations - figures.deregistrations = figures.liveCount

def Statistics.AreBalanced (statistics : Statistics) : Prop :=
  ∀ area, (statistics.area area).IsBalanced

namespace Registry

inductive Use where
  | register (watch : Watch) (addr : Addr) (bytes : Size)
  | deregister (watch : Watch) (addr : Addr)

def Use.perform : Use → Act Registry Unit
  | .register watch addr bytes => do
      let _ ← Registry.register watch addr bytes
  | .deregister watch addr => do
      let _ ← Registry.deregister watch addr

/-- An empty registry after it was used; a use that breaks off does not end it. -/
def afterUses (uses : List Use) : Registry :=
  uses.foldl (fun registry use => (use.perform registry).state) {}

variable {registry : Registry}

theorem IsSound.isBalanced (sound : registry.IsSound) : registry.figures.IsBalanced := by
  have balanced := sound.balanced
  refine ⟨?_, ?_⟩ <;> simp only [figures, liveCount] <;> omega

theorem register_keeps (watch : Watch) (addr : Addr) (bytes : Size) :
    Act.Keeps IsSound (fun _ => True) (register watch addr bytes) := by
  constructor <;> intro registry sound <;> rw [register_apply watch sound]
  · split
    next => cases watch.build <;> exact sound
    next absent => exact sound.insert (Bool.eq_false_iff.2 absent)
  · split
    · cases watch.build <;> simp [Event.isAlarm]
    · exact Trace.isQuiet_nil
  · split
    · cases watch.build
      · rfl
      · trivial
    · trivial

theorem deregister_keeps (watch : Watch) (addr : Addr) :
    Act.Keeps IsSound (fun _ => True) (deregister watch addr) := by
  constructor <;> intro registry sound <;> rw [deregister_apply watch sound] <;>
    cases found : registry.find? addr with
    | none => cases build : watch.build <;> simp [sound, Event.isAlarm, EndsWell, Fault.isAlarm]
    | some block =>
      simp [EndsWell, sound.erase (sound.find?_eq_some_iff.1 found).1]

theorem use_keeps (use : Use) : Act.Keeps IsSound (fun _ => True) use.perform := by
  cases use with
  | register watch addr bytes =>
    exact (register_keeps watch addr bytes).andThen fun _ => Act.Keeps.of_pure trivial
  | deregister watch addr =>
    exact (deregister_keeps watch addr).andThen fun _ => Act.Keeps.of_pure trivial

theorem isSound_afterUses (uses : List Use) : (afterUses uses).IsSound := by
  induction uses using List.reverseRecOn with
  | nil => exact isSound_empty
  | append_singleton uses use ih =>
    rw [afterUses, List.foldl_append]
    exact (use_keeps use).state _ ih

end Registry

/-! ## The books of a manager -/

/-- What a command answers if the counters balance: every figure that it tells balances, and it
finds them consistent. Other answers are not restricted. -/
def Command.Admits : Command → Answer → Prop
  | .query .isConsistent, answer => answer = .verdict true
  | .query (.figures _), answer =>
      ∃ figures, answer = .figures figures ∧ ∀ known ∈ figures, Figures.IsBalanced known
  | .query .statistics, answer =>
      ∃ statistics, answer = .statistics statistics ∧ statistics.AreBalanced
  | _, _ => True

theorem Registries.AreSound.areConsistent {registries : Registries}
    (sound : registries.AreSound) : registries.areConsistent = true := by
  exact List.all_eq_true.2 fun area _ => (sound area).isConsistent

namespace Books

variable {α : Type} {good : α → Prop} {act : Act Books α}

def AreSound (books : Books) : Prop :=
  books.registries.AreSound

variable {books : Books}

theorem AreSound.areBalanced (sound : books.AreSound) : books.statistics.AreBalanced := by
  intro area
  have balanced := (sound area).isBalanced
  cases area <;> exact balanced

theorem onRegistry_keeps {change : Act Registry α} (area : Area)
    (kept : Act.Keeps Registry.IsSound good change) :
    Act.Keeps AreSound good (onRegistry area change) :=
  kept.within (fun _ sound => sound area) fun _ _ sound changed =>
    Registries.AreSound.set sound changed

theorem register_keeps (setup : Setup) (area : Area) (ptr : Ptr) (bytes : Size) :
    Act.Keeps AreSound (fun _ => True) (register setup area ptr bytes) :=
  onRegistry_keeps area (Registry.register_keeps _ _ _)

theorem deregister_keeps (setup : Setup) (area : Area) (addr : Addr) :
    Act.Keeps AreSound (fun _ => True) (deregister setup area addr) :=
  onRegistry_keeps area (Registry.deregister_keeps _ _)

theorem draw_keeps : Act.Keeps AreSound (fun _ => True) draw := by
  refine Act.Keeps.of_read.andThen fun books => ?_
  refine Act.Keeps.andThen (Act.Keeps.of_update ?_) fun _ => .of_pure trivial
  exact fun _ sound => sound

theorem enter_keeps (ticket : Nat) : Act.Keeps AreSound (fun _ => True) (enter ticket) := by
  refine Act.Keeps.of_read.andThen fun books => ?_
  cases books.sequencer.enter? ticket with
  | none => exact .of_fail rfl
  | some entered => exact .of_update fun _ sound => sound

theorem inTurn_keeps (ticket : Nat) (kept : Act.Keeps AreSound good act) :
    Act.Keeps AreSound good (inTurn ticket act) :=
  (enter_keeps ticket).andThen fun _ => kept.after fun _ sound => sound

theorem remark_keeps (setup : Setup) (reason : Remark) :
    Act.Keeps AreSound (fun _ => True) (remark setup reason) :=
  .ite (fun _ => .of_log rfl) fun _ => .of_pure trivial

theorem count_keeps (change : Tally → Tally) :
    Act.Keeps AreSound (fun _ => True) (count change) :=
  .of_update fun _ sound => sound

theorem backendFailed_keeps (operation : Operation) (failure : Failure) :
    Act.Keeps AreSound (fun _ => True) (backendFailed operation failure) :=
  (count_keeps _).andThen fun _ => .of_log rfl

theorem refuse_keeps (change : Tally → Tally) (setup : Setup) (reason : Remark) :
    Act.Keeps AreSound (fun _ => True) (do
      count change
      remark setup reason) :=
  (count_keeps change).andThen fun _ => remark_keeps setup reason

theorem failed_keeps (change : Tally → Tally) (operation : Operation) (failure : Failure) :
    Act.Keeps AreSound (fun _ => True) (do
      count change
      backendFailed operation failure) :=
  (count_keeps change).andThen fun _ => backendFailed_keeps operation failure

theorem lookUp_keeps (setup : Setup) (area : Area) (ptr : Ptr) (given : Size) :
    Act.Keeps AreSound (fun _ => True) (lookUp setup area ptr given) := by
  refine Act.Keeps.of_read.andThen fun books => .ite (fun _ => ?_) fun _ => ?_
  · refine (refuse_keeps _ setup _).andThen fun _ => ?_
    exact .of_pure trivial
  · refine .ite (fun _ => .of_pure trivial) fun _ => ?_
    refine (remark_keeps setup _).andThen fun _ => ?_
    exact .of_pure trivial

theorem settleFree_keeps (freed : Except Failure Unit) :
    Act.Keeps AreSound (fun _ => True) (settleFree freed) := by
  cases freed with
  | ok value => exact .of_pure trivial
  | error failure => exact backendFailed_keeps _ failure

theorem requireFound_keeps (setup : Setup) (area : Area) (ptr : Ptr) (found : Option Area) :
    Act.Keeps AreSound (fun _ => True) (requireFound setup area ptr found) :=
  .require (by decide)

/-! ## Queries -/

theorem answerSize_keeps {query : Query} (setup : Setup) (addr : Addr) (size : Size)
    (admits : (Command.query query).Admits (.bytes size)) :
    Act.Keeps AreSound (Command.query query).Admits (answerSize setup addr size) := by
  refine .ite (fun _ => ?_) fun _ => ?_
  · exact (remark_keeps setup _).andThen fun _ => .of_pure admits
  · exact .of_pure admits

theorem answerCount_keeps {query : Query} (setup : Setup) (operation : Operation) (space : Space)
    (counter : Figures → Nat) (admits : ∀ number, (Command.query query).Admits (.count number)) :
    Act.Keeps AreSound (Command.query query).Admits
      (answerCount setup operation space counter) := by
  refine Act.Keeps.of_read.andThen fun books => ?_
  cases books.statistics.space? space with
  | some figures => exact .of_pure (admits _)
  | none => exact (remark_keeps setup _).andThen fun _ => .of_pure (admits 0)

theorem query_keeps (setup : Setup) (query : Query) :
    Act.Keeps AreSound (Command.query query).Admits (Books.query setup query) := by
  refine Act.Keeps.of_read.bind fun books sound => ?_
  cases query with
  | sizeOf addr => exact answerSize_keeps setup addr _ trivial
  | allocationCount space => exact answerCount_keeps setup _ space _ fun _ => trivial
  | deallocationCount space => exact answerCount_keeps setup _ space _ fun _ => trivial
  | totalLiveBytes =>
    cases books.statistics.totalLiveBytes? setup.build with
    | some bytes => exact .of_pure trivial
    | none => exact .of_fail rfl
  | figures space =>
    refine .of_pure ⟨_, rfl, fun figures known => ?_⟩
    obtain ⟨area, -, rfl⟩ := Option.map_eq_some_iff.1 known
    exact sound.areBalanced area
  | statistics => exact .of_pure ⟨_, rfl, sound.areBalanced⟩
  | isConsistent =>
    exact .of_pure (congrArg Answer.verdict (Registries.AreSound.areConsistent sound))
  | spaceOf | liveCount | liveBytes | leakReport | config => exact .of_pure trivial

end Books

/-! ## Calls one after the other -/

namespace Site

variable {β α : Type} {good : α → Prop}

def AreSound (site : Site β) : Prop :=
  site.books.AreSound

theorem onBooks_keeps {act : Act Books α} (kept : Act.Keeps Books.AreSound good act) :
    Act.Keeps AreSound good (onBooks act : Act (Site β) α) :=
  kept.within (fun _ sound => sound) fun _ _ _ changed => changed

theorem ask_keeps (request : Request) (block : α → Option Ptr) (answer : β → Reply α × β) :
    Act.Keeps AreSound (fun _ => True) (ask request block answer) := by
  refine Act.Keeps.of_read.andThen fun site => ?_
  refine Act.Keeps.andThen (Act.Keeps.of_update ?_) fun _ => ?_
  · exact fun _ sound => sound
  refine Act.Keeps.of_call.andThen fun _ => ?_
  cases (answer site.backend).1 with
  | granted value => exact .of_pure trivial
  | refused failure => exact .of_pure trivial
  | raised reason => exact .of_fail rfl

variable [Backend β]

theorem allocate_keeps (setup : Setup) (bytes : Size) (space : Space) :
    Act.Keeps AreSound (fun _ => True) (allocate setup bytes space : Act (Site β) _) := by
  unfold allocate
  cases allocationArea bytes space with
  | error reason =>
    refine (onBooks_keeps (Books.refuse_keeps _ setup reason)).andThen fun _ => ?_
    exact .of_pure trivial
  | ok area =>
    refine (ask_keeps _ _ _).andThen fun answered => ?_
    cases answered with
    | error failure =>
      refine (onBooks_keeps (Books.failed_keeps _ .allocate failure)).andThen fun _ => ?_
      exact .of_pure trivial
    | ok ptr =>
      refine (onBooks_keeps Books.draw_keeps).andThen fun ticket => ?_
      refine (onBooks_keeps
        (Books.inTurn_keeps ticket (Books.register_keeps setup area ptr bytes))).andThen fun _ => ?_
      refine Act.Keeps.of_read.andThen fun site => ?_
      refine (onBooks_keeps (Books.requireFound_keeps setup area ptr _)).andThen fun _ => ?_
      refine (Act.Keeps.of_log rfl).andThen fun _ => ?_
      exact .of_pure trivial

omit [Backend β] in
theorem abandonFree_keeps (ticket : Nat) {fault : Fault} (calm : fault.isAlarm = false) :
    Act.Keeps AreSound (fun _ => True) (abandonFree ticket fault : Act (Site β) Bool) := by
  have idle : Act.Keeps Books.AreSound (fun _ => True) (pure () : Act Books Unit) :=
    .of_pure trivial
  refine (Act.Keeps.of_log rfl).andThen fun _ => ?_
  refine (onBooks_keeps (Books.inTurn_keeps ticket idle)).andThen fun _ => ?_
  exact .of_fail calm

theorem deallocate_keeps (setup : Setup) (addr : Addr) (bytes : Size) (space : Space) :
    Act.Keeps AreSound (fun _ => True) (deallocate setup addr bytes space : Act (Site β) Bool) := by
  unfold deallocate
  cases deallocationTarget addr space with
  | error reason =>
    refine (onBooks_keeps (Books.refuse_keeps _ setup reason)).andThen fun _ => ?_
    exact .of_pure trivial
  | ok target =>
    obtain ⟨ptr, area⟩ := target
    refine (onBooks_keeps (Books.lookUp_keeps setup area ptr bytes)).andThen fun known => ?_
    cases known with
    | none => exact .of_pure trivial
    | some registered =>
      refine (onBooks_keeps Books.draw_keeps).andThen fun ticket => ?_
      -- A free that breaks off is caught, to pass the turn on, and breaks the call off after that.
      refine (ask_keeps _ _ _).attempt.bind fun freed endsWell => ?_
      cases freed with
      | error fault => exact abandonFree_keeps ticket endsWell
      | ok freed =>
        refine (onBooks_keeps (Books.settleFree_keeps freed)).andThen fun _ => ?_
        refine (onBooks_keeps
          (Books.inTurn_keeps ticket (Books.deregister_keeps setup area addr))).andThen fun _ => ?_
        refine (Act.Keeps.of_log rfl).andThen fun _ => ?_
        exact .of_pure trivial

theorem transfer_keeps (transfer : Transfer) :
    Act.Keeps AreSound (fun _ => True) (Site.transfer transfer : Act (Site β) Bool) := by
  refine (ask_keeps _ _ _).andThen fun answered => ?_
  cases answered with
  | ok value => exact .of_pure trivial
  | error failure =>
    refine (onBooks_keeps (Books.failed_keeps _ .copy failure)).andThen fun _ => ?_
    exact .of_pure trivial

theorem copy_keeps (setup : Setup) (request : CopyRequest) :
    Act.Keeps AreSound (fun _ => True) (copy setup request : Act (Site β) Bool) := by
  refine .ite (fun _ => .of_pure trivial) fun _ => ?_
  cases request.transfer? with
  | none =>
    refine (onBooks_keeps (Books.refuse_keeps _ setup _)).andThen fun _ => ?_
    exact .of_pure trivial
  | some transfer =>
    refine Act.Keeps.of_read.andThen fun site => ?_
    dsimp only
    cases if request.outside then none else site.books.uncovered? transfer with
    | none => exact transfer_keeps transfer
    | some side =>
      refine (onBooks_keeps (Books.refuse_keeps _ setup _)).andThen fun _ => ?_
      exact .of_pure trivial

/-- No command breaks the balance, whatever the backend answers. -/
theorem run_keeps (setup : Setup) (command : Command) :
    Act.Keeps AreSound command.Admits (run setup command : Act (Site β) Answer) := by
  cases command with
  | allocate bytes space =>
    refine (allocate_keeps setup bytes space).andThen fun _ => ?_
    exact .of_pure trivial
  | deallocate addr bytes space =>
    refine (deallocate_keeps setup addr bytes space).andThen fun _ => ?_
    exact .of_pure trivial
  | copy request =>
    refine (copy_keeps setup request).andThen fun _ => ?_
    exact .of_pure trivial
  | query query => exact onBooks_keeps (Books.query_keeps setup query)

theorem releaseAt_keeps (area : Area) (ptr : Ptr) (bytes : Size) :
    Act.Keeps AreSound (fun _ => True) (releaseAt area ptr bytes : Act (Site β) Unit) := by
  refine (ask_keeps _ _ _).andThen fun answered => ?_
  cases answered with
  | ok value => exact .of_pure trivial
  | error failure => exact .of_log rfl

theorem releaseBlock_keeps (setup : Setup) (area : Area) (block : Block) :
    Act.Keeps AreSound (fun _ => True) (releaseBlock setup area block : Act (Site β) Unit) := by
  have dropped : Act.Keeps AreSound (fun _ => True) (do
      let _ ← onBooks (Books.deregister setup area block.start) : Act (Site β) Unit) := by
    refine (onBooks_keeps (Books.deregister_keeps setup area block.start)).andThen fun _ => ?_
    exact .of_pure trivial
  unfold releaseBlock
  cases Ptr.ofAddr? block.start with
  | none => exact dropped
  | some ptr => exact (releaseAt_keeps area ptr block.size).andThen fun _ => dropped

theorem releaseBlocks_keeps (setup : Setup) (area : Area) (blocks : List Block) :
    Act.Keeps AreSound (fun _ => True) (releaseBlocks setup area blocks : Act (Site β) Unit) := by
  induction blocks with
  | nil => exact .of_pure trivial
  | cons block rest ih => exact (releaseBlock_keeps setup area block).andThen fun _ => ih

theorem releaseAreas_keeps (setup : Setup) (areas : List Area) :
    Act.Keeps AreSound (fun _ => True) (releaseAreas setup areas : Act (Site β) Unit) := by
  induction areas with
  | nil => exact .of_pure trivial
  | cons area rest ih =>
    refine Act.Keeps.of_read.andThen fun site => ?_
    exact (releaseBlocks_keeps setup area _).andThen fun _ => ih

/-- Nor does the end of a manager, even if it is cut short. -/
theorem teardown_keeps (setup : Setup) :
    Act.Keeps AreSound (fun _ => True) (teardown setup : Act (Site β) Unit) := by
  have reported : Act.Keeps Books.AreSound (fun _ => True) (Books.reportLeaks setup) :=
    Act.Keeps.of_read.andThen fun _ => .ite (fun _ => .of_log rfl) fun _ => .of_pure trivial
  refine (onBooks_keeps reported).andThen fun _ => .ite (fun _ => ?_) fun _ => .of_pure trivial
  exact releaseAreas_keeps setup Area.all

end Site

end TrackedMemory
