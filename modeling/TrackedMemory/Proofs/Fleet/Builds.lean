import TrackedMemory.Proofs.Fleet.Courses

/-!
# Builds go through the same states

The same run of the same managers, once in a checked build and once in an unchecked one. A contract
that breaks a checked build off does so where it leaves what an unchecked build leaves, so the books
of all managers, the backend and the backend calls are the same after every step, and runs that go
on after a break-off stay together. What a step answers and logs differs only where the checked
build breaks off over a contract or over a sum that does not fit.
-/

namespace TrackedMemory

/-- Whether only a checked build breaks off for this reason. -/
def Fault.isChecked : Fault → Bool
  | .violated _ | .overflow => true
  | .raised _ | .stalled => false

/-- What an action comes to in a checked build and in an unchecked build: the states correspond, the
backend calls are the same, and so are result and trace, unless the checked build breaks off for a
reason of its own. -/
structure Outcome.Agrees {σ α : Type} (mirror : σ → σ) (checked unchecked : Outcome σ α) :
    Prop where
  state : unchecked.state = mirror checked.state
  calls : unchecked.trace.calls = checked.trace.calls
  shown : (∀ fault, checked.result = .error fault → fault.isChecked = false) →
    unchecked.result = checked.result ∧ unchecked.trace = checked.trace

namespace Outcome

variable {σ τ α γ : Type} {mirror : σ → σ} {checked unchecked : Outcome σ α}

theorem Agrees.refl (outcome : Outcome σ α) : outcome.Agrees id outcome :=
  ⟨rfl, rfl, fun _ => ⟨rfl, rfl⟩⟩

/-- Actions stay in agreement that do the same before, whatever becomes of values and states. -/
theorem Agrees.carry (agrees : checked.Agrees mirror unchecked) {reflect : τ → τ} (wrap : α → γ)
    (before : Trace) {state other : τ} (same : other = reflect state) :
    Agrees reflect ⟨checked.result.map wrap, state, before ++ checked.trace⟩
      ⟨unchecked.result.map wrap, other, before ++ unchecked.trace⟩ where
  state := same
  calls := by rw [Trace.calls_append, Trace.calls_append, agrees.calls]
  shown calm := by
    have kept : ∀ fault, checked.result = .error fault → fault.isChecked = false :=
      fun fault broke => calm fault (by rw [broke]; rfl)
    obtain ⟨result, trace⟩ := agrees.shown kept
    exact ⟨congrArg (Except.map wrap) result, congrArg (before ++ ·) trace⟩

end Outcome

/-! ## Queries -/

theorem Books.query_agrees (config : Config) (query : Query) (books : Books) :
    (Books.query ⟨.checked, config⟩ query books).Agrees id
      (Books.query ⟨.unchecked, config⟩ query books) := by
  cases query with
  | totalLiveBytes =>
    simp only [Books.query, Act.read_bind_apply]
    cases sum : books.statistics.totalLiveBytes? .checked with
    | some total =>
      rw [Statistics.totalLiveBytes?_unchecked sum]
      exact .refl _
    | none =>
      refine ⟨rfl, rfl, fun calm => ?_⟩
      cases calm .overflow rfl
  | _ => exact .refl _

/-! ## Commands -/

namespace Site

variable {β : Type} [Backend β] {site : Site β} {setup : Setup} {config : Config}

theorem run_of_eq {command : Command} {α : Type} {act : Act (Site β) α} {wrap : α → Answer}
    {outcome : Outcome (Site β) α} (wrapped : run setup command = do return wrap (← act))
    (done : act site = outcome) :
    run setup command site = ⟨outcome.result.map wrap, outcome.state, outcome.trace⟩ := by
  rw [wrapped, Act.map_apply, done]

/-- A command comes out in one way only. -/
theorem Runs.run_eq {command : Command} {outcome : Outcome (Site β) Answer}
    (runs : Runs setup site command outcome) (settled : site.books.IsSettled) :
    run setup command site = outcome := by
  cases runs with
  | allocateRefused remark refused => exact run_of_eq rfl (allocate_refused refused)
  | allocateFailed area failure backend positive answered =>
    exact run_of_eq rfl (allocate_failed (allocationArea_eq_ok_iff.2 ⟨positive, rfl⟩) answered)
  | allocateRaised area reason backend positive answered =>
    exact run_of_eq rfl (allocate_raised (allocationArea_eq_ok_iff.2 ⟨positive, rfl⟩) answered)
  | allocateGranted area ptr backend positive answered =>
    exact run_of_eq rfl
      (allocate_granted settled (allocationArea_eq_ok_iff.2 ⟨positive, rfl⟩) answered)
  | deallocateRefused remark refused => exact run_of_eq rfl (deallocate_refused refused)
  | deallocateUnknown area ptr absent => exact run_of_eq rfl (deallocate_unknown absent)
  | deallocateFreed area ptr registered backend member answered =>
    exact run_of_eq rfl (deallocate_freed settled member answered)
  | deallocateFailed area ptr registered failure backend member answered =>
    exact run_of_eq rfl (deallocate_failed settled member answered)
  | deallocateRaised area ptr registered reason backend member answered =>
    exact run_of_eq rfl (deallocate_raised settled member answered)
  | copyNothing nothing => exact run_of_eq rfl (copy_nothing nothing)
  | copyRefused remark positive refused => exact run_of_eq rfl (copy_refused positive refused)
  | copyGranted transfer backend positive accepted answered =>
    exact run_of_eq rfl (copy_granted positive accepted answered)
  | copyFailed transfer failure backend positive accepted answered =>
    exact run_of_eq rfl (copy_failed positive accepted answered)
  | copyRaised transfer reason backend positive accepted answered =>
    exact run_of_eq rfl (copy_raised positive accepted answered)
  | query query => simp only [run, onBooks, Act.within_apply, Books.query_state]

omit [Backend β] in
/-- A block that the backend hands out: where a checked build breaks off over it, an unchecked one
has registered it, or left it out, likewise. -/
theorem granted_agrees (config : Config) (area : Area) (ptr : Ptr) (bytes : Size)
    (site : Site β) :
    Outcome.Agrees id
      ⟨granted ⟨.checked, config⟩ site.books area ptr bytes, site,
        grantedTrace ⟨.checked, config⟩ site.books area ptr bytes⟩
      ⟨granted ⟨.unchecked, config⟩ site.books area ptr bytes, site,
        grantedTrace ⟨.unchecked, config⟩ site.books area ptr bytes⟩ where
  state := rfl
  calls := by simp only [Trace.calls_grantedTrace]
  shown calm := by
    cases breach : site.books.registries.breach? area ptr bytes with
    | none => simp only [granted, grantedTrace, breach, and_self]
    | some violation =>
      have broke : granted ⟨.checked, config⟩ site.books area ptr bytes =
          .error (.violated violation) := by simp only [granted, breach]
      cases calm _ broke

/-- Each way in which a command comes out in a checked build has its counterpart. -/
theorem Runs.counterpart {command : Command} {outcome : Outcome (Site β) Answer}
    (runs : Runs ⟨.checked, config⟩ site command outcome) :
    ∃ other, Runs ⟨.unchecked, config⟩ site command other ∧ outcome.Agrees id other := by
  cases runs with
  | allocateRefused remark refused => exact ⟨_, .allocateRefused remark refused, .refl _⟩
  | allocateFailed area failure backend positive answered =>
    exact ⟨_, .allocateFailed area failure backend positive answered, .refl _⟩
  | allocateRaised area reason backend positive answered =>
    exact ⟨_, .allocateRaised area reason backend positive answered, .refl _⟩
  | allocateGranted area ptr backend positive answered =>
    exact ⟨_, .allocateGranted area ptr backend positive answered,
      (granted_agrees config area ptr _ site).carry Answer.block [_] rfl⟩
  | deallocateRefused remark refused => exact ⟨_, .deallocateRefused remark refused, .refl _⟩
  | deallocateUnknown area ptr absent => exact ⟨_, .deallocateUnknown area ptr absent, .refl _⟩
  | deallocateFreed area ptr registered backend member answered =>
    exact ⟨_, .deallocateFreed area ptr registered backend member answered, .refl _⟩
  | deallocateFailed area ptr registered failure backend member answered =>
    exact ⟨_, .deallocateFailed area ptr registered failure backend member answered, .refl _⟩
  | deallocateRaised area ptr registered reason backend member answered =>
    exact ⟨_, .deallocateRaised area ptr registered reason backend member answered, .refl _⟩
  | copyNothing nothing => exact ⟨_, .copyNothing nothing, .refl _⟩
  | copyRefused remark positive refused =>
    exact ⟨_, .copyRefused remark positive refused, .refl _⟩
  | copyGranted transfer backend positive accepted answered =>
    exact ⟨_, .copyGranted transfer backend positive accepted answered, .refl _⟩
  | copyFailed transfer failure backend positive accepted answered =>
    exact ⟨_, .copyFailed transfer failure backend positive accepted answered, .refl _⟩
  | copyRaised transfer reason backend positive accepted answered =>
    exact ⟨_, .copyRaised transfer reason backend positive accepted answered, .refl _⟩
  | query query =>
    have agrees := Books.query_agrees config query site.books
    exact ⟨_, .query query, rfl, agrees.calls, agrees.shown⟩

theorem run_agrees (settled : site.books.IsSettled) (config : Config) (command : Command) :
    (run ⟨.checked, config⟩ command site).Agrees id (run ⟨.unchecked, config⟩ command site) := by
  obtain ⟨other, runs, agrees⟩ := (Site.runs settled command).counterpart
  rwa [runs.run_eq settled]

/-! ## The end of a manager -/

variable {area : Area} {first second : Setup}

theorem releaseBlocks_eq (settled : site.books.IsSettled) {blocks : List Block}
    (listed : (site.books.registries.get area).blocks = blocks) :
    releaseBlocks first area blocks site = releaseBlocks second area blocks site := by
  induction blocks generalizing site with
  | nil => rfl
  | cons block rest ih =>
    obtain ⟨start, bytes⟩ := block
    have inside : ⟨start, bytes⟩ ∈ (site.books.registries.get area).blocks := by simp [listed]
    obtain ⟨ptr, rfl⟩ : ∃ ptr : Ptr, ptr.addr = start :=
      ⟨⟨start, (settled.genuine area _ inside).1⟩, rfl⟩
    have goesOn : ∀ backend : β,
        releaseBlocks first area rest (site.release area ptr backend) =
          releaseBlocks second area rest (site.release area ptr backend) := fun backend =>
      ih (isSettled_release settled area ptr backend) (blocks_release settled listed backend)
    rw [releaseBlocks, releaseBlocks]
    cases answered : Backend.free area.space ptr bytes site.backend with
    | mk reply backend =>
      cases reply with
      | granted value =>
        rw [Act.bind_of_ok (releaseBlock_freed settled inside answered),
          Act.bind_of_ok (releaseBlock_freed settled inside answered), goesOn]
      | refused failure =>
        rw [Act.bind_of_ok (releaseBlock_failed settled inside answered),
          Act.bind_of_ok (releaseBlock_failed settled inside answered), goesOn]
      | raised reason =>
        rw [Act.bind_of_error (releaseBlock_raised answered),
          Act.bind_of_error (releaseBlock_raised answered)]

theorem releaseAreas_eq (settled : site.books.IsSettled) (areas : List Area) :
    releaseAreas first areas site = releaseAreas second areas site := by
  induction areas generalizing site with
  | nil => rfl
  | cons area rest ih =>
    have same : releaseBlocks first area (site.books.registries.get area).blocks site =
        releaseBlocks second area (site.books.registries.get area).blocks site :=
      releaseBlocks_eq settled rfl
    have left : (releaseBlocks first area (site.books.registries.get area).blocks
        site).state.books.IsSettled := (releaseBlocks_releases settled rfl).settled
    rw [releaseAreas, releaseAreas, Act.read_bind_apply, Act.read_bind_apply]
    cases result : (releaseBlocks first area (site.books.registries.get area).blocks
        site).result with
    | error fault =>
      rw [Act.bind_apply_error result, Act.bind_apply_error (same ▸ result), same]
    | ok value =>
      rw [Act.bind_apply_ok result, Act.bind_apply_ok (same ▸ result), ← same, ih left]

theorem teardown_eq (settled : site.books.IsSettled) (config : Config) :
    teardown ⟨.checked, config⟩ site = teardown ⟨.unchecked, config⟩ site := by
  rw [teardown, teardown, Act.bind_of_ok (reportLeaks_apply _ site),
    Act.bind_of_ok (reportLeaks_apply _ site)]
  refine congrArg (Outcome.behind · (leakTrace ⟨.checked, config⟩ site.books.registries)) ?_
  cases config.releaseBlocks with
  | false => rfl
  | true => exact releaseAreas_eq settled Area.all

end Site

/-! ## Runs -/

def Member.rebuild (build : Build) (member : Member) : Member :=
  { member with setup := ⟨build, member.setup.config⟩ }

namespace Fleet

variable {β : Type} {fleet : Fleet β} {index : Nat}

/-- The same managers in a build: their books and the backend are as they are. -/
def rebuild (build : Build) (fleet : Fleet β) : Fleet β :=
  { fleet with members := fleet.members.map (Member.rebuild build) }

def launchIn (build : Build) (configs : List Config) (backend : β) : Fleet β :=
  launch (configs.map (Setup.mk build)) backend

def IsBuilt (build : Build) (fleet : Fleet β) : Prop :=
  ∀ member ∈ fleet.members, member.setup.build = build

theorem isBuilt_launchIn (build : Build) (configs : List Config) (backend : β) :
    (launchIn build configs backend).IsBuilt build := by
  intro member inside
  obtain ⟨setup, there, rfl⟩ := List.mem_map.1 inside
  obtain ⟨config, -, rfl⟩ := List.mem_map.1 there
  rfl

theorem rebuild_launchIn (build other : Build) (configs : List Config) (backend : β) :
    (launchIn build configs backend).rebuild other = launchIn other configs backend := by
  simp [launchIn, launch, rebuild, Member.rebuild, Function.comp_def]

theorem books_rebuild (build : Build) (fleet : Fleet β) :
    (fleet.rebuild build).members.map Member.books = fleet.members.map Member.books := by
  simp [rebuild, Member.rebuild, Function.comp_def]

theorem active?_rebuild (build : Build) (fleet : Fleet β) (index : Nat) :
    (fleet.rebuild build).active? index = (fleet.active? index).map (Member.rebuild build) := by
  simp only [active?, rebuild, List.getElem?_map, Option.filter_map]
  rfl

theorem IsBuilt.of_active {build : Build} {member : Member} (built : fleet.IsBuilt build)
    (active : fleet.active? index = some member) : member.setup.build = build :=
  built member (List.mem_of_getElem? (active?_eq_some_iff.1 active).1)

theorem IsBuilt.set {build : Build} (built : fleet.IsBuilt build) (index : Nat) (member : Member)
    (own : member.setup.build = build) (backend : β) :
    IsBuilt build (⟨fleet.members.set index member, backend⟩ : Fleet β) :=
  forall_mem_set built own index

variable [Backend β]

theorem IsBuilt.perform {build : Build} (built : fleet.IsBuilt build) (step : Step β) :
    (fleet.perform step).state.IsBuilt build := by
  have done := fleet.performs step
  generalize fleet.perform step = outcome at done ⊢
  cases done with
  | idle | adjust => exact built
  | command index member command outcome active done =>
    have owned := built.of_active active
    exact built.set index { member with books := outcome.state.books } owned _
  | drop index member outcome active done =>
    have owned := built.of_active active
    exact built.set index { member with books := outcome.state.books, dropped := true } owned _

omit [Backend β] in
theorem active?_counterpart {member : Member} (built : fleet.IsBuilt .checked)
    (active : fleet.active? index = some member) :
    ∃ config, member.setup = ⟨.checked, config⟩ ∧
      (fleet.rebuild .unchecked).active? index =
        some { member with setup := ⟨.unchecked, config⟩ } := by
  have own := built.of_active active
  refine ⟨member.setup.config, ?_, ?_⟩
  · rw [← own]
  · rw [active?_rebuild, active]
    rfl

theorem perform_agrees (settled : fleet.IsSettled) (built : fleet.IsBuilt .checked)
    (step : Step β) :
    (fleet.perform step).Agrees (rebuild .unchecked) ((fleet.rebuild .unchecked).perform step) := by
  have absent : ∀ {index}, fleet.active? index = none →
      (fleet.rebuild .unchecked).active? index = none := fun missing => by
    rw [active?_rebuild, missing]
    rfl
  cases step with
  | adjust change => exact ⟨rfl, rfl, fun _ => ⟨rfl, rfl⟩⟩
  | command index command =>
    cases active : fleet.active? index with
    | none =>
      simp only [perform, run?, onMember, active, absent active, Option.map_none]
      exact ⟨rfl, rfl, fun _ => ⟨rfl, rfl⟩⟩
    | some member =>
      obtain ⟨config, same, other⟩ := active?_counterpart built active
      have own : Books.IsSettled (Site.mk member.books fleet.backend).books :=
        settled.of_active active
      have agrees := Site.run_agrees own config command
      rw [perform_command active, perform_command other, same]
      refine agrees.carry some [] ?_
      simp [rebuild, Member.rebuild, List.map_set, agrees.state]
  | drop index =>
    cases active : fleet.active? index with
    | none =>
      simp only [perform, drop?, onMember, active, absent active, Option.map_none]
      exact ⟨rfl, rfl, fun _ => ⟨rfl, rfl⟩⟩
    | some member =>
      obtain ⟨config, same, other⟩ := active?_counterpart built active
      have own : Books.IsSettled (Site.mk member.books fleet.backend).books :=
        settled.of_active active
      have ends := Site.teardown_eq own config
      rw [perform_drop active, perform_drop other, same, ends]
      refine (Outcome.Agrees.refl _).carry (fun _ => none) [] ?_
      simp [rebuild, Member.rebuild, List.map_set]

/-- Both builds stay together over a run, and make the same backend calls. -/
theorem after_rebuild (settled : fleet.IsSettled) (built : fleet.IsBuilt .checked)
    (steps : List (Step β)) :
    (fleet.rebuild .unchecked).after steps = (fleet.after steps).rebuild .unchecked ∧
      (fleet.rebuild .unchecked).history steps = fleet.history steps ∧
      (fleet.after steps).IsBuilt .checked := by
  induction steps generalizing fleet with
  | nil => exact ⟨rfl, rfl, built⟩
  | cons step rest ih =>
    have agrees := perform_agrees settled built step
    obtain ⟨same, calls, still⟩ := ih (settled.perform step) (built.perform step)
    have made : step.entries ((fleet.rebuild .unchecked).perform step).trace =
        step.entries (fleet.perform step).trace := by
      cases step <;> simp only [Step.entries, agrees.calls]
    refine ⟨?_, ?_, still⟩
    · rw [after_cons, after_cons, agrees.state, same]
    · rw [history, history, agrees.state, calls, made]

/-- The same run of the same managers in both builds: after any steps, those that break off
included, every manager has the same books in both, the backend is the same and was called alike;
and the next step answers and logs the same in both, unless the checked build breaks off over a
contract or an overflow. -/
theorem builds_agree (configs : List Config) (backend : β) (steps : List (Step β))
    (step : Step β) :
    let checked := (launchIn .checked configs backend).after steps
    let unchecked := (launchIn .unchecked configs backend).after steps
    unchecked = checked.rebuild .unchecked ∧
      unchecked.members.map Member.books = checked.members.map Member.books ∧
      (launchIn .unchecked configs backend).history steps =
        (launchIn .checked configs backend).history steps ∧
      (checked.perform step).Agrees (rebuild .unchecked) (unchecked.perform step) := by
  intro checked unchecked
  have settled : (launchIn .checked configs backend).IsSettled := isSettled_launch _ _
  obtain ⟨same, calls, built⟩ :=
    after_rebuild settled (isBuilt_launchIn .checked configs backend) steps
  rw [rebuild_launchIn] at same calls
  have mirrored : unchecked = checked.rebuild .unchecked := same
  refine ⟨mirrored, ?_, calls, ?_⟩
  · rw [mirrored, books_rebuild]
  · rw [mirrored]
    exact perform_agrees (settled.after steps) built step

end Fleet

end TrackedMemory
