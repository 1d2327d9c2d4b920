import TrackedMemory.Backend.Scripted
import TrackedMemory.Proofs.Fleet.Builds
import TrackedMemory.Proofs.Manager.Tallies

/-!
# Diagnostics only add warnings

Three of the settings of a manager are diagnostics: whether its registries are verified around every
change, whether it remarks on the calls that it turns down, and whether it reports its leaks when it
ends. Two runs of the same commands over the same backend that differ in these settings go through
the same states, make the same backend calls and come to the same results. What they log differs in
warnings at most, and a manager that neither remarks nor reports logs no warning.
-/

namespace TrackedMemory

/-- Whether an effect is a log line that warns. -/
def Deed.isWarning : Deed → Bool
  | .logged event => event.level = .warn
  | .called .. => false

namespace Trace

def warnings (trace : Trace) : Trace :=
  trace.filter Deed.isWarning

def unwarned (trace : Trace) : Trace :=
  trace.filter fun deed => !deed.isWarning

@[simp] theorem warnings_append (first second : Trace) :
    Trace.warnings (first ++ second) = first.warnings ++ second.warnings :=
  List.filter_append ..

@[simp] theorem unwarned_append (first second : Trace) :
    Trace.unwarned (first ++ second) = first.unwarned ++ second.unwarned :=
  List.filter_append ..

theorem calls_unwarned (trace : Trace) : trace.unwarned.calls = trace.calls := by
  induction trace with
  | nil => rfl
  | cons deed rest ih =>
    cases deed with
    | called request reply => exact congrArg ((request, reply) :: ·) ih
    | logged event =>
      by_cases warning : event.level = .warn
      · simpa [unwarned, Deed.isWarning, warning] using ih
      · simpa [unwarned, Deed.isWarning, warning] using ih

@[simp] theorem unwarned_remarks (setup : Setup) (reason : Remark) :
    Trace.unwarned (Books.remarks setup reason) = [] := by
  unfold Books.remarks
  split <;> rfl

@[simp] theorem unwarned_correction (setup : Setup) (addr : Addr) (registered given : Size) :
    Trace.unwarned (Site.correction setup addr registered given) = [] := by
  unfold Site.correction
  split
  · rfl
  · exact unwarned_remarks setup _

@[simp] theorem unwarned_leakTrace (setup : Setup) (registries : Registries) :
    Trace.unwarned (Site.leakTrace setup registries) = [] := by
  unfold Site.leakTrace
  split <;> rfl

end Trace

/-- What two settings make of the same action: state, backend calls and log lines are the same but
for warnings, and so are the results if they are to be compared. -/
structure Outcome.Alike {σ α : Type} (compared : Prop) (first second : Outcome σ α) : Prop where
  result : compared → second.result = first.result
  state : second.state = first.state
  calls : second.trace.calls = first.trace.calls
  unwarned : second.trace.unwarned = first.trace.unwarned

namespace Outcome

variable {σ α : Type} {compared : Prop} {outcome : Outcome σ α}

theorem Alike.refl (outcome : Outcome σ α) : outcome.Alike compared outcome :=
  ⟨fun _ => rfl, rfl, rfl, rfl⟩

/-- Outcomes with the same state whose traces differ in warnings only. -/
theorem Alike.of_unwarned {result other : Except Fault α} {state : σ} {trace rest : Trace}
    (told : compared → other = result) (same : rest.unwarned = trace.unwarned) :
    Alike compared ⟨result, state, trace⟩ ⟨other, state, rest⟩ :=
  ⟨told, rfl, by rw [← Trace.calls_unwarned, same, Trace.calls_unwarned], same⟩

end Outcome

/-! ## Commands -/

namespace Books

variable {books : Books} {setup : Setup}

theorem query_trace (setup : Setup) (query : Query) (books : Books) :
    (Books.query setup query books).trace = [] ∨
      ∃ reason, (Books.query setup query books).trace = remarks setup reason := by
  cases query with
  | sizeOf addr =>
    simp only [Books.query, Act.read_bind_apply, answerSize_apply]
    split
    · exact .inr ⟨.sizeUnknown addr, rfl⟩
    · exact .inl rfl
  | allocationCount space =>
    simp only [Books.query, Act.read_bind_apply, answerCount_apply]
    split
    · exact .inr ⟨.unsupportedSpace .allocationCount space, rfl⟩
    · exact .inl rfl
  | deallocationCount space =>
    simp only [Books.query, Act.read_bind_apply, answerCount_apply]
    split
    · exact .inr ⟨.unsupportedSpace .deallocationCount space, rfl⟩
    · exact .inl rfl
  | totalLiveBytes =>
    simp only [Books.query, Act.read_bind_apply]
    cases books.statistics.totalLiveBytes? setup.build <;> exact .inl rfl
  | _ => exact .inl rfl

@[simp] theorem unwarned_query (setup : Setup) (query : Query) (books : Books) :
    (Books.query setup query books).trace.unwarned = [] := by
  rcases query_trace setup query books with nothing | ⟨reason, remarked⟩
  · rw [nothing]
    rfl
  · rw [remarked, Trace.unwarned_remarks]

theorem query_result (build : Build) (first second : Config) {query : Query}
    (other : query ≠ .config) :
    (Books.query ⟨build, second⟩ query books).result =
      (Books.query ⟨build, first⟩ query books).result := by
  cases query with
  | config => exact absurd rfl other
  | sizeOf addr => simp only [Books.query, Act.read_bind_apply, answerSize_apply]
  | allocationCount space => simp only [Books.query, Act.read_bind_apply, answerCount_apply]
  | deallocationCount space => simp only [Books.query, Act.read_bind_apply, answerCount_apply]
  | totalLiveBytes => simp only [Books.query, Act.read_bind_apply]
  | _ => rfl

theorem remarks_silent (silent : setup.config.logRejections = false) (reason : Remark) :
    remarks setup reason = [] := by
  simp [remarks, silent]

theorem query_silent (silent : setup.config.logRejections = false) (query : Query) :
    (Books.query setup query books).trace = [] := by
  rcases query_trace setup query books with nothing | ⟨reason, remarked⟩
  · exact nothing
  · rw [remarked, remarks_silent silent]

end Books

namespace Site

variable {β : Type} [Backend β] {site : Site β} {setup : Setup} {build : Build}
  {first second : Config} {command : Command} {outcome : Outcome (Site β) Answer}

/-- Each way in which a command comes out under some settings has its counterpart under others of
the same build. -/
theorem Runs.reconfigured (runs : Runs ⟨build, first⟩ site command outcome) (second : Config) :
    ∃ other, Runs ⟨build, second⟩ site command other ∧
      outcome.Alike (command ≠ .query .config) other := by
  cases runs with
  | allocateRefused remark refused =>
    exact ⟨_, .allocateRefused remark refused, .of_unwarned (fun _ => rfl) (by simp)⟩
  | allocateFailed area failure backend positive answered =>
    exact ⟨_, .allocateFailed area failure backend positive answered, .refl _⟩
  | allocateRaised area reason backend positive answered =>
    exact ⟨_, .allocateRaised area reason backend positive answered, .refl _⟩
  | allocateGranted area ptr backend positive answered =>
    exact ⟨_, .allocateGranted area ptr backend positive answered, .refl _⟩
  | deallocateRefused remark refused =>
    exact ⟨_, .deallocateRefused remark refused, .of_unwarned (fun _ => rfl) (by simp)⟩
  | deallocateUnknown area ptr absent =>
    exact ⟨_, .deallocateUnknown area ptr absent, .of_unwarned (fun _ => rfl) (by simp)⟩
  | deallocateFreed area ptr registered backend member answered =>
    exact ⟨_, .deallocateFreed area ptr registered backend member answered,
      .of_unwarned (fun _ => rfl) (by simp)⟩
  | deallocateFailed area ptr registered failure backend member answered =>
    exact ⟨_, .deallocateFailed area ptr registered failure backend member answered,
      .of_unwarned (fun _ => rfl) (by simp)⟩
  | deallocateRaised area ptr registered reason backend member answered =>
    exact ⟨_, .deallocateRaised area ptr registered reason backend member answered,
      .of_unwarned (fun _ => rfl) (by simp)⟩
  | copyNothing nothing => exact ⟨_, .copyNothing nothing, .refl _⟩
  | copyRefused remark positive refused =>
    exact ⟨_, .copyRefused remark positive refused, .of_unwarned (fun _ => rfl) (by simp)⟩
  | copyGranted transfer backend positive accepted answered =>
    exact ⟨_, .copyGranted transfer backend positive accepted answered, .refl _⟩
  | copyFailed transfer failure backend positive accepted answered =>
    exact ⟨_, .copyFailed transfer failure backend positive accepted answered, .refl _⟩
  | copyRaised transfer reason backend positive accepted answered =>
    exact ⟨_, .copyRaised transfer reason backend positive accepted answered, .refl _⟩
  | query query =>
    refine ⟨_, .query query, .of_unwarned (fun other => ?_) (by simp)⟩
    exact Books.query_result build first second fun same => other (congrArg Command.query same)

theorem run_alike (settled : site.books.IsSettled) (build : Build) (first second : Config)
    (command : Command) :
    (run ⟨build, first⟩ command site).Alike (command ≠ .query .config)
      (run ⟨build, second⟩ command site) := by
  obtain ⟨other, runs, alike⟩ := (Site.runs settled command).reconfigured second
  rwa [runs.run_eq settled]

omit [Backend β] in
theorem warnings_grantedTrace (setup : Setup) (books : Books) (area : Area) (ptr : Ptr)
    (bytes : Size) : (grantedTrace setup books area ptr bytes).warnings = [] := by
  unfold grantedTrace
  split
  · rfl
  · split <;> rfl

theorem Runs.warnings (runs : Runs setup site command outcome)
    (silent : setup.config.logRejections = false) : outcome.trace.warnings = [] := by
  have remarks := Books.remarks_silent silent
  cases runs with
  | allocateRefused | deallocateRefused | deallocateUnknown | copyRefused =>
    simp [remarks, Trace.warnings]
  | allocateGranted area ptr backend positive answered =>
    exact warnings_grantedTrace setup site.books area ptr _
  | deallocateFreed | deallocateFailed | deallocateRaised =>
    simp [correction, remarks, Trace.warnings, Deed.isWarning, Event.level]
  | query query => simp [Books.query_silent silent, Trace.warnings]
  | allocateFailed | allocateRaised | copyNothing | copyGranted | copyFailed | copyRaised => rfl

/-! ## The end of a manager -/

variable {area : Area}

theorem releaseBlocks_warnings (settled : site.books.IsSettled) {blocks : List Block}
    (listed : (site.books.registries.get area).blocks = blocks) :
    (releaseBlocks setup area blocks site).trace.warnings = [] := by
  induction blocks generalizing site with
  | nil => rfl
  | cons block rest ih =>
    obtain ⟨start, bytes⟩ := block
    have inside : ⟨start, bytes⟩ ∈ (site.books.registries.get area).blocks := by simp [listed]
    obtain ⟨ptr, rfl⟩ : ∃ ptr : Ptr, ptr.addr = start :=
      ⟨⟨start, (settled.genuine area _ inside).1⟩, rfl⟩
    have later : ∀ backend : β,
        (releaseBlocks setup area rest (site.release area ptr backend)).trace.warnings = [] :=
      fun backend =>
        ih (isSettled_release settled area ptr backend) (blocks_release settled listed backend)
    rw [releaseBlocks]
    cases answered : Backend.free area.space ptr bytes site.backend with
    | mk reply backend =>
      cases reply with
      | granted value =>
        rw [Act.bind_of_ok (releaseBlock_freed settled inside answered)]
        exact later backend
      | refused failure =>
        rw [Act.bind_of_ok (releaseBlock_failed settled inside answered)]
        exact later backend
      | raised reason =>
        rw [Act.bind_of_error (releaseBlock_raised answered)]
        rfl

theorem releaseAreas_warnings (settled : site.books.IsSettled) (areas : List Area) :
    (releaseAreas setup areas site).trace.warnings = [] := by
  induction areas generalizing site with
  | nil => rfl
  | cons area rest ih =>
    have own : (releaseBlocks setup area (site.books.registries.get area).blocks
        site).trace.warnings = [] := releaseBlocks_warnings settled rfl
    have left : (releaseBlocks setup area (site.books.registries.get area).blocks
        site).state.books.IsSettled := (releaseBlocks_releases settled rfl).settled
    rw [releaseAreas, Act.read_bind_apply]
    cases result : (releaseBlocks setup area (site.books.registries.get area).blocks
        site).result with
    | error fault =>
      rw [Act.bind_apply_error result]
      exact own
    | ok value =>
      rw [Act.bind_apply_ok result, Trace.warnings_append, own, ih left]
      rfl

/-- The end of a manager is the report of its leaks, and then the release of its blocks. -/
theorem teardown_apply (setup : Setup) (site : Site β) :
    teardown setup site =
      ((if setup.config.releaseBlocks then releaseAreas setup Area.all else pure ()) site).behind
        (leakTrace setup site.books.registries) :=
  Act.bind_of_ok (reportLeaks_apply setup site) _

theorem teardown_alike (settled : site.books.IsSettled) (build : Build)
    (same : first.releaseBlocks = second.releaseBlocks) :
    (teardown ⟨build, first⟩ site).Alike True (teardown ⟨build, second⟩ site) := by
  have released :
      (if first.releaseBlocks then releaseAreas ⟨build, first⟩ Area.all else pure ()) site =
        (if second.releaseBlocks then releaseAreas ⟨build, second⟩ Area.all else pure ()) site := by
    rw [same]
    split
    · exact releaseAreas_eq settled Area.all
    · rfl
  rw [teardown_apply, teardown_apply, released]
  exact .of_unwarned (fun _ => rfl) (by simp)

theorem teardown_warnings (settled : site.books.IsSettled)
    (silent : setup.config.reportLeaks = false) : (teardown setup site).trace.warnings = [] := by
  have report : leakTrace setup site.books.registries = [] := by simp [leakTrace, silent]
  rw [teardown_apply, Outcome.trace_behind, report, List.nil_append]
  split
  · exact releaseAreas_warnings settled Area.all
  · rfl

/-! ## Runs -/

theorem isSettled_after (setup : Setup) (commands : List Command) (settled : site.books.IsSettled) :
    (after setup commands site).books.IsSettled := by
  induction commands generalizing site with
  | nil => exact settled
  | cons command rest ih =>
    have done : Runs setup site command (run setup command site) := runs settled command
    exact ih (done.isSettled settled)

/-- Runs of the same commands under different settings go through the same states. -/
theorem after_reconfigured (settled : site.books.IsSettled) (build : Build)
    (first second : Config) (commands : List Command) :
    after ⟨build, second⟩ commands site = after ⟨build, first⟩ commands site := by
  induction commands generalizing site with
  | nil => rfl
  | cons command rest ih =>
    have alike := run_alike settled build first second command
    have done : Runs ⟨build, first⟩ site command (run ⟨build, first⟩ command site) :=
      runs settled command
    rw [after, List.foldl_cons, alike.state]
    exact ih (done.isSettled settled)

/-- Two new managers of the same build that release their blocks alike when they end, and otherwise
have any settings, are given the same commands over the same backend; commands that break off do not
end the run. After it both are in the same state, and so is the backend. The next command comes to
the same in both, up to warnings and to the answer of the query for the settings, and so does the
end of the manager. Without remarks and leak reports nothing is warned of. -/
theorem diagnostics_only_warn (build : Build) (first second : Config)
    (same : first.releaseBlocks = second.releaseBlocks) (commands : List Command) (backend : β) :
    let site := after ⟨build, first⟩ commands { backend }
    after ⟨build, second⟩ commands { backend } = site ∧
      (∀ command, (run ⟨build, first⟩ command site).Alike (command ≠ .query .config)
        (run ⟨build, second⟩ command site)) ∧
      (teardown ⟨build, first⟩ site).Alike True (teardown ⟨build, second⟩ site) ∧
      (first.logRejections = false → first.reportLeaks = false →
        (∀ command, (run ⟨build, first⟩ command site).trace.warnings = []) ∧
          (teardown ⟨build, first⟩ site).trace.warnings = []) := by
  intro site
  have fresh : (Site.mk {} backend).books.IsSettled := Books.isSettled_empty
  have settled : site.books.IsSettled := isSettled_after ⟨build, first⟩ commands fresh
  refine ⟨after_reconfigured fresh build first second commands, ?_, ?_, ?_⟩
  · exact run_alike settled build first second
  · exact teardown_alike settled build same
  · intro unremarked unreported
    constructor
    · intro command
      have done : Runs ⟨build, first⟩ site command (run ⟨build, first⟩ command site) :=
        runs settled command
      exact done.warnings unremarked
    · exact teardown_warnings settled unreported

/-- A manager with all diagnostics warns of a free that is turned down and of a leak. One without
any goes through the same states and warns of nothing. -/
theorem leak_only_warned_of :
    let loud : Setup := ⟨.checked, .standard .checked⟩
    let mute : Setup := ⟨.checked, { Config.quiet .checked with verifyInvariants := false }⟩
    let site := after mute [.allocate 8 .host, .deallocate 1 8 .host] { backend := ({} : Scripted) }
    (run loud (.deallocate 1 8 .host) site).trace.warnings ≠ [] ∧
      (teardown loud site).trace.warnings ≠ [] ∧
      (teardown loud site).trace.unwarned = (teardown mute site).trace.unwarned ∧
      (teardown mute site).trace.warnings = [] := by
  intro loud mute site
  obtain ⟨-, -, ends, unwarned⟩ := diagnostics_only_warn .checked mute.config loud.config rfl
    [.allocate 8 .host, .deallocate 1 8 .host] ({} : Scripted)
  refine ⟨?_, ?_, ends.unwarned, (unwarned rfl rfl).2⟩
  · decide +kernel
  · decide +kernel

end Site

end TrackedMemory
