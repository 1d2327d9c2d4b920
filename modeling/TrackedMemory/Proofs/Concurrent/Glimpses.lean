import Mathlib.Data.List.Infix
import TrackedMemory.Proofs.Copying
import TrackedMemory.Proofs.Disjoint

/-!
# Calls that look into one registry at a time

A query for the space or the size of a block looks into one registry after the other, and so does
the check of one end of a copy. Between two looks other calls register and deregister blocks, so
what the call puts together need not be how the registries ever were. `Phase.Among` is one call
among others, with the registries at every instant since it started.

Where live blocks share no byte, the answer was still true at one of these instants. A call that
passed some areas over either came upon an instant at which no area had what it looks for, or none
of the areas it passed over has it now: a block that turns up in such an area is the only one of its
kind and came with this one change, so there was none anywhere just before.
-/

namespace TrackedMemory

/-! ## One call among others -/

namespace Phase

/-- A call with others around it that change the registries: where it started, the registries at
every instant since then, the latest first, and what it has come to. Nothing is assumed of what the
others do to the sequencer and the tally. -/
inductive Among (setup : Setup) (first : Books) (start : Phase) :
    List Registries → Books → Phase → Prop where
  | start : Among setup first start [first.registries] first start
  /-- The call goes on. -/
  | step {seen : List Registries} {books : Books} {phase : Phase} {act : Act Books Phase}
      (before : Among setup first start seen books phase) (goes : phase.Goes setup books act) :
      Among setup first start ((act books).state.registries :: seen) (act books).state
        (Machine.landing (act books).result)
  /-- Another call makes a change. -/
  | other {seen : List Registries} {books : Books} {phase : Phase} (mutation : Mutation)
      (sequencer : Sequencer) (tally : Tally) (before : Among setup first start seen books phase) :
      Among setup first start (books.registries.apply mutation :: seen)
        ⟨books.registries.apply mutation, sequencer, tally⟩ phase

variable {setup : Setup} {first books : Books} {start phase : Phase} {seen : List Registries}
  {act : Act Books Phase}

theorem Goes.acts (goes : phase.Goes setup books act) (outside : phase.isInBackend = false) :
    phase.act? setup books = some act := by
  cases goes with
  | alone acts => exact acts
  | granted reply acts =>
    cases phase with
    | inAlloc => cases outside
    | _ => cases acts
  | replied reply acts =>
    cases phase with
    | inFree | inCopy => cases outside
    | _ => cases acts

theorem Among.mem (among : start.Among setup first seen books phase) : books.registries ∈ seen := by
  cases among <;> exact List.mem_cons_self

theorem Among.allSound (among : start.Among setup first seen books phase)
    (sound : first.registries.AreSound) : ∀ registries ∈ seen, registries.AreSound := by
  induction among with
  | start =>
    intro registries inside
    rwa [List.mem_singleton.1 inside]
  | step before goes ih =>
    intro registries inside
    rcases List.mem_cons.1 inside with rfl | inside
    · exact goes.steps.areSound (ih _ before.mem)
    · exact ih registries inside
  | other mutation sequencer tally before ih =>
    intro registries inside
    rcases List.mem_cons.1 inside with rfl | inside
    · exact (ih _ before.mem).apply mutation
    · exact ih registries inside

/-- A step changes the registries by one mutation, or leaves them alone. -/
theorem Step.exists_mutation {after : Books} {next : Phase} {trace : Trace}
    (step : Step setup books phase after next trace) (sound : books.registries.AreSound) :
    ∃ mutation, after.registries = books.registries.apply mutation := by
  cases step with
  | change ticket change => exact ⟨change.mutation, by rw [Change.apply_state sound]⟩
  | _ => exact ⟨.nothing, rfl⟩

end Phase

namespace Machine

variable {setup : Setup} {machine next : Machine} {move : Move} {moves : List Move} {index : Nat}
  {call : Call}

theorem exists_goes (moved : machine.move? setup move = some next)
    (mine : move.index? = some index) :
    ∃ call act, machine.calls[index]? = some call ∧ call.phase.Goes setup machine.books act ∧
      next = machine.goOn index call (act machine.books).state (landing (act machine.books).result)
        (act machine.books).trace := by
  rcases move?_goes moved with ⟨command, rfl, -⟩ | ⟨other, call, act, owner, called, goes, rfl⟩
  · cases mine
  · cases owner.symm.trans mine
    exact ⟨call, act, called, goes, rfl⟩

/-- Every call of a machine is one call among others, and what it sees are the registries of the
machine in between. -/
theorem among_of_run (sound : machine.books.registries.AreSound)
    (called : machine.calls[index]? = some call) (run : machine.run? setup moves = some next) :
    ∃ found seen, next.calls[index]? = some found ∧
      call.phase.Among setup machine.books seen next.books found.phase ∧
      ∀ registries ∈ seen, ∃ before ∈ moves.inits, ∃ middle,
        machine.run? setup before = some middle ∧ middle.books.registries = registries := by
  induction moves using List.reverseRecOn generalizing next with
  | nil =>
    cases run
    exact ⟨call, _, called, .start, by simp⟩
  | append_singleton moves move ih =>
    obtain ⟨middle, ran, moved⟩ := Option.bind_eq_some_iff.1 ((run?_append _ _).symm.trans run)
    have moved : middle.move? setup move = some next := by simpa using moved
    obtain ⟨found, seen, there, among, passed⟩ := ih ran
    have earlier : ∀ registries ∈ seen, ∃ before ∈ (moves ++ [move]).inits, ∃ middle,
        machine.run? setup before = some middle ∧ middle.books.registries = registries := by
      intro registries inside
      obtain ⟨before, first, rest⟩ := passed registries inside
      have whole : before <+: moves ++ [move] :=
        ((List.mem_inits _ _).1 first).trans (List.prefix_append _ _)
      exact ⟨before, (List.mem_inits _ _).2 whole, rest⟩
    have now : ∃ before ∈ (moves ++ [move]).inits, ∃ middle,
        machine.run? setup before = some middle ∧
          middle.books.registries = next.books.registries :=
      ⟨_, (List.mem_inits _ _).2 (List.prefix_refl _), next, run, rfl⟩
    cases owner : move.index? with
    | none =>
      cases move with
      | start command =>
        cases moved
        exact ⟨found, seen, getElem?_start_eq_some.2 (.inl there), among, earlier⟩
      | advance | grant | reply => cases owner
    | some other =>
      obtain ⟨taker, act, takes, goes, rfl⟩ := exists_goes moved owner
      by_cases mine : other = index
      · subst mine
        cases Option.some.inj (there.symm.trans takes)
        exact ⟨_, _, getElem?_goOn_self takes, among.step goes,
          List.forall_mem_cons.2 ⟨now, earlier⟩⟩
      · obtain ⟨mutation, changed⟩ :=
          goes.steps.exists_mutation (among.allSound sound _ among.mem)
        have stays : (middle.goOn other taker (act middle.books).state
            (landing (act middle.books).result) (act middle.books).trace).calls[index]? =
              some found := by
          rw [getElem?_goOn takes, if_neg (Ne.symm mine), there]
        have beside := among.other mutation (act middle.books).state.sequencer
          (act middle.books).state.tally
        rw [← changed] at beside
        exact ⟨found, _, stays, beside, List.forall_mem_cons.2 ⟨now, earlier⟩⟩

end Machine

namespace Registries

variable {registries : Registries} {mutation : Mutation} {area : Area} {look : Registry → Bool}

theorem exists_get_apply (registries : Registries) (mutation : Mutation) :
    ∃ area, ∀ other ≠ area, (registries.apply mutation).get other = registries.get other := by
  cases mutation with
  | register area ptr bytes =>
    refine ⟨area, fun other differ => ?_⟩
    simp only [apply]
    split
    · rfl
    · rw [get_set, if_neg differ]
  | deregister area ptr =>
    refine ⟨area, fun other differ => ?_⟩
    simp only [apply]
    split
    · rfl
    · rw [get_set, if_neg differ]
  | nothing => exact ⟨.device, fun _ _ => rfl⟩

def HasOnce (registries : Registries) (look : Registry → Bool) : Prop :=
  ∀ one two, look (registries.get one) = true → look (registries.get two) = true → one = two

def Lacks (registries : Registries) (look : Registry → Bool) : Prop :=
  ∀ area, look (registries.get area) = false

/-- What turns up in an area, and is there once, was nowhere just before. -/
theorem lacks_before (once : (registries.apply mutation).HasOnce look)
    (before : look (registries.get area) = false)
    (after : look ((registries.apply mutation).get area) = true) : registries.Lacks look := by
  obtain ⟨changed, kept⟩ := exists_get_apply registries mutation
  intro other
  by_cases here : other = area
  · rw [here]
    exact before
  · refine Bool.eq_false_iff.2 fun there => ?_
    have moved : area = changed := by
      by_contra differ
      rw [kept area differ, before] at after
      cases after
    rw [← kept other (moved ▸ here)] at there
    exact here (once other area there after)

/-- What vanishes from an area, and was there once, is nowhere just after. -/
theorem lacks_after (once : registries.HasOnce look) (before : look (registries.get area) = true)
    (after : look ((registries.apply mutation).get area) = false) :
    (registries.apply mutation).Lacks look := by
  obtain ⟨changed, kept⟩ := exists_get_apply registries mutation
  intro other
  by_cases here : other = area
  · rw [here]
    exact after
  · refine Bool.eq_false_iff.2 fun there => ?_
    have moved : area = changed := by
      by_contra differ
      rw [kept area differ, before] at after
      cases after
    rw [kept other (moved ▸ here)] at there
    exact here (once other area there before)

theorem AreDisjoint.hasOnce_contains (disjoint : registries.AreDisjoint) (addr : Addr) :
    registries.HasOnce fun registry => registry.contains addr :=
  fun _ _ => disjoint.area_eq_of_contains

theorem AreDisjoint.hasOnce_covers (disjoint : registries.AreDisjoint)
    (sound : registries.AreSound) {bytes : Size} (positive : bytes ≠ 0) (addr : Addr) :
    registries.HasOnce fun registry => registry.covers addr bytes :=
  fun _ _ => disjoint.area_eq_of_covers sound positive

end Registries

/-! ## Areas that were passed over -/

/-- Of the areas that are looked into, those that are not left were passed over. Either some instant
lacked what is looked for, or none of the areas passed over has it now. -/
def PassesOver (look : Registry → Bool) (areas rest : List Area) (seen : List Registries)
    (now : Registries) : Prop :=
  (∃ gap ∈ seen, gap.Lacks look) ∨ ∀ area ∈ areas, area ∉ rest → look (now.get area) = false

namespace PassesOver

variable {look : Registry → Bool} {areas rest : List Area} {seen : List Registries}
  {now : Registries} {here : Area}

theorem start : PassesOver look areas areas seen now :=
  .inr fun _ inside outside => absurd inside outside

theorem other (passes : PassesOver look areas rest seen now) (present : now ∈ seen)
    (mutation : Mutation) (once : (now.apply mutation).HasOnce look) :
    PassesOver look areas rest (now.apply mutation :: seen) (now.apply mutation) := by
  rcases passes with ⟨gap, earlier, lacks⟩ | missing
  · exact .inl ⟨gap, List.mem_cons_of_mem _ earlier, lacks⟩
  · by_cases still : ∀ area ∈ areas, area ∉ rest → look ((now.apply mutation).get area) = false
    · exact .inr still
    · obtain ⟨area, inside, passed, found⟩ : ∃ area ∈ areas, area ∉ rest ∧
          look ((now.apply mutation).get area) = true := by
        simpa using still
      exact .inl ⟨now, List.mem_cons_of_mem _ present,
        Registries.lacks_before once (missing area inside passed) found⟩

theorem step (passes : PassesOver look areas (here :: rest) seen now)
    (absent : look (now.get here) = false) :
    PassesOver look areas rest (now :: seen) now := by
  rcases passes with ⟨gap, earlier, lacks⟩ | missing
  · exact .inl ⟨gap, List.mem_cons_of_mem _ earlier, lacks⟩
  · refine .inr fun area inside passed => ?_
    by_cases same : area = here
    · rw [same]
      exact absent
    · exact missing area inside fun listed => (List.mem_cons.1 listed).elim same passed

/-- Once all areas were passed over, there was an instant at which none of them had it. -/
theorem exists_lacking (passes : PassesOver look areas [] seen now) (present : now ∈ seen) :
    ∃ gap ∈ seen, ∀ area ∈ areas, look (gap.get area) = false := by
  rcases passes with ⟨gap, earlier, lacks⟩ | missing
  · exact ⟨gap, earlier, fun area _ => lacks area⟩
  · exact ⟨now, present, fun area inside => missing area inside List.not_mem_nil⟩

end PassesOver

/-! ## Queries for a space or a size -/

namespace Registries

variable {registries : Registries} {addr : Addr} {area : Area}

/-- A space is the one in which a block starts at an address, or invalid if none does. -/
def Locates (registries : Registries) (addr : Addr) (space : Space) : Prop :=
  ∀ area, (registries.get area).contains addr = true ↔ space = area.space

/-- A size is that of a block which starts at an address, or zero if none does. -/
def Measures (registries : Registries) (addr : Addr) (size : Size) : Prop :=
  (∃ area, ⟨addr, size⟩ ∈ (registries.get area).blocks) ∨
    size = 0 ∧ registries.Lacks fun registry => registry.contains addr

theorem locates_of_lacks (lacks : registries.Lacks fun registry => registry.contains addr) :
    registries.Locates addr .invalid := by
  intro area
  refine iff_of_false (Bool.eq_false_iff.1 (lacks area)) ?_
  cases area <;> decide

theorem AreDisjoint.locates (disjoint : registries.AreDisjoint)
    (present : (registries.get area).contains addr = true) :
    registries.Locates addr area.space := by
  intro other
  constructor
  · intro also
    rw [disjoint.area_eq_of_contains present also]
  · intro same
    have here : area = other :=
      Option.some.inj ((Space.area?_space area).symm.trans (same ▸ Space.area?_space other))
    exact here ▸ present

theorem measures_of_contains (present : (registries.get area).contains addr = true) :
    registries.Measures addr ((registries.get area).sizeOf addr) := by
  obtain ⟨block, found⟩ := Option.isSome_iff_exists.1 present
  have member := List.mem_of_find?_eq_some found
  have start : block.start = addr := by simpa using List.find?_some found
  refine .inl ⟨area, ?_⟩
  rw [Registry.sizeOf, found, ← start]
  exact member

end Registries

section Search

variable {setup : Setup} {books : Books} {addr : Addr} {rest : List Area} {purpose : Purpose}
  {seen : List Registries} {act : Act Books Phase}

/-- A look-up finds the block in the area that it looks into, or has passed all areas over, or
passes this one over and goes on. -/
theorem PassesOver.search
    (passes : PassesOver (fun registry => registry.contains addr) Area.all rest seen
      books.registries) (present : books.registries ∈ seen)
    (acts : (Phase.searching addr rest purpose).act? setup books = some act) :
    (∃ here, (books.registries.get here).contains addr = true ∧
      act books = Phase.resolve setup addr (some here) purpose books) ∨
    ((∃ gap ∈ seen, gap.Lacks fun registry => registry.contains addr) ∧
      act books = Phase.resolve setup addr none purpose books) ∨
    ∃ later, act books = ⟨.ok (.searching addr later purpose), books, []⟩ ∧
      PassesOver (fun registry => registry.contains addr) Area.all later
        (books.registries :: seen) books.registries := by
  have lacking : ∀ {moments : List Registries},
      PassesOver (fun registry => registry.contains addr) Area.all [] moments books.registries →
      books.registries ∈ moments → ∃ gap ∈ moments, gap.Lacks fun registry =>
        registry.contains addr := fun passes here =>
    (passes.exists_lacking here).imp fun gap missing =>
      ⟨missing.1, fun area => missing.2 area (Area.mem_all area)⟩
  cases rest with
  | nil =>
    cases acts
    exact .inr (.inl ⟨lacking passes present, rfl⟩)
  | cons here later =>
    cases acts
    cases found : (books.registries.get here).contains addr with
    | true => exact .inl ⟨here, found, by simp [found]⟩
    | false =>
      have further := passes.step found
      cases later with
      | nil =>
        obtain ⟨gap, inside, lacks⟩ := lacking further List.mem_cons_self
        have old : gap ∈ seen := (List.mem_cons.1 inside).elim (fun same => same ▸ present) id
        exact .inr (.inl ⟨⟨gap, old, lacks⟩, by simp [found]⟩)
      | cons next later => exact .inr (.inr ⟨_, by simp [found], further⟩)

end Search

namespace Phase

variable {setup : Setup} {books : Books} {addr : Addr} {seen : List Registries} {now : Registries}
  {phase : Phase} {act : Act Books Phase}

inductive SeeksSpace (addr : Addr) (seen : List Registries) (now : Registries) : Phase → Prop where
  | entered : SeeksSpace addr seen now (.entered (.query (.spaceOf addr)))
  | searching {rest : List Area}
      (passes : PassesOver (fun registry => registry.contains addr) Area.all rest seen now) :
      SeeksSpace addr seen now (.searching addr rest .space)
  | finished {space : Space} {registries : Registries} (glimpsed : registries ∈ seen)
      (located : registries.Locates addr space) :
      SeeksSpace addr seen now (.finished (.ok (.space space)))

theorem SeeksSpace.other (seeks : phase.SeeksSpace addr seen now) (present : now ∈ seen)
    (mutation : Mutation) (disjoint : (now.apply mutation).AreDisjoint) :
    phase.SeeksSpace addr (now.apply mutation :: seen) (now.apply mutation) := by
  cases seeks with
  | entered => exact .entered
  | searching passes =>
    exact .searching (passes.other present mutation (disjoint.hasOnce_contains addr))
  | finished glimpsed located => exact .finished (List.mem_cons_of_mem _ glimpsed) located

theorem SeeksSpace.step (seeks : phase.SeeksSpace addr seen books.registries)
    (present : books.registries ∈ seen) (disjoint : books.registries.AreDisjoint)
    (goes : phase.Goes setup books act) :
    (Machine.landing (act books).result).SeeksSpace addr ((act books).state.registries :: seen)
      (act books).state.registries := by
  cases seeks with
  | entered =>
    cases goes.acts rfl
    exact .searching .start
  | searching passes =>
    rcases passes.search present (goes.acts rfl) with
      ⟨here, found, did⟩ | ⟨⟨gap, earlier, lacks⟩, did⟩ | ⟨later, did, further⟩
    · rw [did]
      exact .finished List.mem_cons_self (disjoint.locates found)
    · rw [did]
      exact .finished (List.mem_cons_of_mem _ earlier) (Registries.locates_of_lacks lacks)
    · rw [did]
      exact .searching further
  | finished => cases goes.acts rfl

inductive SeeksSize (addr : Addr) (seen : List Registries) (now : Registries) : Phase → Prop where
  | entered : SeeksSize addr seen now (.entered (.query (.sizeOf addr)))
  | searching {rest : List Area}
      (passes : PassesOver (fun registry => registry.contains addr) Area.all rest seen now) :
      SeeksSize addr seen now (.searching addr rest .size)
  | measuring {area : Area}
      (held : (∃ gap ∈ seen, gap.Lacks fun registry => registry.contains addr) ∨
        (now.get area).contains addr = true) : SeeksSize addr seen now (.measuring addr area)
  | finished {size : Size} {registries : Registries} (glimpsed : registries ∈ seen)
      (measured : registries.Measures addr size) :
      SeeksSize addr seen now (.finished (.ok (.bytes size)))

theorem SeeksSize.other (seeks : phase.SeeksSize addr seen now) (present : now ∈ seen)
    (before : now.AreDisjoint) (mutation : Mutation)
    (after : (now.apply mutation).AreDisjoint) :
    phase.SeeksSize addr (now.apply mutation :: seen) (now.apply mutation) := by
  cases seeks with
  | entered => exact .entered
  | searching passes =>
    exact .searching (passes.other present mutation (after.hasOnce_contains addr))
  | @measuring area held =>
    rcases held with ⟨gap, earlier, lacks⟩ | held
    · exact .measuring (.inl ⟨gap, List.mem_cons_of_mem _ earlier, lacks⟩)
    · cases still : ((now.apply mutation).get area).contains addr with
      | true => exact .measuring (.inr still)
      | false =>
        exact .measuring (.inl ⟨_, List.mem_cons_self,
          Registries.lacks_after (before.hasOnce_contains addr) held still⟩)
  | finished glimpsed measured => exact .finished (List.mem_cons_of_mem _ glimpsed) measured

theorem finish_answerSize (setup : Setup) (addr : Addr) (size : Size) (books : Books) :
    ∃ trace, (do
      let answer ← Books.answerSize setup addr size
      pure (Phase.finished (.ok answer))) books =
        ⟨.ok (.finished (.ok (.bytes size))), books, trace⟩ := by
  have answered : Books.answerSize setup addr size books = _ :=
    Books.answerSize_apply setup addr size
  refine ⟨(Books.answerSize setup addr size books).trace, ?_⟩
  rw [Act.bind_apply_ok (by rw [answered]), answered]
  simp

theorem SeeksSize.step (seeks : phase.SeeksSize addr seen books.registries)
    (present : books.registries ∈ seen) (goes : phase.Goes setup books act) :
    (Machine.landing (act books).result).SeeksSize addr ((act books).state.registries :: seen)
      (act books).state.registries := by
  cases seeks with
  | entered =>
    cases goes.acts rfl
    exact .searching .start
  | searching passes =>
    rcases passes.search present (goes.acts rfl) with
      ⟨here, found, did⟩ | ⟨⟨gap, earlier, lacks⟩, did⟩ | ⟨later, did, further⟩
    · rw [did]
      exact .measuring (.inr found)
    · obtain ⟨trace, answers⟩ := finish_answerSize setup addr 0 books
      rw [did, resolve, answers]
      exact .finished (List.mem_cons_of_mem _ earlier) (.inr ⟨rfl, lacks⟩)
    · rw [did]
      exact .searching further
  | @measuring area held =>
    obtain ⟨trace, answers⟩ :=
      finish_answerSize setup addr ((books.registries.get area).sizeOf addr) books
    cases goes.acts rfl
    rw [Act.read_bind_apply, answers]
    cases present : (books.registries.get area).contains addr with
    | true => exact .finished List.mem_cons_self (Registries.measures_of_contains present)
    | false =>
      rcases held with ⟨gap, earlier, lacks⟩ | held
      · rw [Registry.sizeOf_eq_zero present]
        exact .finished (List.mem_cons_of_mem _ earlier) (.inr ⟨rfl, lacks⟩)
      · rw [held] at present
        cases present
  | finished => cases goes.acts rfl

end Phase

/-! ## The check of one end of a copy -/

/-- Where live blocks share no byte, a range that is surrounded is found by looking into the areas
in which it may lie. -/
theorem Registries.AreDisjoint.surrounds_iff {registries : Registries} {space : Space} {addr : Addr}
    {bytes : Size} (disjoint : registries.AreDisjoint) (sound : registries.AreSound)
    (positive : bytes ≠ 0) :
    registries.Surrounds space addr bytes ↔
      ∃ area ∈ Registries.candidates space, (registries.get area).covers addr bytes = true := by
  refine exists_congr fun area => and_congr Registries.mem_candidates.symm ?_
  exact (disjoint.covers_iff sound positive).symm

section Check

variable {setup : Setup} {books : Books} {transfer : Transfer} {side : End}
  {areas rest : List Area} {seen : List Registries} {act : Act Books Phase}

/-- A check finds the range in the area that it looks into, or has passed all areas over, or passes
this one over and goes on. -/
theorem PassesOver.check
    (passes : PassesOver (fun registry => registry.covers (transfer.addr side) transfer.bytes)
      areas rest seen books.registries) (within : rest ⊆ areas) (present : books.registries ∈ seen)
    (acts : (Phase.checking transfer side rest).act? setup books = some act) :
    (∃ here ∈ areas, (books.registries.get here).covers (transfer.addr side) transfer.bytes = true ∧
      act books = ⟨.ok (Phase.approve transfer side), books, []⟩) ∨
    ((∃ gap ∈ seen, ∀ area ∈ areas,
        (gap.get area).covers (transfer.addr side) transfer.bytes = false) ∧
      act books = Phase.disapprove setup transfer side books) ∨
    ∃ later, act books = ⟨.ok (.checking transfer side later), books, []⟩ ∧ later ⊆ areas ∧
      PassesOver (fun registry => registry.covers (transfer.addr side) transfer.bytes) areas later
        (books.registries :: seen) books.registries := by
  cases rest with
  | nil =>
    cases acts
    exact .inr (.inl ⟨passes.exists_lacking present, rfl⟩)
  | cons here later =>
    cases acts
    have listed : here ∈ areas := within List.mem_cons_self
    cases found : (books.registries.get here).covers (transfer.addr side) transfer.bytes with
    | true => exact .inl ⟨here, listed, found, by simp [found]⟩
    | false =>
      have further := passes.step found
      cases later with
      | nil =>
        obtain ⟨gap, inside, lacks⟩ := further.exists_lacking List.mem_cons_self
        have old : gap ∈ seen := (List.mem_cons.1 inside).elim (fun same => same ▸ present) id
        exact .inr (.inl ⟨⟨gap, old, lacks⟩, by simp [found]⟩)
      | cons next later =>
        exact .inr (.inr ⟨_, by simp [found], fun _ kept => within (List.mem_cons_of_mem _ kept),
          further⟩)

end Check

namespace Phase

variable {setup : Setup} {first books : Books} {request : CopyRequest} {transfer : Transfer}
  {side : End} {rest : List Area} {seen during : List Registries} {now : Registries} {phase : Phase}
  {act : Act Books Phase}

/-- The phase that a step of a check leads to. A verdict was true at one of these instants. -/
inductive JudgesTruly (transfer : Transfer) (side : End) (during : List Registries) : Phase → Prop
    where
  | undecided (later : List Area) :
      JudgesTruly transfer side during (.checking transfer side later)
  | approved {registries : Registries} (glimpsed : registries ∈ during)
      (inside : registries.Surrounds (transfer.space side) (transfer.addr side) transfer.bytes) :
      JudgesTruly transfer side during (approve transfer side)
  | disapproved {registries : Registries} (glimpsed : registries ∈ during)
      (outside : ¬registries.Surrounds (transfer.space side) (transfer.addr side) transfer.bytes) :
      JudgesTruly transfer side during (.finished (.ok (.verdict false)))

/-- The check of an end of a copy that is under way: `during` are the registries at every instant
since this check began. -/
structure Checks (setup : Setup) (request : CopyRequest) (transfer : Transfer) (side : End)
    (rest : List Area) (seen during : List Registries) (books : Books) : Prop where
  asked : transfer.request false = request
  recent : ∃ earlier, seen = during ++ earlier
  among : ∃ begun, (checking transfer side (Registries.candidates (transfer.space side))).Among
    setup begun during books (.checking transfer side rest)

structure Inspects (setup : Setup) (request : CopyRequest) (transfer : Transfer) (side : End)
    (rest : List Area) (seen during : List Registries) (books : Books) : Prop extends
    Checks setup request transfer side rest seen during books where
  within : rest ⊆ Registries.candidates (transfer.space side)
  passes : PassesOver (fun registry => registry.covers (transfer.addr side) transfer.bytes)
    (Registries.candidates (transfer.space side)) rest during books.registries

theorem Inspects.start (asked : transfer.request false = request) :
    Inspects setup request transfer side (Registries.candidates (transfer.space side))
      (books.registries :: seen) [books.registries] books where
  asked := asked
  recent := ⟨seen, rfl⟩
  among := ⟨books, .start⟩
  within := fun _ listed => listed
  passes := .start

theorem Inspects.other (inspects : Inspects setup request transfer side rest seen during books)
    (mutation : Mutation) (sequencer : Sequencer) (tally : Tally)
    (once : (books.registries.apply mutation).HasOnce fun registry =>
      registry.covers (transfer.addr side) transfer.bytes) :
    Inspects setup request transfer side rest (books.registries.apply mutation :: seen)
      (books.registries.apply mutation :: during)
      ⟨books.registries.apply mutation, sequencer, tally⟩ := by
  obtain ⟨begun, among⟩ := inspects.among
  obtain ⟨earlier, recent⟩ := inspects.recent
  exact ⟨⟨inspects.asked, ⟨earlier, by rw [recent]; rfl⟩,
    ⟨begun, .other mutation sequencer tally among⟩⟩, inspects.within,
    inspects.passes.other among.mem mutation once⟩

theorem disapprove_apply (setup : Setup) (transfer : Transfer) (side : End) (books : Books) :
    disapprove setup transfer side books = ⟨.ok (.finished (.ok (.verdict false))),
      { books with tally := { books.tally with copies := books.tally.copies + 1 } },
      if setup.config.logRejections then [.logged (.remarked (transfer.unknownEnd side))]
      else []⟩ :=
  refuse_apply setup books _ (transfer.unknownEnd side) (.verdict false)

/-- A step of a check gives a verdict that was true at some instant, or the check goes on. -/
theorem Inspects.judges (inspects : Inspects setup request transfer side rest seen during books)
    (positive : transfer.bytes ≠ 0)
    (clean : ∀ registries ∈ seen, registries.AreDisjoint ∧ registries.AreSound)
    (acts : (checking transfer side rest).act? setup books = some act) :
    (Machine.landing (act books).result).JudgesTruly transfer side during := by
  obtain ⟨begun, among⟩ := inspects.among
  obtain ⟨earlier, recent⟩ := inspects.recent
  have truth : ∀ registries ∈ during, registries.Surrounds (transfer.space side)
      (transfer.addr side) transfer.bytes ↔ ∃ area ∈ Registries.candidates (transfer.space side),
        (registries.get area).covers (transfer.addr side) transfer.bytes = true :=
    fun registries inside => by
      obtain ⟨disjoint, sound⟩ := clean registries (by simp [recent, inside])
      exact disjoint.surrounds_iff sound positive
  rcases inspects.passes.check inspects.within among.mem acts with
    ⟨here, listed, found, did⟩ | ⟨⟨gap, inside, lacks⟩, did⟩ | ⟨later, did, -⟩
  · rw [did]
    exact .approved among.mem ((truth _ among.mem).2 ⟨here, listed, found⟩)
  · rw [did, disapprove_apply]
    refine .disapproved inside fun surrounded => ?_
    obtain ⟨area, listed, found⟩ := (truth gap inside).1 surrounded
    rw [lacks area listed] at found
    cases found
  · rw [did]
    exact .undecided later

/-- A copy that is under way has not begun, or checks an end, or has at most one step left. -/
theorem Serves.copy_cases (serves : phase.Serves (.copy request)) :
    phase = .entered (.copy request) ∨
      (∃ transfer side rest, phase = .checking transfer side rest) ∨ phase.stepsLeft ≤ 1 := by
  cases phase with
  | entered command =>
    cases serves
    exact .inl rfl
  | checking transfer side rest => exact .inr (.inl ⟨transfer, side, rest, rfl⟩)
  | inCopy | finished => exact .inr (.inr (by simp [stepsLeft]))
  | queued _ change | inTurn _ change | changed _ change =>
    cases change <;> simp [Serves, Mutation.Serves, Change.mutation] at serves
  | searching addr rest purpose => cases purpose <;> simp [Serves] at serves
  | _ => simp [Serves] at serves

theorem asked_of_enter (nonempty : request.bytes ≠ 0) (own : request.outside = false)
    (leads : Machine.landing (enter setup (.copy request) books).result =
      .checking transfer side rest) :
    transfer.request false = request ∧ rest = Registries.candidates (transfer.space side) ∧
      (enter setup (.copy request) books).state = books := by
  cases named : request.transfer? with
  | none =>
    have refused : (enter setup (.copy request) books).result =
        .ok (.finished (.ok (.verdict false))) := by
      simp only [enter, if_neg nonempty, named]
      exact congrArg Outcome.result (refuse_apply setup books _ .copyOfNull (.verdict false))
    rw [refused] at leads
    cases leads
  | some asked =>
    have begins : enter setup (.copy request) books = ⟨.ok (.checking asked .destination
        (Registries.candidates asked.dstSpace)), books, []⟩ := by
      simp [enter, nonempty, named, own]
    rw [begins] at leads ⊢
    cases leads
    have same := CopyRequest.transfer?_eq_some_iff.1 named
    rw [own] at same
    exact ⟨same, rfl, rfl⟩

/-- A step of a check that leads to a check goes on with the former, or begins the next one. -/
theorem Inspects.of_step (inspects : Inspects setup request transfer side rest seen during books)
    (acts : (checking transfer side rest).act? setup books = some act) {next : Transfer}
    {end' : End} {left : List Area}
    (leads : Machine.landing (act books).result = .checking next end' left) :
    ∃ during, Inspects setup request next end' left ((act books).state.registries :: seen) during
      (act books).state := by
  obtain ⟨begun, among⟩ := inspects.among
  obtain ⟨earlier, recent⟩ := inspects.recent
  rcases inspects.passes.check inspects.within among.mem acts with
    ⟨here, listed, found, did⟩ | ⟨-, did⟩ | ⟨later, did, within, further⟩
  · rw [did] at leads ⊢
    cases side <;> cases leads
    exact ⟨_, .start inspects.asked⟩
  · rw [did, disapprove_apply] at leads
    cases leads
  · have goneOn := among.step (.alone acts)
    rw [did] at leads goneOn ⊢
    cases leads
    exact ⟨books.registries :: during, ⟨inspects.asked, ⟨earlier, by rw [recent]; rfl⟩,
      ⟨begun, goneOn⟩⟩, within, further⟩

/-- Whenever a copy checks an end, this is a check of its own that began and is under way. -/
theorem Among.inspects (nonempty : request.bytes ≠ 0) (own : request.outside = false)
    (among : (entered (.copy request)).Among setup first seen books phase)
    (clean : ∀ registries ∈ seen, registries.AreDisjoint ∧ registries.AreSound) :
    phase.Serves (.copy request) ∧ ∀ transfer side rest, phase = .checking transfer side rest →
      ∃ during, Inspects setup request transfer side rest seen during books := by
  induction among with
  | start => exact ⟨rfl, fun _ _ _ checking => by cases checking⟩
  | @step seen books phase act before goes ih =>
    obtain ⟨serves, inspects⟩ := ih fun registries inside => clean registries (.tail _ inside)
    refine ⟨goes.steps.serves serves, fun transfer side rest leads => ?_⟩
    rcases serves.copy_cases with rfl | ⟨transfer', side', rest', rfl⟩ | last
    · cases goes.acts rfl
      obtain ⟨asked, rfl, kept⟩ := asked_of_enter nonempty own leads
      rw [kept]
      exact ⟨_, .start asked⟩
    · obtain ⟨during, inspects⟩ := inspects transfer' side' rest' rfl
      exact inspects.of_step (goes.acts rfl) leads
    · have sooner := goes.steps.stepsLeft_lt
      have busy : 2 ≤ (checking transfer side rest).stepsLeft := by
        cases side <;> simp [stepsLeft]
      rw [leads] at sooner
      omega
  | @other seen books phase mutation sequencer tally before ih =>
    obtain ⟨serves, inspects⟩ := ih fun registries inside => clean registries (.tail _ inside)
    refine ⟨serves, fun transfer side rest checking => ?_⟩
    obtain ⟨during, inspects⟩ := inspects transfer side rest checking
    have positive : transfer.bytes ≠ 0 := by
      rw [← inspects.asked] at nonempty
      exact nonempty
    obtain ⟨disjoint, sound⟩ := clean _ List.mem_cons_self
    exact ⟨_, inspects.other mutation sequencer tally (disjoint.hasOnce_covers sound positive _)⟩

end Phase

/-! ## Answers that were true -/

namespace Phase

variable {setup : Setup} {first books : Books} {seen : List Registries} {phase : Phase}
  {addr : Addr}

theorem Among.seeksSpace
    (among : (entered (.query (.spaceOf addr))).Among setup first seen books phase)
    (disjoint : ∀ registries ∈ seen, registries.AreDisjoint) :
    phase.SeeksSpace addr seen books.registries := by
  induction among with
  | start => exact .entered
  | step before goes ih =>
    have seeks := ih fun registries inside => disjoint registries (.tail _ inside)
    exact seeks.step before.mem (disjoint _ (.tail _ before.mem)) goes
  | other mutation sequencer tally before ih =>
    have seeks := ih fun registries inside => disjoint registries (.tail _ inside)
    exact seeks.other before.mem mutation (disjoint _ List.mem_cons_self)

theorem Among.seeksSize
    (among : (entered (.query (.sizeOf addr))).Among setup first seen books phase)
    (disjoint : ∀ registries ∈ seen, registries.AreDisjoint) :
    phase.SeeksSize addr seen books.registries := by
  induction among with
  | start => exact .entered
  | step before goes ih =>
    have seeks := ih fun registries inside => disjoint registries (.tail _ inside)
    exact seeks.step before.mem goes
  | other mutation sequencer tally before ih =>
    have seeks := ih fun registries inside => disjoint registries (.tail _ inside)
    exact seeks.other before.mem (disjoint _ (.tail _ before.mem)) mutation
      (disjoint _ List.mem_cons_self)

/-- What a query for a space or a size answers was true at some instant while the query was under
way, and so was what a step decides that checks an end of a copy, while this check was. -/
structure AnswersTruly (setup : Setup) (first : Books) : Prop where
  space : ∀ addr seen books result,
    (entered (.query (.spaceOf addr))).Among setup first seen books (.finished result) →
      (∀ registries ∈ seen, registries.AreDisjoint) →
        ∃ space, result = .ok (.space space) ∧ ∃ registries ∈ seen, registries.Locates addr space
  size : ∀ addr seen books result,
    (entered (.query (.sizeOf addr))).Among setup first seen books (.finished result) →
      (∀ registries ∈ seen, registries.AreDisjoint) →
        ∃ size, result = .ok (.bytes size) ∧ ∃ registries ∈ seen, registries.Measures addr size
  check : ∀ request transfer side rest seen books act, request.bytes ≠ 0 → request.outside = false →
    (entered (.copy request)).Among setup first seen books (.checking transfer side rest) →
      (∀ registries ∈ seen, registries.AreDisjoint) →
        (checking transfer side rest).act? setup books = some act →
          ∃ during, Checks setup request transfer side rest seen during books ∧
            (Machine.landing (act books).result).JudgesTruly transfer side during

theorem answers_truly (sound : first.registries.AreSound) : AnswersTruly setup first where
  space addr seen books result among disjoint := by
    cases among.seeksSpace disjoint with
    | finished glimpsed located => exact ⟨_, rfl, _, glimpsed, located⟩
  size addr seen books result among disjoint := by
    cases among.seeksSize disjoint with
    | finished glimpsed measured => exact ⟨_, rfl, _, glimpsed, measured⟩
  check request transfer side rest seen books act nonempty own among disjoint acts := by
    have clean : ∀ registries ∈ seen, registries.AreDisjoint ∧ registries.AreSound :=
      fun registries inside => ⟨disjoint registries inside, among.allSound sound registries inside⟩
    obtain ⟨during, inspects⟩ := (among.inspects nonempty own clean).2 transfer side rest rfl
    have positive : transfer.bytes ≠ 0 := by
      rw [← inspects.asked] at nonempty
      exact nonempty
    exact ⟨during, inspects.toChecks, inspects.judges positive clean acts⟩

def answer? : Phase → Option Answer
  | .finished (.ok answer) => some answer
  | _ => none

theorem answer?_eq_some_iff {answer : Answer} :
    phase.answer? = some answer ↔ phase = .finished (.ok answer) := by
  unfold answer?
  split
  next => simp
  next other => exact iff_of_false (by simp) (other answer)

/-- A block of managed memory is allocated, and a query for the space of its address starts. -/
def inquiry : List Move :=
  [.start (.allocate 64 .managed), .advance 0, .grant 0 (.granted ⟨0x1000, by decide⟩), .advance 0,
    .advance 0, .advance 0, .advance 0, .start (.query (.spaceOf 0x1000))]

/-- Once the query has passed device memory over, the block is freed, and its address comes back as
one of device memory before the query looks into the other areas. -/
def relocation : List Move :=
  [.advance 1, .advance 1, .start (.deallocate 0x1000 64 .managed), .advance 2, .advance 2,
    .reply 2 (.granted ()), .advance 2, .advance 2, .advance 2,
    .start (.allocate 16 .device), .advance 3, .grant 3 (.granted ⟨0x1000, by decide⟩), .advance 3,
    .advance 3, .advance 3, .advance 1, .advance 1]

/-- The query answers that no block starts there. That was so in between. -/
theorem relocation_answers_truly : ∃ machine found, Machine.run? (.standard .checked) {}
      (inquiry ++ relocation) = some machine ∧ machine.calls[1]? = some found ∧
    found.phase.answer? = some (.space .invalid) ∧
    ∃ before ∈ relocation.inits, ∃ middle, Machine.run? (.standard .checked) {}
      (inquiry ++ before) = some middle ∧ middle.books.registries.Locates 0x1000 .invalid := by
  have ran : (Machine.run? (.standard .checked) {} (inquiry ++ relocation)).bind
      (fun machine => machine.calls[1]?.bind fun call => call.phase.answer?) =
        some (.space .invalid) := by decide +kernel
  obtain ⟨machine, run, ended⟩ := Option.bind_eq_some_iff.1 ran
  obtain ⟨found, there, answered⟩ := Option.bind_eq_some_iff.1 ended
  have apart : ∀ before ∈ relocation.inits, ∀ middle ∈ Machine.run? (.standard .checked) {}
      (inquiry ++ before), middle.books.registries.AreDisjoint := by decide +kernel
  rw [Machine.run?_append] at run
  obtain ⟨opened, opens, run⟩ := Option.bind_eq_some_iff.1 run
  have goesOn : ∀ before, Machine.run? (.standard .checked) {} (inquiry ++ before) =
      Machine.run? (.standard .checked) opened before := fun before => by
    rw [Machine.run?_append, opens]
    rfl
  have began : (Machine.run? (.standard .checked) {} inquiry).bind
      (fun machine => machine.calls[1]?) = some { command := .query (.spaceOf 0x1000) } := by rfl
  have called : opened.calls[1]? = some { command := .query (.spaceOf 0x1000) } := by
    rwa [opens] at began
  have sound := (Machine.reachable_iff_run?.2 ⟨_, opens⟩).areSound
  obtain ⟨last, seen, found', among, passed⟩ := Machine.among_of_run sound called run
  cases Option.some.inj (there.symm.trans found')
  rw [answer?_eq_some_iff.1 answered] at among
  have disjoint : ∀ registries ∈ seen, registries.AreDisjoint := by
    intro registries inside
    obtain ⟨before, first, middle, reached, rfl⟩ := passed registries inside
    exact apart before first middle ((goesOn before).trans reached)
  obtain ⟨space, same, registries, glimpsed, located⟩ :=
    (answers_truly sound).space 0x1000 seen _ _ among disjoint
  cases same
  obtain ⟨before, first, middle, reached, rfl⟩ := passed registries glimpsed
  exact ⟨machine, found, (goesOn relocation).trans run, there, answered, before, first, middle,
    (goesOn before).trans reached, located⟩

/-- Books with a block of host memory that ends at `2 ^ 64`. -/
def brink : Books where
  registries := .replay [.register .host ⟨0xffffffffffffff00, by decide⟩ 0x100]

def brinkTransfer : Transfer :=
  ⟨⟨0xffffffffffffff00, by decide⟩, ⟨0xffffffffffffff00, by decide⟩, 8, .host, .host⟩

/-- The check of the destination finds the range in no block, though it lies inside a live block at
every instant. -/
theorem brink_misjudged : brink.registries.AreSound ∧ ∃ seen rest act,
    (entered (.copy (brinkTransfer.request false))).Among (.standard .checked) brink seen brink
      (.checking brinkTransfer .destination rest) ∧
    (∀ registries ∈ seen, registries.AreDisjoint ∧ registries.Encloses .host 0xffffffffffffff00 8) ∧
    (checking brinkTransfer .destination rest).act? (.standard .checked) brink = some act ∧
    Machine.landing (act brink).result = .finished (.ok (.verdict false)) := by
  have sound : brink.registries.AreSound :=
    Registries.areSound_empty.apply (.register .host ⟨0xffffffffffffff00, by decide⟩ 0x100)
  have truth : brink.registries.AreDisjoint ∧
      brink.registries.Encloses .host 0xffffffffffffff00 8 :=
    ⟨by decide +kernel, .host, .inl rfl, ⟨0xffffffffffffff00, 0x100⟩, by decide +kernel, by decide⟩
  -- The call enters, and then passes host memory over.
  obtain ⟨enters, acts, entered⟩ : ∃ act,
      (Phase.entered (.copy (brinkTransfer.request false))).act? (.standard .checked) brink =
        some act ∧
      act brink = ⟨.ok (.checking brinkTransfer .destination [.host, .managed]), brink, []⟩ :=
    ⟨_, rfl, rfl⟩
  obtain ⟨passes, goesOn, passed⟩ : ∃ act,
      (Phase.checking brinkTransfer .destination [.host, .managed]).act? (.standard .checked)
        brink = some act ∧
      act brink = ⟨.ok (.checking brinkTransfer .destination [.managed]), brink, []⟩ :=
    ⟨_, rfl, rfl⟩
  have begun := Among.start.step (.alone acts)
  rw [entered] at begun
  have among := begun.step (.alone goesOn)
  rw [passed] at among
  exact ⟨sound, _, _, _, among, by simpa using truth, rfl, rfl⟩

end Phase

end TrackedMemory
