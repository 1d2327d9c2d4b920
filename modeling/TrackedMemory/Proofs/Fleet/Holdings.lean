import Mathlib.Data.Finset.Union
import Mathlib.Data.Nat.Find
import TrackedMemory.Backend.Scripted
import TrackedMemory.Proofs.Fleet.Courses

/-!
# What managers hold and what they give back

A handout is a block that a manager was given. It is held until a free of its address comes back,
with an error or without; a free that breaks off gives nothing back. As long as the backend hands
out no block that is held, the managers have exactly the blocks on record that they hold. So every
free is of a block that its caller holds, with the space and the size that it was given with, and
once all managers were dropped that release their blocks every block was given back exactly once.
-/

namespace TrackedMemory

namespace Fleet

namespace Entry

def granted? : Entry → Option Ptr
  | ⟨_, .alloc _ _, .granted ptr⟩ => ptr
  | _ => none

/-- The address whose free comes back, with an error or without. -/
def returned? : Entry → Option Ptr
  | ⟨_, .free _ ptr _, .granted _⟩ | ⟨_, .free _ ptr _, .refused _⟩ => some ptr
  | _ => none

end Entry

def grantedAt (history : List Entry) (place : Nat) : Option Ptr :=
  history[place]?.bind Entry.granted?

def returnedAt (history : List Entry) (place : Nat) : Option Ptr :=
  history[place]?.bind Entry.returned?

/-- No address is handed out twice without a free of it in between that comes back. -/
def Lawful (history : List Entry) : Prop :=
  ∀ last < history.length, ∀ first < last, ∀ ptr ∈ grantedAt history last,
    grantedAt history first = some ptr →
      ∃ middle < last, first < middle ∧ returnedAt history middle = some ptr

instance (history : List Entry) : Decidable (Lawful history) :=
  inferInstanceAs (Decidable (∀ last < history.length, ∀ first < last, ∀ ptr ∈ _,
    _ = some ptr → ∃ middle < last, first < middle ∧ returnedAt history middle = some ptr))

structure Handout where
  owner : Nat
  space : Space
  ptr : Ptr
  bytes : Size

def Handout.grant (handout : Handout) : Entry :=
  ⟨handout.owner, .alloc handout.space handout.bytes, .granted (some handout.ptr)⟩

def Handout.free (handout : Handout) (reply : Reply (Option Ptr)) : Entry :=
  ⟨handout.owner, .free handout.space handout.ptr handout.bytes, reply⟩

/-- A block is given in a place of a history and not given back later on. -/
structure Holds (history : List Entry) (place : Nat) (handout : Handout) : Prop where
  given : history[place]? = some handout.grant
  kept : ∀ later > place, returnedAt history later ≠ some handout.ptr

/-- Every free is of a block that was given to the same manager, in the same space and with the same
size, and that no free has given back since. -/
def FreesHoldings (history : List Entry) : Prop :=
  ∀ place handout reply, history[place]? = some (Handout.free handout reply) →
    ∃ earlier < place, history[earlier]? = some handout.grant ∧
      ∀ middle, earlier < middle → middle < place → returnedAt history middle ≠ some handout.ptr

/-- The block that is given in one place is given back in another: a free of its address comes back
there, and no block was handed out at that address in between. -/
structure GivesBack (history : List Entry) (place release : Nat) (handout : Handout) : Prop where
  later : place < release
  returned : returnedAt history release = some handout.ptr
  same : ∀ middle, place < middle → middle < release →
    grantedAt history middle ≠ some handout.ptr

/-! ## Histories that grow -/

section History

variable {history : List Entry} {entry : Entry} {place : Nat} {handout : Handout}

theorem grantedAt_concat (history : List Entry) (entry : Entry) (place : Nat) :
    grantedAt (history ++ [entry]) place =
      if place = history.length then entry.granted? else grantedAt history place := by
  rw [grantedAt, getElem?_concat]
  split <;> rfl

theorem returnedAt_concat (history : List Entry) (entry : Entry) (place : Nat) :
    returnedAt (history ++ [entry]) place =
      if place = history.length then entry.returned? else returnedAt history place := by
  rw [returnedAt, getElem?_concat]
  split <;> rfl

theorem grantedAt_eq_some_iff {ptr : Ptr} :
    grantedAt history place = some ptr ↔
      ∃ handout : Handout, handout.ptr = ptr ∧ history[place]? = some handout.grant := by
  rw [grantedAt, Option.bind_eq_some_iff]
  constructor
  · rintro ⟨⟨owner, request, reply⟩, there, granted⟩
    simp only [Entry.granted?] at granted
    split at granted
    next same =>
      cases same
      exact ⟨⟨_, _, ptr, _⟩, rfl, granted ▸ there⟩
    next => cases granted
  · rintro ⟨handout, rfl, there⟩
    exact ⟨_, there, rfl⟩

/-- A block is held after one more call if it was held before and that call does not give it back,
or if that call gives it. -/
theorem holds_concat :
    Holds (history ++ [entry]) place handout ↔
      Holds history place handout ∧ entry.returned? ≠ some handout.ptr ∨
        place = history.length ∧ entry = handout.grant := by
  constructor
  · rintro ⟨given, kept⟩
    rw [getElem?_concat] at given
    split at given
    next last => exact .inr ⟨last, Option.some.inj given⟩
    next =>
      have inside := lt_length_of_getElem? given
      refine .inl ⟨⟨given, fun later after => ?_⟩, ?_⟩
      · have still := kept later after
        rw [returnedAt_concat] at still
        split at still
        next last => simp [returnedAt, last]
        next => exact still
      · have still := kept history.length inside
        rwa [returnedAt_concat, if_pos rfl] at still
  · rintro (⟨⟨given, kept⟩, still⟩ | ⟨rfl, rfl⟩)
    · have inside := lt_length_of_getElem? given
      refine ⟨?_, fun later after => ?_⟩
      · rw [getElem?_concat, if_neg (Nat.ne_of_lt inside)]
        exact given
      · rw [returnedAt_concat]
        split
        · exact still
        · exact kept later after
    · refine ⟨by rw [getElem?_concat, if_pos rfl], fun later after => ?_⟩
      rw [returnedAt_concat, if_neg (Nat.ne_of_gt after), returnedAt,
        List.getElem?_eq_none (Nat.le_of_lt after)]
      simp

theorem grant_injective {first second : Handout} (same : first.grant = second.grant) :
    first = second := by
  cases first
  cases second
  simp_all [Handout.grant]

theorem exists_holds_grant (given : Handout) :
    (∃ place, Holds (history ++ [given.grant]) place handout) ↔
      (∃ place, Holds history place handout) ∨ handout = given := by
  have silent : given.grant.returned? = none := rfl
  simp only [holds_concat, silent, exists_or, exists_eq_left]
  refine or_congr (by simp) ⟨fun same => (grant_injective same).symm, ?_⟩
  rintro rfl
  rfl

theorem exists_holds_free (freed : Handout) {reply : Reply (Option Ptr)}
    (calm : ∀ reason, reply ≠ .raised reason) :
    (∃ place, Holds (history ++ [freed.free reply]) place handout) ↔
      (∃ place, Holds history place handout) ∧ handout.ptr ≠ freed.ptr := by
  have returned : (freed.free reply).returned? = some freed.ptr := by
    cases reply with
    | granted value => rfl
    | refused failure => rfl
    | raised reason => exact absurd rfl (calm reason)
  have other : freed.free reply ≠ handout.grant := fun same =>
    nomatch congrArg Entry.request same
  simp [holds_concat, returned, other, eq_comm]

theorem Lawful.of_concat (lawful : Lawful (history ++ [entry])) : Lawful history := by
  intro last inside first before ptr granted grantedBefore
  have lastOld : last ≠ history.length := Nat.ne_of_lt inside
  have firstOld : first ≠ history.length := Nat.ne_of_lt (Nat.lt_trans before inside)
  obtain ⟨middle, below, above, returned⟩ := lawful last (by simp; omega) first before ptr
    (by rwa [grantedAt_concat, if_neg lastOld]) (by rwa [grantedAt_concat, if_neg firstOld])
  rw [returnedAt_concat, if_neg (Nat.ne_of_lt (Nat.lt_trans below inside))] at returned
  exact ⟨middle, below, above, returned⟩

/-- What is held, the last call of a lawful history does not hand out. -/
theorem Lawful.granted?_ne (lawful : Lawful (history ++ [entry]))
    (holds : Holds history place handout) : entry.granted? ≠ some handout.ptr := by
  intro granted
  have inside := lt_length_of_getElem? holds.given
  have before : grantedAt (history ++ [entry]) place = some handout.ptr := by
    rw [grantedAt_concat, if_neg (Nat.ne_of_lt inside), grantedAt_eq_some_iff]
    exact ⟨handout, rfl, holds.given⟩
  obtain ⟨middle, below, above, returned⟩ := lawful history.length (by simp) place inside
    handout.ptr (by rwa [grantedAt_concat, if_pos rfl]) before
  rw [returnedAt_concat, if_neg (Nat.ne_of_lt below)] at returned
  exact holds.kept middle above returned

theorem Holds.unique (lawful : Lawful history) {other : Nat} {second : Handout}
    (one : Holds history place handout) (two : Holds history other second)
    (same : second.ptr = handout.ptr) : second = handout := by
  have grantedOne : grantedAt history place = some handout.ptr :=
    grantedAt_eq_some_iff.2 ⟨handout, rfl, one.given⟩
  have grantedTwo : grantedAt history other = some handout.ptr :=
    grantedAt_eq_some_iff.2 ⟨second, same, two.given⟩
  rcases Nat.lt_trichotomy place other with before | rfl | after
  · obtain ⟨middle, -, above, returned⟩ := lawful other (lt_length_of_getElem? two.given) place
      before handout.ptr grantedTwo grantedOne
    exact absurd returned (one.kept middle above)
  · exact grant_injective (Option.some.inj (two.given.symm.trans one.given))
  · obtain ⟨middle, -, above, returned⟩ := lawful place (lt_length_of_getElem? one.given) other
      after handout.ptr grantedOne grantedTwo
    exact absurd (same ▸ returned) (two.kept middle above)

/-- Frees stay frees of holdings if the last call frees at most a block that its caller holds. -/
theorem FreesHoldings.concat (frees : FreesHoldings history)
    (last : ∀ handout reply, entry = Handout.free handout reply →
      ∃ place, Holds history place handout) : FreesHoldings (history ++ [entry]) := by
  intro place handout reply there
  rw [getElem?_concat] at there
  split at there
  next here =>
    obtain ⟨earlier, given, kept⟩ := last handout reply (Option.some.inj there)
    have inside := lt_length_of_getElem? given
    refine ⟨earlier, here ▸ inside, ?_, fun middle above below => ?_⟩
    · rw [getElem?_concat, if_neg (Nat.ne_of_lt inside)]
      exact given
    · rw [returnedAt_concat, if_neg (Nat.ne_of_lt (here ▸ below))]
      exact kept middle above
  next =>
    obtain ⟨earlier, before, given, kept⟩ := frees place handout reply there
    have inside := lt_length_of_getElem? there
    refine ⟨earlier, before, ?_, fun middle above below => ?_⟩
    · rw [getElem?_concat, if_neg (Nat.ne_of_lt (Nat.lt_trans before inside))]
      exact given
    · rw [returnedAt_concat, if_neg (Nat.ne_of_lt (Nat.lt_trans below inside))]
      exact kept middle above below

end History

/-! ## Holdings and records -/

def Handout.IsRecordedIn (handout : Handout) (own : Registries) : Prop :=
  ∃ area, handout.space = area.space ∧
    ⟨handout.ptr.addr, handout.bytes⟩ ∈ (own.get area).blocks

def Handout.IsOnRecord (handout : Handout) (registries : List Registries) : Prop :=
  ∃ own, registries[handout.owner]? = some own ∧ handout.IsRecordedIn own

/-- The managers have on record what they hold. -/
def Accounts (history : List Entry) (registries : List Registries) : Prop :=
  ∀ handout, handout.IsOnRecord registries ↔ ∃ place, Holds history place handout

section Records

variable {registries : List Registries} {index : Nat} {own : Registries} {area : Area} {ptr : Ptr}
  {bytes : Size} {handout : Handout}

theorem isRecordedIn_register (absent : (own.get area).contains ptr.addr = false) :
    handout.IsRecordedIn (own.apply (.register area ptr bytes)) ↔
      handout.IsRecordedIn own ∨
        handout.space = area.space ∧ handout.ptr = ptr ∧ handout.bytes = bytes := by
  have listed : ∀ other, ∀ block : Block,
      block ∈ ((own.apply (.register area ptr bytes)).get other).blocks ↔
        block ∈ (own.get other).blocks ∨ other = area ∧ block = ⟨ptr.addr, bytes⟩ := by
    intro other block
    rw [Registries.get_apply_register absent]
    split
    next same =>
      have fresh : ∀ block ∈ (own.get area).blocks,
          block.start ≠ (Block.mk ptr.addr bytes).start := Registry.forall_start_ne absent
      have added := Registry.insertBlock_perm fresh
      simp [Registry.insert, added.mem_iff, same, or_comm]
    next differ => simp [differ]
  simp only [Handout.IsRecordedIn, listed, Block.mk.injEq]
  constructor
  · rintro ⟨other, same, old | ⟨rfl, start, size⟩⟩
    · exact .inl ⟨other, same, old⟩
    · exact .inr ⟨same, Ptr.ext start, size⟩
  · rintro (⟨other, same, old⟩ | ⟨same, rfl, rfl⟩)
    · exact ⟨other, same, .inl old⟩
    · exact ⟨area, same, .inr ⟨rfl, rfl, rfl⟩⟩

theorem isRecordedIn_deregister (sound : own.AreSound)
    (member : ⟨ptr.addr, bytes⟩ ∈ (own.get area).blocks) :
    handout.IsRecordedIn (own.apply (.deregister area ptr)) ↔
      handout.IsRecordedIn own ∧ ¬(handout.space = area.space ∧ handout.ptr = ptr) := by
  have found := (sound area).find?_of_mem member
  have listed : ∀ other, ∀ block : Block,
      block ∈ ((own.apply (.deregister area ptr)).get other).blocks ↔
        block ∈ (own.get other).blocks ∧ ¬(other = area ∧ block.start = ptr.addr) := by
    intro other block
    rw [Registries.get_apply_deregister found]
    split
    next same => simp [Registry.erase, List.mem_filter, same]
    next differ => simp [differ]
  simp only [Handout.IsRecordedIn, listed]
  constructor
  · rintro ⟨other, same, old, kept⟩
    refine ⟨⟨other, same, old⟩, fun both => kept ⟨?_, by rw [both.2]⟩⟩
    exact Area.space_injective (same.symm.trans both.1)
  · rintro ⟨⟨other, same, old⟩, kept⟩
    refine ⟨other, same, old, fun both => kept ⟨?_, Ptr.ext both.2⟩⟩
    rw [same, both.1]

theorem isOnRecord_of_owner (owned : registries[index]? = some own)
    (mine : handout.owner = index) :
    handout.IsOnRecord registries ↔ handout.IsRecordedIn own := by
  simp [Handout.IsOnRecord, mine, owned]

/-- A change of one manager's registries changes what that manager has on record. -/
theorem isOnRecord_set {next : Registries} (owned : registries[index]? = some own) :
    handout.IsOnRecord (registries.set index next) ↔
      if handout.owner = index then handout.IsRecordedIn next
      else handout.IsOnRecord registries := by
  have inside := lt_length_of_getElem? owned
  split
  next mine => exact isOnRecord_of_owner (List.getElem?_set_self inside) mine
  next other => simp [Handout.IsOnRecord, List.getElem?_set_ne (Ne.symm other)]

theorem isOnRecord_register (owned : registries[index]? = some own)
    (absent : (own.get area).contains ptr.addr = false) :
    handout.IsOnRecord (registries.set index (own.apply (.register area ptr bytes))) ↔
      handout.IsOnRecord registries ∨ handout = ⟨index, area.space, ptr, bytes⟩ := by
  obtain ⟨owner, space, here, size⟩ := handout
  rw [isOnRecord_set owned, isRecordedIn_register absent, Handout.mk.injEq]
  by_cases mine : owner = index
  · rw [if_pos mine, isOnRecord_of_owner owned mine]
    simp [mine]
  · simp [mine]

theorem isOnRecord_deregister (owned : registries[index]? = some own) (sound : own.AreSound)
    (member : ⟨ptr.addr, bytes⟩ ∈ (own.get area).blocks) :
    handout.IsOnRecord (registries.set index (own.apply (.deregister area ptr))) ↔
      handout.IsOnRecord registries ∧
        ¬(handout.owner = index ∧ handout.space = area.space ∧ handout.ptr = ptr) := by
  rw [isOnRecord_set owned, isRecordedIn_deregister sound member]
  by_cases mine : handout.owner = index
  · rw [if_pos mine, isOnRecord_of_owner owned mine]
    simp [mine]
  · simp [mine]

variable {history : List Entry}

/-- A call that gives no block and gives none back leaves the holdings as they are. -/
theorem Accounts.concat {entry : Entry} (accounts : Accounts history registries)
    (grants : entry.granted? = none) (returns : entry.returned? = none) :
    Accounts (history ++ [entry]) registries := by
  intro handout
  have other : entry ≠ handout.grant := by
    rintro rfl
    cases grants
  rw [accounts handout]
  simp [holds_concat, returns, other]

theorem Accounts.contains_eq_false (accounts : Accounts history registries)
    (owned : registries[index]? = some own)
    (lawful : Lawful (history ++ [Handout.grant ⟨index, area.space, ptr, bytes⟩])) :
    (own.get area).contains ptr.addr = false := by
  rw [← Bool.not_eq_true, Registry.contains_iff]
  rintro ⟨⟨start, size⟩, member, rfl⟩
  obtain ⟨place, holds⟩ := (accounts ⟨index, area.space, ptr, size⟩).1
    ⟨own, owned, area, rfl, member⟩
  exact lawful.granted?_ne holds rfl

theorem Accounts.register (accounts : Accounts history registries)
    (owned : registries[index]? = some own)
    (lawful : Lawful (history ++ [Handout.grant ⟨index, area.space, ptr, bytes⟩])) :
    Accounts (history ++ [Handout.grant ⟨index, area.space, ptr, bytes⟩])
      (registries.set index (own.apply (.register area ptr bytes))) := by
  intro handout
  rw [isOnRecord_register owned (accounts.contains_eq_false owned lawful), exists_holds_grant,
    accounts handout]

/-- A block that is given back is deregistered, and no other block is held at its address. -/
theorem Accounts.deregister (accounts : Accounts history registries) (lawful : Lawful history)
    (owned : registries[index]? = some own) (sound : own.AreSound)
    (member : ⟨ptr.addr, bytes⟩ ∈ (own.get area).blocks) {reply : Reply (Option Ptr)}
    (calm : ∀ reason, reply ≠ .raised reason) :
    Accounts (history ++ [Handout.free ⟨index, area.space, ptr, bytes⟩ reply])
      (registries.set index (own.apply (.deregister area ptr))) := by
  intro handout
  rw [isOnRecord_deregister owned sound member, exists_holds_free _ calm, accounts handout]
  refine and_congr_right fun ⟨place, holds⟩ => not_congr ⟨fun same => same.2.2, fun same => ?_⟩
  obtain ⟨other, freed⟩ := (accounts ⟨index, area.space, ptr, bytes⟩).1
    ⟨own, owned, area, rfl, member⟩
  have one := freed.unique lawful holds same
  exact ⟨congrArg Handout.owner one, congrArg Handout.space one, same⟩

end Records

/-- Managers that have on record what they hold free only what they hold. -/
theorem exchangesKeep_accounts {β : Type} [Backend β] :
    ExchangesKeep fun history registries (_ : β) => Lawful history →
      Accounts history registries ∧ FreesHoldings history := by
  intro history registries backend index own request reply next after before owned sound genuine
    exchange lawful
  obtain ⟨accounts, frees⟩ := before lawful.of_concat
  have held : ∀ {area ptr bytes}, ⟨ptr.addr, bytes⟩ ∈ (own.get area).blocks →
      ∃ place, Holds history place ⟨index, area.space, ptr, bytes⟩ := fun member =>
    (accounts _).1 ⟨own, owned, _, rfl, member⟩
  cases exchange with
  | granted area bytes ptr positive answered =>
    exact ⟨accounts.register owned lawful, frees.concat nofun⟩
  | @denied _ reply area bytes positive answered nothing =>
    rw [set_own owned]
    refine ⟨accounts.concat ?_ rfl, frees.concat nofun⟩
    cases reply with
    | granted ptr => exact absurd rfl (nothing ptr)
    | refused | raised => rfl
  | @returned _ reply area ptr bytes member answered calm =>
    have returns : ∀ reason, reply.map (fun _ => (none : Option Ptr)) ≠ .raised reason := by
      cases reply with
      | granted | refused => nofun
      | raised reason => exact absurd rfl (calm reason)
    refine ⟨accounts.deregister lawful.of_concat owned sound member returns, frees.concat ?_⟩
    intro handout _ same
    cases handout
    cases same
    exact held member
  | raised area ptr bytes reason member answered =>
    rw [set_own owned]
    refine ⟨accounts.concat rfl rfl, frees.concat ?_⟩
    intro handout _ same
    cases handout
    cases same
    exact held member
  | copied transfer answered =>
    rw [set_own owned]
    exact ⟨accounts.concat rfl rfl, frees.concat nofun⟩

/-! ## Blocks that are given back -/

section GivenBack

variable {history : List Entry} {place release : Nat} {handout : Handout}

theorem returnedAt_eq_some {ptr : Ptr} (returned : returnedAt history release = some ptr) :
    ∃ (freed : Handout) (reply : Reply (Option Ptr)),
      freed.ptr = ptr ∧ history[release]? = some (freed.free reply) := by
  obtain ⟨⟨owner, request, reply⟩, there, returned⟩ := Option.bind_eq_some_iff.1 returned
  cases request with
  | free space freed bytes =>
    have same : freed = ptr := by
      cases reply with
      | granted | refused => exact Option.some.inj returned
      | raised => cases returned
    exact ⟨⟨owner, space, freed, bytes⟩, reply, same, there⟩
  | alloc | copy => cases returned

theorem exists_givesBack (lawful : Lawful history)
    (given : history[place]? = some handout.grant) (gone : ¬Holds history place handout) :
    ∃ release, GivesBack history place release handout := by
  classical
  have returned : ∃ release, place < release ∧ returnedAt history release = some handout.ptr := by
    by_contra none
    exact gone ⟨given, fun later after same => none ⟨later, after, same⟩⟩
  -- The first free of the address that comes back is the one of this block.
  have first := Nat.find_spec returned
  refine ⟨Nat.find returned, first.1, first.2, fun middle after before granted => ?_⟩
  have inside : middle < history.length := by
    obtain ⟨entry, there, -⟩ := Option.bind_eq_some_iff.1 granted
    exact lt_length_of_getElem? there
  obtain ⟨earlier, below, above, sooner⟩ := lawful middle inside place after handout.ptr granted
    (grantedAt_eq_some_iff.2 ⟨handout, rfl, given⟩)
  exact Nat.find_min returned (Nat.lt_trans below before) ⟨above, sooner⟩

theorem GivesBack.le (lawful : Lawful history) (frees : FreesHoldings history)
    (given : history[place]? = some handout.grant) {other : Nat}
    (one : GivesBack history place release handout) (two : GivesBack history place other handout) :
    other ≤ release := by
  by_contra later
  have granted : grantedAt history place = some handout.ptr :=
    grantedAt_eq_some_iff.2 ⟨handout, rfl, given⟩
  obtain ⟨freed, reply, here, there⟩ := returnedAt_eq_some two.returned
  obtain ⟨earlier, before, given', kept⟩ := frees other freed reply there
  rw [here] at kept
  have granted' : grantedAt history earlier = some handout.ptr :=
    grantedAt_eq_some_iff.2 ⟨freed, here, given'⟩
  -- The later free is of a block that was given in this place or before, and kept since.
  rcases Nat.lt_trichotomy earlier place with less | rfl | more
  · obtain ⟨middle, below, above, returned⟩ := lawful place (lt_length_of_getElem? given) earlier
      less handout.ptr granted granted'
    exact kept middle above (Nat.lt_trans below two.later) returned
  · exact kept release one.later (Nat.lt_of_not_le later) one.returned
  · exact two.same earlier more before granted'

end GivenBack

/-! ## Managers that are dropped -/

section Dropped

variable {β : Type} [Backend β] {fleet : Fleet β} {step : Step β} {steps : List (Step β)}

omit [Backend β] in
/-- The backend calls that a step leaves in a trace if it is the end of a manager. -/
def Step.farewells (trace : Trace) : Step β → List Entry
  | .drop owner => Step.entries trace (.drop owner : Step β)
  | .command .. | .adjust _ => []

def farewells (fleet : Fleet β) : List (Step β) → List Entry
  | [] => []
  | step :: rest =>
      step.farewells (fleet.perform step).trace ++ farewells (fleet.perform step).state rest

omit [Backend β] in
/-- Managers that were dropped and were to release their blocks have nothing on record. -/
def AreReleased (fleet : Fleet β) : Prop :=
  ∀ member ∈ fleet.members, member.dropped = true → member.setup.config.releaseBlocks = true →
    ∀ area, (member.books.registries.get area).blocks = []

/-- A step leaves nothing on record with a manager that it drops, unless a free breaks off. -/
theorem AreReleased.perform (released : fleet.AreReleased) (settled : fleet.IsSettled)
    (calm : ∀ entry ∈ step.farewells (fleet.perform step).trace,
      ∀ reason, entry.reply ≠ .raised reason) :
    (fleet.perform step).state.AreReleased := by
  have done := fleet.performs step
  generalize fleet.perform step = outcome at done calm ⊢
  cases done with
  | idle | adjust => exact released
  | command index member command outcome active done =>
    refine forall_mem_set released (fun gone => ?_) index
    exact absurd gone (by simp [(active?_eq_some_iff.1 active).2])
  | drop index member outcome active done =>
    have ends : Site.Releases _ ⟨member.books, fleet.backend⟩ outcome :=
      done ▸ Site.teardown_releases (settled.of_active active) member.setup
    refine forall_mem_set released (fun _ asked area => ?_) index
    simp only at asked
    rw [asked, if_pos rfl] at ends
    refine ends.emptied ?_ area (Area.mem_all area)
    cases result : outcome.result with
    | ok value => rfl
    | error fault =>
      obtain ⟨space, ptr, bytes, reason, -, called⟩ := ends.broken fault result
      exact absurd rfl (calm _ (List.mem_map_of_mem called) reason)

theorem AreReleased.after (released : fleet.AreReleased) (settled : fleet.IsSettled)
    (calm : ∀ entry ∈ fleet.farewells steps, ∀ reason, entry.reply ≠ .raised reason) :
    (fleet.after steps).AreReleased := by
  induction steps generalizing fleet with
  | nil => exact released
  | cons step rest ih =>
    rw [farewells, List.forall_mem_append] at calm
    exact ih (released.perform settled calm.1) (settled.perform step) calm.2

/-- After every run the managers have on record what they hold, and they freed only what they
held. -/
theorem accounts_history (setups : List Setup) (backend : β) (steps : List (Step β))
    (lawful : Lawful ((launch setups backend).history steps)) :
    Accounts ((launch setups backend).history steps)
        ((launch setups backend).after steps).registries ∧
      FreesHoldings ((launch setups backend).history steps) := by
  have start : Accounts [] (launch setups backend).registries := by
    intro handout
    refine iff_of_false ?_ fun ⟨place, holds⟩ => by simpa using holds.given
    rintro ⟨own, owned, area, -, member⟩
    obtain ⟨setup, -, rfl⟩ := by simpa [registries, launch] using owned
    cases area <;> simp [Registries.get] at member
  have none : FreesHoldings [] := by simp [FreesHoldings]
  exact launch_keeps_exchanges exchangesKeep_accounts (fun _ _ _ _ _ holds => holds)
    (fun _ => ⟨start, none⟩) lawful

/-- Managers respect what their backend relies on. If the backend hands out no address that is held,
every free that a manager makes, in a deallocation or when it is dropped, is of a block that it was
given, with the space and the size that it was given with, and that no free has given back since.
Once all managers were dropped that release their blocks, and no free broke off meanwhile, every
block ever given was given back exactly once. -/
theorem history_freesHoldings (setups : List Setup) (backend : β) (steps : List (Step β))
    (lawful : Lawful ((launch setups backend).history steps)) :
    FreesHoldings ((launch setups backend).history steps) ∧
    ((∀ member ∈ ((launch setups backend).after steps).members,
        member.dropped = true ∧ member.setup.config.releaseBlocks = true) →
      (∀ entry ∈ (launch setups backend).farewells steps,
        ∀ reason, entry.reply ≠ .raised reason) →
      ∀ place (handout : Handout),
        ((launch setups backend).history steps)[place]? = some handout.grant →
          ∃! release,
            GivesBack ((launch setups backend).history steps) place release handout) := by
  obtain ⟨accounts, frees⟩ := accounts_history setups backend steps lawful
  refine ⟨frees, fun dropped calm place handout given => ?_⟩
  have fresh : (launch setups backend).AreReleased := by
    intro member inside gone
    obtain ⟨setup, -, rfl⟩ := List.mem_map.1 inside
    cases gone
  have released := fresh.after (isSettled_launch setups backend) calm
  have gone : ¬Holds ((launch setups backend).history steps) place handout := by
    intro holds
    obtain ⟨own, owned, area, -, recorded⟩ := (accounts handout).2 ⟨place, holds⟩
    obtain ⟨member, inside, rfl⟩ := List.mem_map.1 (List.mem_of_getElem? owned)
    obtain ⟨out, asked⟩ := dropped member inside
    simp [released member inside out asked area] at recorded
  obtain ⟨release, gives⟩ := exists_givesBack lawful given gone
  refine ⟨release, gives, fun other also => Nat.le_antisymm ?_ ?_⟩
  · exact gives.le lawful frees given also
  · exact also.le lawful frees given gives

end Dropped

/-- Two managers each allocate a block. A free of the first block breaks off, a second one fails,
and its address is handed to the other manager; then both managers are dropped. -/
def handover : List (Step Scripted) :=
  [.adjust (Scripted.follow [.place ⟨128, by decide⟩, .place ⟨144, by decide⟩, .breakOff "lost",
      .fail (.system "busy"), .place ⟨128, by decide⟩]),
    .command 0 (.allocate 8 .host), .command 1 (.allocate 4 .device),
    .command 1 (.deallocate 128 8 .host), .command 0 (.deallocate 128 8 .host),
    .command 0 (.deallocate 128 2 .host), .command 1 (.allocate 2 .managed),
    .command 0 (.deallocate 128 8 .host), .drop 0, .drop 1]

/-- Every block of the two managers is given back exactly once. -/
theorem handover_freesHoldings :
    let fleet := launch [.standard .checked, .standard .unchecked] ({} : Scripted)
    (fleet.history handover).length = 7 ∧ FreesHoldings (fleet.history handover) ∧
      ∀ place (handout : Handout), (fleet.history handover)[place]? = some handout.grant →
        ∃! release, GivesBack (fleet.history handover) place release handout := by
  intro fleet
  have lawful : Lawful (fleet.history handover) := by decide +kernel
  have dropped : ∀ member ∈ (fleet.after handover).members,
      member.dropped = true ∧ member.setup.config.releaseBlocks = true := by
    have all : (fleet.after handover).members.all (fun member =>
        member.dropped && member.setup.config.releaseBlocks) = true := by decide +kernel
    simpa [List.all_eq_true] using all
  have calm : ∀ entry ∈ fleet.farewells handover, ∀ reason, entry.reply ≠ .raised reason := by
    have all : (fleet.farewells handover).all (fun entry =>
        entry.reply = .granted none) = true := by decide +kernel
    intro entry inside reason raised
    simpa [raised] using List.all_eq_true.1 all entry inside
  have respects := history_freesHoldings [.standard .checked, .standard .unchecked] ({} : Scripted)
    handover lawful
  exact ⟨by decide +kernel, respects.1, respects.2 dropped calm⟩

end Fleet

end TrackedMemory
