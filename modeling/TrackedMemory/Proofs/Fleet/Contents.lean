import Mathlib.Logic.Function.Basic
import TrackedMemory.Backend.Arena
import TrackedMemory.Proofs.Copying
import TrackedMemory.Proofs.Fleet.Bytes
import TrackedMemory.Proofs.Memory

/-!
# The contents of live blocks

Over real memory a copy that is accepted moves exactly the bytes that it names: each of its ends
lies inside one live block, and live blocks share no byte. So the flat memory behaves as if each
live block were an array of its own. `Shelf` is that reference: a write and a copy overwrite a part
of one array, and no other array changes. A copy that is turned down changes no byte, and copies
from port to port that all succeed deliver at the last port what was at the first one.
-/

namespace TrackedMemory

/-! ## Backends over real memory -/

/-- Backend whose copies always succeed and move bytes of its host. -/
class MovesMemory (β : Type) {σ : outParam Type} [Backend β] [Hosting β σ] : Prop where
  copy_eq (transfer : Transfer) (backend : β) : Backend.copy transfer backend =
    (.granted (), Hosting.setHost ((Hosting.host backend).move transfer) backend)
  host_setHost (host : Host σ) (backend : β) :
    Hosting.host (Hosting.setHost host backend) = host

instance {σ : Type} [System σ] : MovesMemory (Heap σ) :=
  ⟨fun _ _ => rfl, fun _ _ => rfl⟩

instance {σ : Type} [System σ] : MovesMemory (Pages σ) :=
  ⟨fun _ _ => rfl, fun _ _ => rfl⟩

namespace Site

variable {β σ : Type} [Hosting β σ]

/-- The memory in which the blocks of a manager lie. -/
def memory (site : Site β) : Memory :=
  (Hosting.host site.backend).memory

def editMemory (change : Memory → Memory) (site : Site β) : Site β :=
  let host := Hosting.host site.backend
  { site with
    backend := Hosting.setHost { host with memory := change host.memory } site.backend }

end Site

/-! ## Blocks as arrays -/

/-- Contents of blocks, each an array of its own. -/
abbrev Shelf := Parcel → List UInt8

/-- What is done to the contents of blocks. -/
inductive Edit where
  /-- Bytes are written into a block, from an index on. -/
  | write (parcel : Parcel) (index : Nat) (data : ByteArray)
  | copy (request : CopyRequest)

/-- A write stays inside a live block, and a copy has its ends looked up. -/
def Edit.Fits (registries : Registries) : Edit → Prop
  | .write parcel index data =>
      parcel ∈ registries.parcels ∧ index + data.data.toList.length ≤ parcel.bytes.toNat
  | .copy request => request.outside = false

/-- The live blocks that a range may lie in which is said to lie in a space. -/
def Registries.shelves (registries : Registries) (space : Space) : List Parcel :=
  (Registries.candidates space).flatMap fun area =>
    (registries.get area).blocks.map fun block => ⟨area, block.start, block.size⟩

/-- The live block that a range lies in and that ends below `2 ^ 64`. -/
def Registries.shelf? (registries : Registries) (space : Space) (addr : Addr) (bytes : Size) :
    Option Parcel :=
  (registries.shelves space).find? fun parcel =>
    parcel.block.Contains addr bytes ∧ parcel.block.stop < UInt64.size

namespace Shelf

/-- Overwrites a part of one array. -/
def put (shelf : Shelf) (parcel : Parcel) (index : Nat) (piece : List UInt8) : Shelf :=
  Function.update shelf parcel (Memory.overwrite (shelf parcel) index piece)

def part (shelf : Shelf) (parcel : Parcel) (addr : Addr) (bytes : Size) : List UInt8 :=
  ((shelf parcel).drop (addr.toNat - parcel.start.toNat)).take bytes.toNat

/-- Carries an edit out, and tells whether it was made. -/
def edit (registries : Registries) (shelf : Shelf) : Edit → Bool × Shelf
  | .write parcel index data => (true, shelf.put parcel index data.data.toList)
  | .copy request =>
      if request.bytes = 0 then (true, shelf)
      else match registries.shelf? request.dstSpace request.dst request.bytes,
          registries.shelf? request.srcSpace request.src request.bytes with
        | some dst, some src =>
            (true, shelf.put dst (request.dst.toNat - dst.start.toNat)
              (shelf.part src request.src request.bytes))
        | _, _ => (false, shelf)

def edits (registries : Registries) : List Edit → Shelf → List Bool × Shelf
  | [], shelf => ([], shelf)
  | next :: rest, shelf =>
      let first := shelf.edit registries next
      let others := edits registries rest first.2
      (first.1 :: others.1, others.2)

@[simp] theorem put_nil (shelf : Shelf) (parcel : Parcel) (index : Nat) :
    shelf.put parcel index [] = shelf := by
  rw [put, Memory.overwrite_nil, Function.update_eq_self]

end Shelf

namespace Site

variable {β σ : Type} [Backend β] [Hosting β σ]

def edit (setup : Setup) : Edit → Act (Site β) Bool
  | .write parcel index data => do
      Act.update (editMemory fun memory =>
        memory.write (parcel.start + UInt64.ofNat index) data)
      pure true
  | .copy request => copy setup request

def edits (setup : Setup) : List Edit → Site β → List (Except Fault Bool) × Site β
  | [], site => ([], site)
  | next :: rest, site =>
      let first := edit setup next site
      let others := edits setup rest first.state
      (first.result :: others.1, others.2)

def contents (site : Site β) : Shelf := fun parcel =>
  site.memory.read parcel.start parcel.bytes.toNat

end Site

/-! ## Blocks that lie in memory -/

/-- Live blocks that share no byte, have an address and a size, and end where the addresses end, or
before. -/
structure Registries.AreLaidOut (registries : Registries) : Prop
    extends registries.AreDisjoint where
  sound : registries.AreSound
  genuine : registries.AreGenuine
  stops : ∀ parcel ∈ registries.parcels,
    parcel.start.toNat + parcel.bytes.toNat ≤ UInt64.size

namespace Registries

variable {registries : Registries} {space : Space} {addr : Addr} {bytes : Size} {parcel : Parcel}

theorem mem_shelves : parcel ∈ registries.shelves space ↔
    parcel.area ∈ candidates space ∧ parcel ∈ registries.parcels := by
  obtain ⟨area, start, size⟩ := parcel
  rw [mem_parcels, shelves, List.mem_flatMap]
  constructor
  · rintro ⟨other, candidate, listed⟩
    obtain ⟨block, member, same⟩ := List.mem_map.1 listed
    cases same
    exact ⟨candidate, member⟩
  · rintro ⟨candidate, member⟩
    exact ⟨area, candidate, List.mem_map.2 ⟨⟨start, size⟩, member, rfl⟩⟩

structure LiesIn (registries : Registries) (parcel : Parcel) (addr : Addr) (bytes : Size) :
    Prop where
  live : parcel ∈ registries.parcels
  above : parcel.start.toNat ≤ addr.toNat
  below : addr.toNat + bytes.toNat ≤ parcel.start.toNat + parcel.bytes.toNat

theorem liesIn_of_shelf? (found : registries.shelf? space addr bytes = some parcel) :
    registries.LiesIn parcel addr bytes := by
  have listed := List.mem_of_find?_eq_some found
  have inside := List.find?_some found
  simp only [decide_eq_true_eq] at inside
  exact ⟨(mem_shelves.1 listed).2, inside.1.1, inside.1.2⟩

/-- A range with a byte in it is covered exactly if there is a block for it on the shelves. -/
theorem AreLaidOut.isSome_shelf? (laidOut : registries.AreLaidOut) (positive : bytes ≠ 0) :
    (registries.shelf? space addr bytes).isSome = registries.covers addr bytes space := by
  rw [Bool.eq_iff_iff, shelf?, List.find?_isSome, covers, List.any_eq_true]
  simp only [mem_shelves, decide_eq_true_eq, laidOut.covers_iff laidOut.sound positive]
  constructor
  · rintro ⟨⟨area, start, size⟩, ⟨candidate, live⟩, ⟨above, below⟩, ends⟩
    exact ⟨area, candidate, ⟨start, size⟩, mem_parcels.1 live, ⟨above, below⟩, ends⟩
  · rintro ⟨area, candidate, ⟨start, size⟩, member, ⟨above, below⟩, ends⟩
    exact ⟨⟨area, start, size⟩, ⟨candidate, mem_parcels.2 member⟩, ⟨above, below⟩, ends⟩

theorem AreLaidOut.addr_ne_zero (laidOut : registries.AreLaidOut)
    (lies : registries.LiesIn parcel addr bytes) : addr ≠ 0 := by
  have start := (laidOut.genuine parcel.area _ (mem_parcels.1 lies.live)).1
  have positive : 0 < parcel.start.toNat := Word.toNat_pos start
  intro null
  have above := lies.above
  rw [null, UInt64.toNat_zero] at above
  omega

/-- Every live block reads as its array. -/
def Show (registries : Registries) (memory : Memory) (shelf : Shelf) : Prop :=
  ∀ parcel ∈ registries.parcels, memory.read parcel.start parcel.bytes.toNat = shelf parcel

theorem Show.part_eq {memory : Memory} {shelf : Shelf} (shows : registries.Show memory shelf)
    (lies : registries.LiesIn parcel addr bytes) :
    shelf.part parcel addr bytes = memory.read addr bytes.toNat := by
  have within : addr.toNat - parcel.start.toNat + bytes.toNat ≤ parcel.bytes.toNat := by
    have above := lies.above
    have below := lies.below
    omega
  have read := Memory.take_drop_read memory parcel.start within
  rwa [Memory.add_ofNat_sub lies.above, shows parcel lies.live] at read

/-- A patch of memory inside one live block overwrites a part of its array, and no other array. -/
theorem AreLaidOut.show_put (laidOut : registries.AreLaidOut) {memory after : Memory}
    {shelf : Shelf} {place : Addr} {piece : List UInt8} (shows : registries.Show memory shelf)
    (patches : memory.Patches after place piece) (live : parcel ∈ registries.parcels)
    (above : parcel.start.toNat ≤ place.toNat)
    (below : place.toNat + piece.length ≤ parcel.start.toNat + parcel.bytes.toNat) :
    registries.Show after (shelf.put parcel (place.toNat - parcel.start.toNat) piece) := by
  intro other listed
  by_cases same : other = parcel
  · subst same
    rw [Shelf.put, Function.update_self,
      patches.read_within (laidOut.stops other live) above below, shows other live]
  · have apart := laidOut.apart other listed parcel live same
    simp only [Block.Overlaps, Block.stop, Parcel.block] at apart
    rw [Shelf.put, Function.update_of_ne same,
      patches.read_apart (laidOut.stops other listed) (by omega), shows other listed]

end Registries

/-! ## Copies -/

theorem Books.fits_of_transferOf {books : Books} {request : CopyRequest} {transfer : Transfer}
    (sound : books.registries.AreSound) (own : request.outside = false)
    (accepted : books.transferOf request = .ok transfer) :
    transfer.dst.addr.toNat + transfer.bytes.toNat ≤ UInt64.size := by
  obtain ⟨-, covered⟩ := (transferOf_eq_ok_iff own).1 accepted
  obtain ⟨area, -, block, -, ⟨-, below⟩, ends⟩ :=
    Registries.surrounds_of_covers sound (covered .destination)
  exact Nat.le_of_lt (Nat.lt_of_le_of_lt below ends)

/-- Copies with both ends on the shelves are those that have a transfer. -/
theorem Registries.AreLaidOut.exists_transferOf_iff {books : Books} {request : CopyRequest}
    (laidOut : books.registries.AreLaidOut) (positive : request.bytes ≠ 0)
    (own : request.outside = false) :
    (∃ transfer, books.transferOf request = .ok transfer) ↔
      (books.registries.shelf? request.dstSpace request.dst request.bytes).isSome ∧
        (books.registries.shelf? request.srcSpace request.src request.bytes).isSome := by
  constructor
  · rintro ⟨transfer, accepted⟩
    obtain ⟨rfl, covered⟩ := (Books.transferOf_eq_ok_iff own).1 accepted
    rw [laidOut.isSome_shelf? positive, laidOut.isSome_shelf? positive]
    exact ⟨covered .destination, covered .source⟩
  · rintro ⟨dst, src⟩
    obtain ⟨dstBlock, dstFound⟩ := Option.isSome_iff_exists.1 dst
    obtain ⟨srcBlock, srcFound⟩ := Option.isSome_iff_exists.1 src
    obtain ⟨transfer, same⟩ := CopyRequest.exists_transfer
      (laidOut.addr_ne_zero (liesIn_of_shelf? dstFound))
      (laidOut.addr_ne_zero (liesIn_of_shelf? srcFound))
    rw [own] at same
    subst same
    rw [laidOut.isSome_shelf? positive] at dst src
    refine ⟨transfer, (Books.transferOf_eq_ok_iff own).2 ⟨rfl, fun side => ?_⟩⟩
    cases side with
    | destination => exact dst
    | source => exact src

namespace Site

variable {β σ : Type} [Backend β] [Hosting β σ]

structure MovesBytes (site : Site β) (request : CopyRequest) (outcome : Outcome (Site β) Bool) :
    Prop where
  /-- A copy has an answer. -/
  answered : ∃ copied, outcome.result = .ok copied
  /-- What was read at the source is at the destination, and no other byte has changed. -/
  moved : outcome.result = .ok true →
    site.memory.Patches outcome.state.memory request.dst
      (site.memory.read request.src request.bytes.toNat)
  /-- No byte changes in a copy that is turned down, or of no byte. -/
  spared : outcome.result = .ok false ∨ request.bytes = 0 → outcome.state.memory = site.memory
  registries : outcome.state.books.registries = site.books.registries

variable [MovesMemory β] {setup : Setup} {site : Site β} {request : CopyRequest}
  {transfer : Transfer} {shelf : Shelf} {change : Edit} {changes : List Edit}

theorem copy_made (positive : request.bytes ≠ 0)
    (accepted : site.books.transferOf request = .ok transfer) :
    (copy setup request site).result = .ok true ∧
      (copy setup request site).state.books = site.books ∧
      (copy setup request site).state.memory =
        site.memory.move transfer.dst.addr transfer.src.addr transfer.bytes := by
  rw [copy_granted positive accepted (MovesMemory.copy_eq transfer site.backend)]
  refine ⟨rfl, rfl, ?_⟩
  rw [memory, MovesMemory.host_setHost]
  rfl

/-- A copy for whose ends the caller does not answer moves the bytes that it names, or none. -/
theorem copy_movesBytes (sound : site.books.registries.AreSound) (own : request.outside = false) :
    site.MovesBytes request (copy setup request site) := by
  by_cases positive : request.bytes = 0
  · rw [copy_nothing positive]
    refine ⟨⟨_, rfl⟩, fun _ => ?_, fun _ => rfl, rfl⟩
    rw [positive]
    exact .refl site.memory request.dst
  · cases judged : site.books.transferOf request with
    | error remark =>
      rw [copy_refused positive judged]
      exact ⟨⟨_, rfl⟩, (fun made => nomatch made), fun _ => rfl, rfl⟩
    | ok transfer =>
      obtain ⟨made, books, moved⟩ : (copy setup request site).result = .ok true ∧ _ :=
        copy_made positive judged
      have fits := Books.fits_of_transferOf sound own judged
      obtain ⟨rfl, -⟩ := (Books.transferOf_eq_ok_iff own).1 judged
      refine ⟨⟨_, made⟩, fun _ => ?_, fun spared => ?_, congrArg Books.registries books⟩
      · rw [moved]
        exact Memory.patches_move site.memory transfer.src.addr fits
      · rw [made] at spared
        rcases spared with refused | nothing
        · cases refused
        · exact absurd nothing positive

/-! ## Edits -/

/-- An edit at a manager comes to what it comes to on a shelf. -/
structure Follows (registries : Registries) (answer : Bool × Shelf)
    (outcome : Outcome (Site β) Bool) : Prop where
  result : outcome.result = .ok answer.1
  kept : outcome.state.books.registries = registries
  shows : registries.Show outcome.state.memory answer.2

theorem write_follows {parcel : Parcel} {index : Nat} {data : ByteArray}
    (laidOut : site.books.registries.AreLaidOut)
    (shows : site.books.registries.Show site.memory shelf)
    (fits : (Edit.write parcel index data).Fits site.books.registries) :
    Follows site.books.registries (shelf.edit site.books.registries (.write parcel index data))
      (edit setup (.write parcel index data) site) := by
  obtain ⟨live, within⟩ := fits
  have stops := laidOut.stops parcel live
  have written : (edit setup (.write parcel index data) site).state.memory =
      site.memory.write (parcel.start + UInt64.ofNat index) data := by
    rw [edit, Act.update_bind_apply, Act.pure_apply, editMemory, memory, MovesMemory.host_setHost]
    rfl
  refine ⟨rfl, rfl, ?_⟩
  rw [written, Shelf.edit]
  by_cases nothing : data.data.toList = []
  · -- The place may be the end of the addresses, that is zero, but nothing is written there.
    rw [Memory.write_of_nil _ _ nothing, nothing, Shelf.put_nil]
    exact shows
  · have length := List.length_pos_iff.2 nothing
    have inside : index < parcel.bytes.toNat := by omega
    have place := Memory.toNat_add_ofNat stops inside
    have patches : site.memory.Patches
        (site.memory.write (parcel.start + UInt64.ofNat index) data)
        (parcel.start + UInt64.ofNat index) data.data.toList :=
      Memory.patches_write site.memory (by omega)
    have put := laidOut.show_put shows patches live (by omega) (by omega)
    rwa [place, Nat.add_sub_cancel_left] at put

theorem copy_follows (laidOut : site.books.registries.AreLaidOut)
    (shows : site.books.registries.Show site.memory shelf) (own : request.outside = false) :
    Follows site.books.registries (shelf.edit site.books.registries (.copy request))
      (edit setup (.copy request) site) := by
  rw [edit, Shelf.edit]
  by_cases positive : request.bytes = 0
  · rw [if_pos positive, copy_nothing positive]
    exact ⟨rfl, rfl, shows⟩
  · rw [if_neg positive]
    have found := laidOut.exists_transferOf_iff positive own
    cases judged : site.books.transferOf request with
    | error remark =>
      rw [copy_refused positive judged]
      split
      next dst src dstFound srcFound =>
        rw [judged, dstFound, srcFound] at found
        simp at found
      next => exact ⟨rfl, rfl, shows⟩
    | ok transfer =>
      obtain ⟨dstFound, srcFound⟩ := found.1 ⟨transfer, judged⟩
      obtain ⟨dst, dstFound⟩ := Option.isSome_iff_exists.1 dstFound
      obtain ⟨src, srcFound⟩ := Option.isSome_iff_exists.1 srcFound
      have inDst := Registries.liesIn_of_shelf? dstFound
      have inSrc := Registries.liesIn_of_shelf? srcFound
      obtain ⟨made, books, -⟩ : (copy setup request site).result = .ok true ∧ _ :=
        copy_made positive judged
      have patches := (copy_movesBytes laidOut.sound own).moved made
      rw [← shows.part_eq inSrc] at patches
      rw [dstFound, srcFound]
      refine ⟨made, congrArg Books.registries books,
        laidOut.show_put shows patches inDst.live inDst.above ?_⟩
      rw [shows.part_eq inSrc, Memory.length_read]
      exact inDst.below

theorem edit_follows (laidOut : site.books.registries.AreLaidOut)
    (shows : site.books.registries.Show site.memory shelf)
    (fits : change.Fits site.books.registries) :
    Follows site.books.registries (shelf.edit site.books.registries change)
      (edit setup change site) := by
  cases change with
  | write parcel index data => exact write_follows laidOut shows fits
  | copy request => exact copy_follows laidOut shows fits

/-- After any edits every live block reads as its array, and the answers are those of the shelf. -/
theorem edits_follow (laidOut : site.books.registries.AreLaidOut)
    (shows : site.books.registries.Show site.memory shelf)
    (fits : ∀ change ∈ changes, change.Fits site.books.registries) :
    (edits setup changes site).1 = (shelf.edits site.books.registries changes).1.map .ok ∧
      site.books.registries.Show (edits setup changes site).2.memory
        (shelf.edits site.books.registries changes).2 := by
  induction changes generalizing site shelf with
  | nil => exact ⟨rfl, shows⟩
  | cons next rest ih =>
    obtain ⟨result, kept, shown⟩ : Follows site.books.registries _ (edit setup next site) :=
      edit_follows laidOut shows (fits next List.mem_cons_self)
    rw [← kept] at laidOut shown fits
    obtain ⟨results, last⟩ := ih laidOut shown
      fun change listed => fits change (List.mem_cons_of_mem next listed)
    rw [kept] at results last
    rw [edits, Shelf.edits, List.map_cons, result, results]
    exact ⟨rfl, last⟩

/-! ## Copies one after the other -/

end Site

/-- Where a client says that bytes are: an address, and the space of its block. -/
structure Port where
  addr : Addr
  space : Space

def copiesAlong (bytes : Size) : Port → List Port → List CopyRequest
  | _, [] => []
  | port, next :: rest =>
      ⟨next.addr, port.addr, bytes, next.space, port.space, false⟩ :: copiesAlong bytes next rest

namespace Site

variable {β σ : Type} [Backend β] [Hosting β σ] [MovesMemory β] {setup : Setup} {site : Site β}

/-- Copies that all succeed deliver at the last port what was at the first one. -/
theorem copiesAlong_deliver (sound : site.books.registries.AreSound) {bytes : Size} {port : Port}
    {hops : List Port} (made : ∀ verdict ∈
      (edits setup ((copiesAlong bytes port hops).map .copy) site).1, verdict = .ok true) :
    (edits setup ((copiesAlong bytes port hops).map .copy) site).2.memory.read
        (hops.getLastD port).addr bytes.toNat =
      site.memory.read port.addr bytes.toNat := by
  induction hops generalizing site port with
  | nil => rfl
  | cons next rest ih =>
    have moves : site.MovesBytes _ (copy setup
        ⟨next.addr, port.addr, bytes, next.space, port.space, false⟩ site) :=
      copy_movesBytes sound rfl
    have carried := (moves.moved (made _ List.mem_cons_self)).inside
    rw [Memory.length_read] at carried
    rw [List.getLastD_cons, ← carried]
    exact ih (moves.registries ▸ sound) fun verdict listed =>
      made verdict (List.mem_cons_of_mem _ listed)

structure CopiesFaithfully (setup : Setup) (site : Site β) : Prop where
  moves : ∀ request : CopyRequest, request.outside = false →
    site.MovesBytes request (copy setup request site)
  /-- The memory is like an array for each live block, and edits have the answers of that reference.
  -/
  separates : ∀ changes : List Edit, (∀ change ∈ changes, change.Fits site.books.registries) →
    (edits setup changes site).1 =
        (site.contents.edits site.books.registries changes).1.map .ok ∧
      ∀ parcel ∈ site.books.registries.parcels, (edits setup changes site).2.contents parcel =
        (site.contents.edits site.books.registries changes).2 parcel
  /-- Copies from port to port that all succeed deliver what was at the first port. -/
  delivers : ∀ (bytes : Size) (port : Port) (hops : List Port),
    (∀ verdict ∈ (edits setup ((copiesAlong bytes port hops).map .copy) site).1,
      verdict = .ok true) →
    (edits setup ((copiesAlong bytes port hops).map .copy) site).2.memory.read
        (hops.getLastD port).addr bytes.toNat =
      site.memory.read port.addr bytes.toNat

theorem copiesFaithfully (laidOut : site.books.registries.AreLaidOut) (setup : Setup) :
    site.CopiesFaithfully setup where
  moves _ own := copy_movesBytes laidOut.sound own
  separates _ fits := edits_follow laidOut (fun _ _ => rfl) fits
  delivers _ _ _ made := copiesAlong_deliver laidOut.sound made

end Site

/-! ## Runs of a fleet -/

namespace Fleet

variable {β : Type} [Backend β]

theorem areLaidOut_after (setups : List Setup) (backend : β) (steps : List (Step β))
    (apart : KeepsApart ((launch setups backend).history steps)) :
    ∀ member ∈ ((launch setups backend).after steps).members,
      member.books.registries.AreLaidOut := by
  intro member inside
  have lawful := apart.lawful (isSized_history setups backend steps)
  have accounts := (accounts_history setups backend steps lawful).1
  have settled := (isSettled_launch setups backend).after steps member inside
  obtain ⟨index, owned⟩ := List.getElem?_of_mem
    (List.mem_map_of_mem (f := fun member : Member => member.books.registries) inside)
  refine ⟨areDisjoint accounts apart owned settled.genuine, settled.sound, settled.genuine,
    fun parcel live => ?_⟩
  obtain ⟨start, place, holds⟩ := exists_holds accounts owned settled.genuine live
  exact holds.stops apart

/-- Over real memory whose blocks are kept apart, after every run and whatever the blocks contain,
copies move exactly the bytes that they name. -/
theorem copiesFaithfully_after {σ : Type} [Hosting β σ] [MovesMemory β] (setups : List Setup)
    (backend : β) (steps : List (Step β))
    (apart : KeepsApart ((launch setups backend).history steps)) :
    ∀ member ∈ ((launch setups backend).after steps).members, ∀ (setup : Setup) (now : β),
      Site.CopiesFaithfully setup ⟨member.books, now⟩ :=
  fun member inside setup _ =>
    Site.copiesFaithfully (areLaidOut_after setups backend steps apart member inside) setup

section Staging

variable {σ : Type} [Hosting β σ] {fleet : Fleet β} {stride : Size}

/-- Blocks of host, device, managed and again host memory, and bytes inside the first one. -/
def staging : List (Step β) :=
  [.command 0 (.allocate 16 .host), .command 0 (.allocate 16 .device),
    .command 0 (.allocate 16 .managed), .command 0 (.allocate 16 .host),
    .adjust fun backend =>
      let host := Hosting.host backend
      Hosting.setHost { host with memory := host.memory.write 0x10004 ⟨#[7, 0, 255, 7]⟩ } backend]

/-- The copies that carry these bytes on from block to block, if each block starts a stride after
the one before it. -/
def stages (stride : Size) : List Edit :=
  (copiesAlong 4 ⟨0x10004, .host⟩ [⟨0x10000 + stride, .device⟩, ⟨0x10006 + 2 * stride, .managed⟩,
    ⟨0x1000c + 3 * stride, .host⟩]).map .copy

def Arrives (fleet : Fleet β) (stride : Size) : Prop :=
  ∃ member ∈ fleet.members, (Site.edits (.standard .checked) (stages stride)
    ⟨member.books, fleet.backend⟩).2.memory.read (0x1000c + 3 * stride) 4 = [7, 0, 255, 7]

theorem arrives
    (faithful : ∀ member ∈ fleet.members, ∀ (setup : Setup) (now : β),
      Site.CopiesFaithfully setup ⟨member.books, now⟩)
    (made : ∃ member ∈ fleet.members, ∀ verdict ∈ (Site.edits (.standard .checked) (stages stride)
      ⟨member.books, fleet.backend⟩).1, verdict = .ok true)
    (written : (Hosting.host fleet.backend).memory.read 0x10004 4 = [7, 0, 255, 7]) :
    fleet.Arrives stride := by
  obtain ⟨member, inside, made⟩ := made
  have delivered := (faithful member inside (.standard .checked) fleet.backend).delivers _ _ _ made
  exact ⟨member, inside, delivered.trans written⟩

end Staging

def freshHeap : Heap Arena :=
  ⟨.standard, { system := {} }⟩

def freshPages : Pages Arena :=
  ⟨{ system := {} }⟩

/-- The bytes arrive over a heap and over mapped pages. -/
theorem copiesFaithfully_staging :
    ((launch [.standard .checked] freshHeap).after staging).Arrives 0x100 ∧
      ((launch [.standard .checked] freshPages).after staging).Arrives 0x1000 := by
  constructor
  · have apart : KeepsApart ((launch [.standard .checked] freshHeap).history staging) := by
      decide +kernel
    exact arrives (copiesFaithfully_after [.standard .checked] freshHeap staging apart)
      (by decide +kernel) (by decide +kernel)
  · have apart : KeepsApart ((launch [.standard .checked] freshPages).history staging) := by
      decide +kernel
    exact arrives (copiesFaithfully_after [.standard .checked] freshPages staging apart)
      (by decide +kernel) (by decide +kernel)

end Fleet

end TrackedMemory
