import TrackedMemory.Backend.Arena
import TrackedMemory.Proofs.Manager.Books

/-!
# Layouts of blocks that are handed out and taken back

A backend over real memory checks a size twice, once to hand a block out and once to take it back.
The two checks differ only for a block of no bytes, which is never handed out. So whatever is handed
out has one layout: the range that the system is asked for is the range that it gets back, the block
lies inside it, and the sizes near the ends of the address space neither wrap nor disagree.
-/

namespace TrackedMemory

/-! ## Sizes of mappings -/

namespace Page

variable {bytes length : Size}

/-- A length in whole pages that holds so many bytes, with less than a page to spare. -/
structure Spans (bytes length : Size) : Prop where
  whole : size.toNat ∣ length.toNat
  holds : bytes.toNat ≤ length.toNat
  spare : length.toNat < bytes.toNat + size.toNat

/-- A length spans a size exactly if it is the size rounded up, among the natural numbers. -/
theorem spans_iff : Spans bytes length ↔
    length.toNat = (bytes.toNat + (size.toNat - 1)) / size.toNat * size.toNat := by
  have page : size.toNat = 4096 := rfl
  constructor
  · rintro ⟨whole, holds, spare⟩
    rw [page] at whole spare ⊢
    omega
  · intro rounded
    rw [page] at rounded
    exact ⟨page ▸ by omega, by omega, page ▸ by omega⟩

/-- The mapping for a size spans it, and no other length does. -/
theorem mapped?_eq_some_iff : mapped? bytes = some length ↔ Spans bytes length := by
  rw [spans_iff]
  simp only [mapped?]
  constructor
  · intro found
    split at found
    next fits =>
      cases found
      exact UInt64.toNat_ofNat_of_lt' fits
    next => cases found
  · intro rounded
    rw [← rounded, if_pos length.toNat_lt_size, UInt64.ofNat_toNat]

/-- A size has a mapping unless the next multiple of the page size is no word. -/
theorem exists_spans_iff : (∃ length, Spans bytes length) ↔
    bytes.toNat ≤ UInt64.size - size.toNat := by
  have page : size.toNat = 4096 := rfl
  have words : UInt64.size = 4096 * 4503599627370496 := rfl
  constructor
  · rintro ⟨length, spans⟩
    have rounded := spans_iff.1 spans
    have bound := length.toNat_lt_size
    rw [page] at rounded ⊢
    omega
  · intro small
    rw [page] at small
    have fits : (bytes.toNat + (size.toNat - 1)) / size.toNat * size.toNat < UInt64.size := by
      rw [page]
      omega
    exact ⟨_, spans_iff.2 (UInt64.toNat_ofNat_of_lt' fits)⟩

theorem Spans.eq_zero_iff (spans : Spans bytes length) : length = 0 ↔ bytes = 0 := by
  have rounded := spans_iff.1 spans
  have page : size.toNat = 4096 := rfl
  rw [page] at rounded
  rw [← UInt64.toNat_inj, ← UInt64.toNat_inj (a := bytes), UInt64.toNat_zero]
  omega

theorem length_eq_ok_iff : Page.length bytes = .ok length ↔ mapped? bytes = some length := by
  unfold Page.length
  cases mapped? bytes <;> simp

theorem blockLength_eq_ok_iff : blockLength bytes = .ok length ↔
    bytes ≠ 0 ∧ Page.length bytes = .ok length := by
  rw [length_eq_ok_iff, blockLength]
  cases found : mapped? bytes with
  | none => simp
  | some other =>
    have empty := (mapped?_eq_some_iff.1 found).eq_zero_iff
    by_cases zero : bytes = 0 <;> simp [zero, empty]

end Page

/-! ## The two checks of a size -/

variable {α : Type} {space : Space} {bytes : Size} {layout : Layout} {align : Alignment}

theorem requireValid_bind_eq_ok_iff {rest : Except Failure α} {value : α} :
    (requireValid space >>= fun _ => rest) = .ok value ↔
      space.isValid = true ∧ rest = .ok value := by
  unfold requireValid
  split
  next valid => exact (and_iff_right valid).symm
  next invalid => exact iff_of_false (fun passed => by cases passed) fun both => invalid both.1

theorem Alignment.ofBytes?_eq_ok_iff :
    Alignment.ofBytes? bytes = .ok align ↔ align.bytes = bytes := by
  unfold Alignment.ofBytes?
  constructor
  · intro accepted
    split at accepted <;> cases accepted
    rfl
  · rintro rfl
    exact dif_pos align.isPowerOfTwo

theorem Alignment.layout_eq_ok_iff : align.layout bytes = .ok layout ↔
    bytes.toNat + align.bytes.toNat ≤ Alignment.limit ∧ layout = ⟨bytes, align.bytes⟩ := by
  unfold Alignment.layout
  split
  next fits =>
    rw [Except.ok.injEq, eq_comm]
    exact (and_iff_right fits).symm
  next large => exact iff_of_false (fun passed => by cases passed) fun both => large both.1

namespace Heap

theorem freeLayout_eq_ok_iff : freeLayout align space bytes = .ok layout ↔
    space.isValid = true ∧ bytes.toNat + align.bytes.toNat ≤ Alignment.limit ∧
      layout = ⟨bytes, align.bytes⟩ := by
  rw [freeLayout, requireValid_bind_eq_ok_iff, Alignment.layout_eq_ok_iff]

/-- A heap hands out what it takes back, except for a block of no bytes. -/
theorem allocLayout_eq_ok_iff : allocLayout align space bytes = .ok layout ↔
    bytes ≠ 0 ∧ freeLayout align space bytes = .ok layout := by
  rw [allocLayout, freeLayout, requireValid_bind_eq_ok_iff, requireValid_bind_eq_ok_iff,
    Alignment.blockLayout]
  split
  next empty => simp [empty]
  next positive => exact (and_iff_right positive).symm

end Heap

namespace Pages

variable {length : Size}

theorem freeLength_eq_ok_iff : freeLength space bytes = .ok length ↔
    space.isValid = true ∧ Page.Spans bytes length := by
  rw [freeLength, requireValid_bind_eq_ok_iff, Page.length_eq_ok_iff, Page.mapped?_eq_some_iff]

theorem allocLength_eq_ok_iff : allocLength space bytes = .ok length ↔
    bytes ≠ 0 ∧ freeLength space bytes = .ok length := by
  rw [allocLength, freeLength, requireValid_bind_eq_ok_iff, requireValid_bind_eq_ok_iff,
    Page.blockLength_eq_ok_iff, and_left_comm]

end Pages

/-! ## What becomes of a layout -/

variable {β σ : Type} [System σ]

structure Deals [Backend β] [Hosting β σ] (backend : β) (space : Space) (bytes : Size)
    (layout : Layout) : Prop where
  obtained : (Hosting.host (Backend.alloc space bytes backend).2).system =
    (System.obtain layout (Hosting.host backend).system).2
  /-- A block that is handed out starts where the range does. -/
  placed : ∀ ptr, (Backend.alloc space bytes backend).1 = .granted ptr →
    (System.obtain layout (Hosting.host backend).system).1 = .placed ptr.addr
  /-- A block that is taken back gives a range of the same layout back. -/
  released : ∀ ptr, (Hosting.host (Backend.free space ptr bytes backend).2).system =
    (System.release ptr layout (Hosting.host backend).system).2
  /-- Nobody but the system refuses to take it back. -/
  accepted : ∀ ptr, (Backend.free space ptr bytes backend).1 = .granted () ∨ ∃ reason,
    (System.release ptr layout (Hosting.host backend).system).1 = some reason ∧
      (Backend.free space ptr bytes backend).1 = .refused (.system reason)

/-- Blocks of a kind of backend have the same layout when they are handed out, by the check `given`,
and when they are taken back, by the check `taken`. -/
structure LaysOut [Backend β] [Hosting β σ] (kin : β → Prop)
    (given taken : Space → Size → Except Failure α) (layoutOf : α → Layout) (most : Nat) :
    Prop where
  measured : ∀ space bytes, (∃ found, given space bytes = .ok found) ↔
    space.isValid = true ∧ 0 < bytes.toNat ∧ bytes.toNat ≤ most
  alike : ∀ space bytes found,
    given space bytes = .ok found ↔ bytes ≠ 0 ∧ taken space bytes = .ok found
  /-- The block lies inside its range. -/
  holds : ∀ space bytes found, given space bytes = .ok found →
    bytes.toNat ≤ (layoutOf found).size.toNat
  /-- A block that does not pass is refused, and the system is not asked. -/
  refused : ∀ backend, kin backend → ∀ space bytes failure, given space bytes = .error failure →
    Backend.alloc space bytes backend = (.refused failure, backend)
  deals : ∀ backend, kin backend → ∀ space bytes found, given space bytes = .ok found →
    Deals backend space bytes (layoutOf found)

/-- A block that one backend of a kind handed out is taken back by any other, such as the same one
at a later time: the system gets a range back that is as long as the one that it placed, in which
the block lies, and nobody but the system may refuse. -/
def Reclaims [Backend β] [Hosting β σ] (kin : β → Prop) : Prop :=
  ∀ backend later, kin backend → kin later → ∀ space bytes ptr,
    (Backend.alloc space bytes backend).1 = .granted ptr → ∃ layout : Layout,
      (System.obtain layout (Hosting.host backend).system).1 = .placed ptr.addr ∧
        bytes.toNat ≤ layout.size.toNat ∧ Deals later space bytes layout

theorem LaysOut.reclaims [Backend β] [Hosting β σ] {kin : β → Prop}
    {given taken : Space → Size → Except Failure α} {layoutOf : α → Layout} {most : Nat}
    (lays : LaysOut kin given taken layoutOf most) : Reclaims kin := by
  intro backend later one two space bytes ptr granted
  cases checked : given space bytes with
  | error failure =>
    rw [lays.refused backend one space bytes failure checked] at granted
    cases granted
  | ok found =>
    exact ⟨layoutOf found, (lays.deals backend one space bytes found checked).placed ptr granted,
      lays.holds space bytes found checked, lays.deals later two space bytes found checked⟩

theorem Grant.eq_placed {grant : Grant} {ptr : Ptr} {null exhausted : Failure}
    {denied : String → Failure}
    (granted : (match grant with
      | .placed addr =>
          match Ptr.ofAddr? addr with
          | some start => .granted start
          | none => .refused null
      | .exhausted => .refused exhausted
      | .refused reason => .refused (denied reason)) = Reply.granted ptr) :
    grant = .placed ptr.addr := by
  cases grant with
  | placed addr =>
    cases found : Ptr.ofAddr? addr with
    | none => simp [found] at granted
    | some start =>
      simp only [found, Reply.granted.injEq] at granted
      rw [← Ptr.ofAddr?_eq_some_iff.1 found, granted]
  | exhausted => cases granted
  | refused reason => cases granted

namespace Heap

variable {heap : Heap σ}

theorem deals (measured : allocLayout heap.align space bytes = .ok layout) :
    Deals heap space bytes layout := by
  have taken := (allocLayout_eq_ok_iff.1 measured).2
  have asked : Backend.alloc space bytes heap = alloc space bytes heap := rfl
  have given : ∀ ptr, Backend.free space ptr bytes heap = free space ptr bytes heap :=
    fun _ => rfl
  constructor
  · rw [asked, alloc, measured]
    rfl
  · intro ptr granted
    rw [asked, alloc, measured] at granted
    exact Grant.eq_placed granted
  · intro ptr
    rw [given, free, taken]
    rfl
  · intro ptr
    rw [given, free, taken]
    exact .inl rfl

theorem laysOut (align : Alignment) :
    LaysOut (fun heap : Heap σ => heap.align = align) (allocLayout align) (freeLayout align) id
      (Alignment.limit - align.bytes.toNat) where
  measured space bytes := by
    simp only [allocLayout_eq_ok_iff, freeLayout_eq_ok_iff]
    rw [← UInt64.pos_iff_ne_zero, UInt64.lt_iff_toNat_lt, UInt64.toNat_zero]
    constructor
    · rintro ⟨layout, positive, valid, fits, -⟩
      exact ⟨valid, positive, by omega⟩
    · rintro ⟨valid, positive, small⟩
      exact ⟨_, positive, valid, by omega, rfl⟩
  alike _ _ _ := allocLayout_eq_ok_iff
  holds space bytes layout measured := by
    obtain ⟨-, -, -, rfl⟩ := allocLayout_eq_ok_iff.1 measured |>.imp_right freeLayout_eq_ok_iff.1
    exact Nat.le_refl _
  refused := by
    rintro heap rfl space bytes failure measured
    rw [show Backend.alloc space bytes heap = alloc space bytes heap from rfl, alloc, measured]
  deals := by
    rintro heap rfl space bytes layout measured
    exact deals measured

end Heap

namespace Pages

variable {pages : Pages σ} {length : Size}

theorem deals (measured : allocLength space bytes = .ok length) :
    Deals pages space bytes (Page.layout length) := by
  have taken := (allocLength_eq_ok_iff.1 measured).2
  have asked : Backend.alloc space bytes pages = alloc space bytes pages := rfl
  have given : ∀ ptr, Backend.free space ptr bytes pages = free space ptr bytes pages :=
    fun _ => rfl
  constructor
  · rw [asked, alloc, measured]
    rfl
  · intro ptr granted
    rw [asked, alloc, measured] at granted
    exact Grant.eq_placed granted
  · intro ptr
    rw [given, free, taken]
    rfl
  · intro ptr
    rw [given, free, taken]
    cases refusal : (System.release ptr (Page.layout length) pages.host.system).1 with
    | none => exact .inl (by simp only [refusal])
    | some reason => exact .inr ⟨reason, rfl, by simp only [refusal]⟩

theorem laysOut :
    LaysOut (fun _ : Pages σ => True) allocLength freeLength Page.layout
      (UInt64.size - Page.size.toNat) where
  measured space bytes := by
    simp only [allocLength_eq_ok_iff, freeLength_eq_ok_iff, ← Page.exists_spans_iff]
    rw [← UInt64.pos_iff_ne_zero, UInt64.lt_iff_toNat_lt, UInt64.toNat_zero]
    constructor
    · rintro ⟨length, positive, valid, spans⟩
      exact ⟨valid, positive, length, spans⟩
    · rintro ⟨valid, positive, length, spans⟩
      exact ⟨length, positive, valid, spans⟩
  alike _ _ _ := allocLength_eq_ok_iff
  holds space bytes length measured :=
    (freeLength_eq_ok_iff.1 (allocLength_eq_ok_iff.1 measured).2).2.holds
  refused pages _ space bytes failure measured := by
    rw [show Backend.alloc space bytes pages = alloc space bytes pages from rfl, alloc, measured]
  deals _ _ _ _ _ measured := deals measured

end Pages

/-- Over any system, a heap of any alignment and pages measure every block alike when it is handed
out and when it is taken back. A heap asks for the very size of a block, which is at most half the
address space with the alignment; pages ask for the least number of whole pages that hold it, which
is not zero and does not wrap. So no check refuses a block that was handed out. -/
theorem lays_out_alike {asked : Size} (accepted : Alignment.ofBytes? asked = .ok align) :
    (LaysOut (fun heap : Heap σ => heap.align = align) (Heap.allocLayout align)
        (Heap.freeLayout align) id (Alignment.limit - asked.toNat) ∧
      (∀ space bytes layout, Heap.allocLayout align space bytes = .ok layout →
        layout = ⟨bytes, asked⟩) ∧
      Reclaims fun heap : Heap σ => heap.align = align) ∧
    (LaysOut (fun _ : Pages σ => True) Pages.allocLength Pages.freeLength
        Page.layout (UInt64.size - Page.size.toNat) ∧
      (∀ space bytes length, Pages.allocLength space bytes = .ok length →
        length ≠ 0 ∧ Page.Spans bytes length) ∧
      Reclaims fun _ : Pages σ => True) := by
  cases Alignment.ofBytes?_eq_ok_iff.1 accepted
  refine
    ⟨⟨Heap.laysOut align, fun space bytes layout measured => ?_, (Heap.laysOut align).reclaims⟩,
      Pages.laysOut, fun space bytes length measured => ?_, Pages.laysOut.reclaims⟩
  · exact (Heap.freeLayout_eq_ok_iff.1 (Heap.allocLayout_eq_ok_iff.1 measured).2).2.2
  · obtain ⟨positive, taken⟩ := Pages.allocLength_eq_ok_iff.1 measured
    have spans := (Pages.freeLength_eq_ok_iff.1 taken).2
    exact ⟨fun empty => positive (spans.eq_zero_iff.1 empty), spans⟩

/-- The greatest blocks that are handed out: of a heap whose alignment is a quarter of the address
space, one as large as the alignment; of pages, one of all pages but one. A byte more is refused,
and each is taken back with the layout that it was handed out with. -/
theorem lays_out_alike_brink :
    ∃ align : Alignment, Alignment.ofBytes? 0x4000000000000000 = .ok align ∧
      Heap.freeLayout align .device 0x4000000000000000 =
        .ok ⟨0x4000000000000000, 0x4000000000000000⟩ ∧
      (∀ layout, Heap.allocLayout align .device 0x4000000000000001 ≠ .ok layout) ∧
      Pages.freeLength .device 0xfffffffffffff000 = .ok 0xfffffffffffff000 ∧
      ∀ length, Pages.allocLength .device 0xfffffffffffff001 ≠ .ok length := by
  have accepted : Alignment.ofBytes? 0x4000000000000000 = .ok ⟨0x4000000000000000, by decide⟩ :=
    Alignment.ofBytes?_eq_ok_iff.2 rfl
  obtain ⟨⟨heap, exact, -⟩, pages, spans, -⟩ := lays_out_alike (σ := Arena) accepted
  refine ⟨_, accepted, ?_, fun layout passed => ?_, ?_, fun length passed => ?_⟩
  · obtain ⟨layout, measured⟩ :=
      (heap.measured .device 0x4000000000000000).2 ⟨rfl, by decide, by decide⟩
    rw [← exact _ _ _ measured]
    exact ((heap.alike _ _ _).1 measured).2
  · exact absurd ((heap.measured _ _).1 ⟨layout, passed⟩).2.2 (by decide)
  · obtain ⟨length, measured⟩ :=
      (pages.measured .device 0xfffffffffffff000).2 ⟨rfl, by decide, by decide⟩
    have rounded := Page.spans_iff.1 (spans _ _ _ measured).2
    have whole : length = 0xfffffffffffff000 := UInt64.toNat_inj.1 (rounded.trans (by decide))
    rw [((pages.alike _ _ _).1 measured).2, whole]
  · exact absurd ((pages.measured _ _).1 ⟨length, passed⟩).2.2 (by decide)

end TrackedMemory
