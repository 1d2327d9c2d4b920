import TrackedMemory.Memory

/-!
# Ranges of memory

A write and a move both patch memory: from some place on there is a piece of bytes, and every byte
outside is as it was. What a patch does to a range that holds the place is to overwrite a part of
the bytes read there, as if the range were an array of its own; a range that the patch does not
touch reads as before. The ranges end where the addresses end, or before, so that none of them
wraps.
-/

namespace TrackedMemory

namespace Memory

variable {memory after : Memory} {start place addr dst src : Addr} {bytes : Size}
  {count index : Nat} {piece data : List UInt8}

/-! ## Addresses in a range -/

theorem toNat_add_ofNat (fits : start.toNat + count ≤ UInt64.size) (inside : index < count) :
    (start + UInt64.ofNat index).toNat = start.toNat + index := by
  have small : index < UInt64.size := by omega
  rw [UInt64.toNat_add, UInt64.toNat_ofNat_of_lt' small, Nat.mod_eq_of_lt]
  exact Nat.lt_of_lt_of_le (by omega) fits

theorem offset_eq (above : start.toNat ≤ addr.toNat) :
    offset start addr = addr.toNat - start.toNat :=
  UInt64.toNat_sub_of_le _ _ (UInt64.le_iff_toNat_le.2 above)

theorem offset_lt_iff (fits : start.toNat + count ≤ UInt64.size) :
    offset start addr < count ↔
      start.toNat ≤ addr.toNat ∧ addr.toNat < start.toNat + count := by
  by_cases above : start.toNat ≤ addr.toNat
  · rw [offset_eq above]
    omega
  · -- The offset wraps around, and is not below the length.
    have size : UInt64.size = 2 ^ 64 := rfl
    have bound := start.toNat_lt_size
    rw [offset, UInt64.toNat_sub]
    omega

theorem add_ofNat_sub (above : start.toNat ≤ addr.toNat) :
    start + UInt64.ofNat (addr.toNat - start.toNat) = addr := by
  have bound := addr.toNat_lt_size
  have small : addr.toNat - start.toNat < UInt64.size := by omega
  rw [← UInt64.toNat_inj, UInt64.toNat_add, UInt64.toNat_ofNat_of_lt' small,
    Nat.add_sub_cancel' above]
  exact Nat.mod_eq_of_lt bound

theorem offset_add_ofNat (small : index < UInt64.size) :
    offset start (start + UInt64.ofNat index) = index := by
  have cancelled : start + UInt64.ofNat index - start = UInt64.ofNat index := by
    rw [UInt64.add_comm, UInt64.add_sub_cancel]
  rw [offset, cancelled, UInt64.toNat_ofNat_of_lt' small]

/-! ## Reading -/

@[simp] theorem length_read (memory : Memory) (start : Addr) (count : Nat) :
    (memory.read start count).length = count := by
  simp [read]

theorem getElem?_read (memory : Memory) (start : Addr) (count index : Nat) :
    (memory.read start count)[index]? =
      if index < count then some (memory.byte (start + UInt64.ofNat index)) else none := by
  split
  next inside => simp [read, inside]
  next outside => simp [read, Nat.le_of_not_lt outside]

/-- A part of what is read from a range is what is read from that part. -/
theorem take_drop_read (memory : Memory) (start : Addr) {count first length : Nat}
    (within : first + length ≤ count) :
    ((memory.read start count).drop first).take length =
      memory.read (start + UInt64.ofNat first) length := by
  refine List.ext_getElem? fun index => ?_
  rw [List.getElem?_take, List.getElem?_drop, getElem?_read, getElem?_read]
  by_cases inside : index < length
  · have sum : UInt64.ofNat (first + index) = UInt64.ofNat first + UInt64.ofNat index :=
      UInt64.ofNat_add first index
    rw [if_pos inside, if_pos inside, if_pos (by omega), sum, UInt64.add_assoc]
  · rw [if_neg inside, if_neg inside]

/-! ## Patches -/

def overwrite (data : List UInt8) (index : Nat) (piece : List UInt8) : List UInt8 :=
  data.take index ++ piece ++ data.drop (index + piece.length)

theorem getElem?_overwrite (within : index + piece.length ≤ data.length) (other : Nat) :
    (overwrite data index piece)[other]? =
      if index ≤ other ∧ other < index + piece.length then piece[other - index]?
      else data[other]? := by
  have front : (data.take index).length = index := by
    rw [List.length_take]
    omega
  rw [overwrite, List.append_assoc]
  by_cases before : other < index
  · rw [List.getElem?_append_left (by omega), List.getElem?_take, if_pos before,
      if_neg (by omega)]
  · rw [List.getElem?_append_right (by omega), front]
    by_cases inside : other < index + piece.length
    · rw [List.getElem?_append_left (by omega), if_pos (by omega)]
    · have position : index + piece.length + (other - index - piece.length) = other := by omega
      rw [List.getElem?_append_right (by omega), List.getElem?_drop, position, if_neg (by omega)]

@[simp] theorem overwrite_nil (data : List UInt8) (index : Nat) :
    overwrite data index [] = data := by
  simp [overwrite]

/-- From a place on there is a piece of bytes, and every byte outside is as it was. -/
structure Patches (memory after : Memory) (place : Addr) (piece : List UInt8) : Prop where
  fits : place.toNat + piece.length ≤ UInt64.size
  inside : after.read place piece.length = piece
  outside : ∀ addr : Addr,
    ¬(place.toNat ≤ addr.toNat ∧ addr.toNat < place.toNat + piece.length) →
      after.byte addr = memory.byte addr

theorem byte_write (memory : Memory) (place : Addr) (data : ByteArray) (addr : Addr) :
    (memory.write place data).byte addr =
      (data.data.toList[offset place addr]?).getD (memory.byte addr) := by
  rw [Array.getElem?_toList]
  rfl

theorem write_of_nil (memory : Memory) (place : Addr) {data : ByteArray}
    (nothing : data.data.toList = []) : memory.write place data = memory := by
  refine congrArg Memory.mk (funext fun addr => (byte_write memory place data addr).trans ?_)
  rw [nothing, List.getElem?_nil, Option.getD_none]

theorem byte_move (memory : Memory) (dst src : Addr) (bytes : Size) (addr : Addr) :
    (memory.move dst src bytes).byte addr =
      if addr - dst < bytes then memory.byte (src + (addr - dst)) else memory.byte addr :=
  rfl

theorem patches_write (memory : Memory) {data : ByteArray}
    (fits : place.toNat + data.data.toList.length ≤ UInt64.size) :
    memory.Patches (memory.write place data) place data.data.toList where
  fits := fits
  inside := by
    refine List.ext_getElem? fun index => ?_
    rw [getElem?_read]
    split
    next inside =>
      have small : index < UInt64.size := by omega
      rw [byte_write, offset_add_ofNat small, List.getElem?_eq_getElem inside, Option.getD_some]
    next outside => exact (List.getElem?_eq_none (Nat.le_of_not_lt outside)).symm
  outside addr outside := by
    rw [← offset_lt_iff fits, Nat.not_lt] at outside
    rw [byte_write, List.getElem?_eq_none outside, Option.getD_none]

/-- What a move leaves at its destination is what was read at its source, even if both overlap. -/
theorem patches_move (memory : Memory) (src : Addr)
    (fits : dst.toNat + bytes.toNat ≤ UInt64.size) :
    memory.Patches (memory.move dst src bytes) dst (memory.read src bytes.toNat) where
  fits := by rwa [length_read]
  inside := by
    rw [length_read]
    refine List.ext_getElem? fun index => ?_
    rw [getElem?_read, getElem?_read]
    split
    next inside =>
      have small : index < UInt64.size := by omega
      have back : dst + UInt64.ofNat index - dst = UInt64.ofNat index := by
        rw [UInt64.add_comm, UInt64.add_sub_cancel]
      have near : UInt64.ofNat index < bytes := by
        rwa [UInt64.lt_iff_toNat_lt, UInt64.toNat_ofNat_of_lt' small]
      rw [byte_move, back, if_pos near]
    next => rfl
  outside addr outside := by
    rw [length_read, ← offset_lt_iff fits, offset, ← UInt64.lt_iff_toNat_lt] at outside
    exact if_neg outside

namespace Patches

theorem refl (memory : Memory) (place : Addr) : memory.Patches memory place [] where
  fits := Nat.le_of_lt place.toNat_lt_size
  inside := rfl
  outside _ _ := rfl

variable (patches : memory.Patches after place piece)
include patches

theorem read_apart (fits : start.toNat + count ≤ UInt64.size)
    (apart : start.toNat + count ≤ place.toNat ∨ place.toNat + piece.length ≤ start.toNat) :
    after.read start count = memory.read start count := by
  refine List.ext_getElem? fun index => ?_
  rw [getElem?_read, getElem?_read]
  split
  next inside =>
    have address := toNat_add_ofNat fits inside
    rw [patches.outside _ (by omega)]
  next => rfl

/-- In a range that holds its place, a patch overwrites a part of what is read. -/
theorem read_within (fits : start.toNat + count ≤ UInt64.size) (above : start.toNat ≤ place.toNat)
    (below : place.toNat + piece.length ≤ start.toNat + count) :
    after.read start count =
      overwrite (memory.read start count) (place.toNat - start.toNat) piece := by
  refine List.ext_getElem? fun index => ?_
  rw [getElem?_overwrite (by rw [length_read]; omega), getElem?_read, getElem?_read]
  by_cases inside : index < count
  · have address := toNat_add_ofNat fits inside
    rw [if_pos inside, if_pos inside]
    split
    next touched =>
      -- The byte is one of the piece.
      have position : index - (place.toNat - start.toNat) < piece.length := by omega
      have same : start + UInt64.ofNat index =
          place + UInt64.ofNat (index - (place.toNat - start.toNat)) := by
        rw [← UInt64.toNat_inj, address, toNat_add_ofNat patches.fits position]
        omega
      have found := getElem?_read after place piece.length (index - (place.toNat - start.toNat))
      rw [patches.inside, if_pos position] at found
      rw [same, found]
    next untouched => rw [patches.outside _ (by omega)]
  · rw [if_neg inside, if_neg inside, if_neg (by omega)]

end Patches

end Memory

end TrackedMemory
