/-!
# Lists that grow and change

Histories, the calls of a machine and the standings of tickets are lists to whose end something is
added, and what was in a place before is there afterwards. What all have in such a list, all have
after one of them is replaced by another that has it.
-/

namespace TrackedMemory

variable {α : Type} {list : List α} {last found : α} {place : Nat}

theorem getElem?_concat (list : List α) (last : α) (place : Nat) :
    (list ++ [last])[place]? = if place = list.length then some last else list[place]? := by
  split
  next here => simp [here]
  next elsewhere =>
    rcases Nat.lt_or_gt_of_ne elsewhere with inside | outside
    · exact List.getElem?_append_left inside
    · rw [List.getElem?_eq_none (by simp; omega), List.getElem?_eq_none (by omega)]

theorem lt_length_of_getElem? (there : list[place]? = some found) : place < list.length :=
  (List.getElem?_eq_some_iff.1 there).1

theorem getElem?_concat_eq_some_iff :
    (list ++ [last])[place]? = some found ↔
      list[place]? = some found ∨ place = list.length ∧ last = found := by
  rw [getElem?_concat]
  split
  next here => simp [here]
  next elsewhere => simp [elsewhere]

theorem forall_mem_set {holds : α → Prop} (old : ∀ found ∈ list, holds found)
    (new : holds last) (place : Nat) : ∀ found ∈ list.set place last, holds found := by
  intro found inside
  rcases List.mem_or_eq_of_mem_set inside with there | rfl
  · exact old found there
  · exact new

end TrackedMemory
