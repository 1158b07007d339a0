import Mathlib.Data.List.Basic

/-! The window onto the last `capacity` items of a growing history, and where a ring
of that many slots keeps them. -/

namespace RabbitStreamer.Lib.SlidingWindow

variable {α : Type}

def oldest (capacity count : Nat) : Nat := count - capacity

def serve (capacity : Nat) (history : List α) (position : Nat) : Option α :=
  if oldest capacity history.length ≤ position then history[position]? else none

theorem serve_isSome (capacity : Nat) (history : List α) (position : Nat) :
    (serve capacity history position).isSome ↔
      oldest capacity history.length ≤ position ∧ position < history.length := by
  unfold serve
  split_ifs with inside
  · simp [inside]
  · simp [inside]

def Holds {β : Type} (capacity : Nat) (history : List α) (slots : List β) (stores : β → α → Prop) : Prop :=
  ∀ position item, serve capacity history position = some item →
    ∃ slot, slots[position % capacity]? = some slot ∧ stores slot item

theorem residue_injective {capacity count first second : Nat}
    (firstOld : oldest capacity count ≤ first) (firstNew : first < count)
    (secondOld : oldest capacity count ≤ second) (secondNew : second < count)
    (same : first % capacity = second % capacity) : first = second := by
  unfold oldest at firstOld secondOld
  have firstParts := Nat.div_add_mod first capacity
  have secondParts := Nat.div_add_mod second capacity
  have quotients : first / capacity = second / capacity := by
    by_contra different
    rcases Nat.lt_or_gt_of_ne different with less | more
    · have gap : capacity * (first / capacity + 1) ≤ capacity * (second / capacity) :=
        Nat.mul_le_mul_left capacity less
      rw [Nat.mul_succ] at gap
      omega
    · have gap : capacity * (second / capacity + 1) ≤ capacity * (first / capacity) :=
        Nat.mul_le_mul_left capacity more
      rw [Nat.mul_succ] at gap
      omega
  rw [quotients] at firstParts
  omega

theorem residue_offset {capacity count offset : Nat} (full : capacity ≤ count) (inside : offset < capacity) :
    (oldest capacity count + offset) % capacity =
      if count % capacity + offset < capacity then count % capacity + offset
      else count % capacity + offset - capacity := by
  have below := Nat.mod_lt count (Nat.zero_lt_of_lt inside)
  rw [oldest, Nat.add_mod, ← Nat.mod_eq_sub_mod full, Nat.mod_eq_of_lt inside]
  split_ifs with short
  · exact Nat.mod_eq_of_lt short
  · rw [Nat.mod_eq_sub_mod (Nat.not_lt.mp short)]
    exact Nat.mod_eq_of_lt (by omega)

theorem Holds.push {β : Type} {capacity : Nat} {history : List α} {slots : List β}
    {stores : β → α → Prop} (holds : Holds capacity history slots stores)
    (item : α) (slot : β) (room : history.length % capacity < slots.length) (stored : stores slot item) :
    Holds capacity (history ++ [item]) (slots.set (history.length % capacity) slot) stores := by
  intro position value served
  have inside : oldest capacity (history.length + 1) ≤ position ∧ position < history.length + 1 := by
    have inWindow := (serve_isSome capacity (history ++ [item]) position).mp (by rw [served]; rfl)
    simpa using inWindow
  have read : (history ++ [item])[position]? = some value := by
    have old : oldest capacity (history ++ [item]).length ≤ position := by simpa using inside.1
    simpa only [serve, if_pos old] using served
  by_cases last : position = history.length
  · subst last
    simp only [List.getElem?_concat_length, Option.some.injEq] at read
    exact ⟨slot, by simp [room], read ▸ stored⟩
  · have before : position < history.length := by omega
    rw [List.getElem?_append_left before] at read
    have old : oldest capacity history.length ≤ position := by unfold oldest at inside ⊢; omega
    obtain ⟨kept, found, good⟩ := holds position value (by rw [serve, if_pos old, read])
    have apart : history.length % capacity ≠ position % capacity := fun same =>
      last (residue_injective inside.1 inside.2 (by unfold oldest at inside ⊢; omega)
        (Nat.lt_succ_self _) same.symm)
    exact ⟨kept, by rw [List.getElem?_set_ne apart]; exact found, good⟩

theorem find?_reverse_eq {test : α → Bool} {list : List α} {k : Nat} {item : α} (at_k : list[k]? = some item)
    (hit : test item = true) (later : ∀ (j : Nat) (other : α), k < j → list[j]? = some other → test other = false) :
    list.reverse.find? test = some item := by
  have ⟨inside, same⟩ := List.getElem?_eq_some_iff.mp at_k
  have split : list = list.take k ++ item :: list.drop (k + 1) := by
    rw [← same, ← List.drop_eq_getElem_cons inside, List.take_append_drop]
  have nowhere : (list.drop (k + 1)).reverse.find? test = none := by
    refine List.find?_eq_none.mpr fun other member => ?_
    obtain ⟨j, at_j⟩ := List.getElem?_of_mem (List.mem_reverse.mp member)
    rw [List.getElem?_drop] at at_j
    simp [later (k + 1 + j) other (by omega) at_j]
  rw [split, List.reverse_append, List.reverse_cons, List.append_assoc, List.find?_append, nowhere]
  simp [hit]

end RabbitStreamer.Lib.SlidingWindow
