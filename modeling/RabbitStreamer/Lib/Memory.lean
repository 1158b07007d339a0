import RabbitStreamer.Lib.Bytes

/-! A byte-addressed memory: looking at a stretch of it and writing one. -/

namespace RabbitStreamer.Lib
open RabbitStreamer.Lib.Bytes

abbrev Memory := Nat → UInt8

namespace Memory

def view (memory : Memory) (start count : Nat) : List UInt8 :=
  (List.range count).map fun i => memory (start + i)

def write (memory : Memory) (start : Nat) (bytes : List UInt8) : Memory := fun i =>
  if start ≤ i ∧ i < start + bytes.length then bytes.getD (i - start) 0 else memory i

def ofBytes (bytes : List UInt8) : Memory := fun i => bytes.getD i 0

@[simp] theorem view_length (memory : Memory) (start count : Nat) : (view memory start count).length = count := by
  simp [view]

@[simp] theorem view_zero (memory : Memory) (start : Nat) : view memory start 0 = [] := rfl

theorem view_congr {first second : Memory} {start other count : Nat}
    (same : ∀ i, i < count → first (start + i) = second (other + i)) :
    view first start count = view second other count := by
  apply List.map_congr_left
  intro i inside
  exact same i (List.mem_range.mp inside)

theorem view_append (memory : Memory) (start first second : Nat) :
    view memory start (first + second) = view memory start first ++ view memory (start + first) second := by
  unfold view
  rw [List.range_add, List.map_append, List.map_map]
  congr 1
  apply List.map_congr_left
  intro i _
  simp only [Function.comp_apply, Nat.add_assoc]

theorem view_middle {memory : Memory} {start : Nat} {before bytes behind : List UInt8}
    (lies : view memory start (before ++ (bytes ++ behind)).length = before ++ (bytes ++ behind)) :
    view memory (start + before.length) bytes.length = bytes := by
  rw [List.length_append, List.length_append, view_append, view_append] at lies
  have ⟨_, rest⟩ := List.append_inj lies (view_length ..)
  exact (List.append_inj rest (view_length ..)).1

theorem view_ofBytes (before bytes behind : List UInt8) :
    view (ofBytes (before ++ (bytes ++ behind))) before.length bytes.length = bytes := by
  apply List.ext_getElem
  · simp
  · intro i left right
    have present : (before ++ (bytes ++ behind))[before.length + i]? = some bytes[i] := by
      rw [List.getElem?_append_right (Nat.le_add_right ..), Nat.add_sub_cancel_left,
        List.getElem?_append_left right, List.getElem?_eq_getElem right]
    simp only [view, ofBytes, List.getElem_map, List.getElem_range, List.getD_eq_getElem?_getD, present,
      Option.getD_some]

theorem view_write (memory : Memory) (start : Nat) (bytes : List UInt8) :
    view (write memory start bytes) start bytes.length = bytes := by
  apply List.ext_getElem
  · simp
  · intro i left right
    simp [view, write, right]

def intAt (memory : Memory) (offset : Nat) : Int := toInt32 (ofLe32 (view memory offset 4))

theorem isInt32_intAt (memory : Memory) (offset : Nat) : IsInt32 (intAt memory offset) := isInt32_toInt32 _

theorem view_write_before {memory : Memory} {start count place : Nat} (bytes : List UInt8)
    (before : start + count ≤ place) :
    view (write memory place bytes) start count = view memory start count := by
  apply view_congr
  intro i inside
  exact if_neg (by omega)

theorem view_write_behind (memory : Memory) (start count : Nat) (bytes : List UInt8) :
    view (write memory (start + count) bytes) start (count + bytes.length) =
      view memory start count ++ bytes := by
  rw [view_append, view_write_before bytes (Nat.le_refl _), view_write]

theorem view_inside (memory : Memory) {start count width : Nat} (inside : start + count ≤ width) :
    view memory start count = ((view memory 0 width).drop start).take count := by
  obtain ⟨behind, rfl⟩ := Nat.exists_eq_add_of_le inside
  rw [Nat.add_assoc, view_append, List.drop_left' (view_length ..), Nat.zero_add, view_append,
    List.take_left' (view_length ..)]

end Memory

end RabbitStreamer.Lib
