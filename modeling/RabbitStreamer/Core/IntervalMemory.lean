import RabbitStreamer.Core.Interval
import RabbitStreamer.Lib.Transition

/-! The copies that `SafeInsert` makes in memory to put an interval between others. -/

namespace RabbitStreamer.Core.IntervalMemory
open RabbitStreamer.Lib.Transition RabbitStreamer.Core.Struct RabbitStreamer.Core.Interval
open RabbitStreamer.Core.Interval.IntervalArray

/-- A call of `memcpy` from one array to another or inside one, counted in intervals. -/
structure Memcpy where
  inside : Bool
  target : Nat
  source : Nat
  count : Nat
  deriving DecidableEq

namespace Memcpy

def Overlaps (call : Memcpy) : Prop :=
  call.inside = true ∧ ∃ index, (call.source ≤ index ∧ index < call.source + call.count) ∧
    call.target ≤ index ∧ index < call.target + call.count

theorem overlaps_iff {call : Memcpy} : call.Overlaps ↔ call.inside = true ∧ 0 < call.count ∧
    call.target < call.source + call.count ∧ call.source < call.target + call.count := by
  constructor
  · rintro ⟨inside, index, read, written⟩
    exact ⟨inside, by omega, by omega, by omega⟩
  · rintro ⟨inside, counted, left, right⟩
    exact ⟨inside, max call.source call.target, by omega, by omega⟩

instance (call : Memcpy) : Decidable call.Overlaps := decidable_of_iff' _ overlaps_iff

end Memcpy

/-- The calls of `memcpy` in `SafeInsert`: into a new array where the old one is full, else inside it. -/
def copies (array : IntervalArray) (i : Nat) : List Memcpy :=
  let validSize := array.intervals.length
  if validSize = 65535 then []
  else if array.totalSize = validSize then [⟨false, 0, 0, i⟩, ⟨false, i + 1, i, validSize - i⟩]
  else [⟨true, i + 1, i, validSize - i⟩]

/-- The call of `SafeInsert` that an addition makes, if any: the array then, and the place. -/
def addCall (array : IntervalArray) (start size : UInt32) : Nat → Option (IntervalArray × Nat)
  | 0 => none
  | depth + 1 =>
      if start = UINT_MAX then none
      else if size = 0 then none
      else
        match scan start size 0 array.intervals with
        | .insert i => some (array, i)
        | .change _ _ => none
        | .covered => none
        | .again i start size => addCall (array.safeDelete i) start size depth

def delCall (array : IntervalArray) (start size : UInt32) : Nat → Option (IntervalArray × Nat)
  | 0 => none
  | depth + 1 =>
      match cut start size 0 array.intervals with
      | .nothing => none
      | .change _ _ => none
      | .delete _ => none
      | .split i left _ => some (array.set i left, i + 1)
      | .changeAgain i interval => delCall (array.set i interval) start size depth
      | .deleteAgain i => delCall (array.safeDelete i) start size depth

inductive Operation where
  | add (start size : UInt32)
  | del (start size : UInt32)

def step (array : IntervalArray) : Operation → Option IntervalArray
  | .add start size => some (array.addInterval start size)
  | .del start size => array.delInterval start size

def Operation.InRange : Operation → Prop
  | .add start size => start.toNat + size.toNat ≤ UINT_MAX.toNat
  | .del start size => 0 < size.toNat ∧ start.toNat + size.toNat ≤ UINT_MAX.toNat

/-- The call of `SafeInsert` in an operation. -/
def insertCall (array : IntervalArray) : Operation → Option (IntervalArray × Nat)
  | .add start size => addCall array start size (array.intervals.length + 1)
  | .del start size => if size = 0 then none else delCall array start size (array.intervals.length + 1)

theorem addIntervalWithin_call {array : IntervalArray} {start size : UInt32} {depth : Nat}
    {call : IntervalArray × Nat} (made : addCall array start size depth = some call) :
    ∃ interval, array.addIntervalWithin start size depth = call.1.safeInsert call.2 interval := by
  induction depth generalizing array start size with
  | zero => cases made
  | succ depth ih =>
    unfold addCall at made
    unfold addIntervalWithin
    split_ifs at made ⊢
    cases found : scan start size 0 array.intervals with
    | insert i =>
      rw [found] at made
      cases made
      exact ⟨⟨start, size⟩, rfl⟩
    | change i interval =>
      rw [found] at made
      cases made
    | covered =>
      rw [found] at made
      cases made
    | again i first more =>
      rw [found] at made
      exact ih made

theorem delIntervalWithin_call {array : IntervalArray} {start size : UInt32} {depth : Nat}
    {call : IntervalArray × Nat} (made : delCall array start size depth = some call) :
    ∃ interval, array.delIntervalWithin start size depth = call.1.safeInsert call.2 interval := by
  induction depth generalizing array with
  | zero => cases made
  | succ depth ih =>
    unfold delCall at made
    unfold delIntervalWithin
    cases found : cut start size 0 array.intervals with
    | nothing =>
      rw [found] at made
      cases made
    | change i interval =>
      rw [found] at made
      cases made
    | delete i =>
      rw [found] at made
      cases made
    | split i left right =>
      rw [found] at made
      cases made
      exact ⟨right, rfl⟩
    | changeAgain i interval =>
      rw [found] at made
      exact ih made
    | deleteAgain i =>
      rw [found] at made
      exact ih made

theorem step_insertCall {array : IntervalArray} {operation : Operation} {call : IntervalArray × Nat}
    (made : insertCall array operation = some call) :
    ∃ interval, step array operation = some (call.1.safeInsert call.2 interval) := by
  cases operation with
  | add start size =>
    obtain ⟨interval, same⟩ := addIntervalWithin_call made
    exact ⟨interval, congrArg some same⟩
  | del start size =>
    simp only [insertCall, Option.ite_none_left_eq_some] at made
    obtain ⟨positive, made⟩ := made
    obtain ⟨interval, same⟩ := delIntervalWithin_call made
    exact ⟨interval, by rw [step, delInterval, if_neg positive, same]⟩

def Apart (array : IntervalArray) (operation : Operation) : Prop :=
  ∀ call ∈ insertCall array operation, ∀ copy ∈ copies call.1 call.2, ¬copy.Overlaps

/-- `SafeInsert` finds no room to spare, or no two intervals behind the place, or as many intervals as
there can be. -/
def Harmless (array : IntervalArray) (operation : Operation) : Prop :=
  ∀ call ∈ insertCall array operation, call.1.totalSize = call.1.intervals.length ∨
    call.1.intervals.length ≤ call.2 + 1 ∨ call.1.intervals.length = 65535

theorem copies_apart_iff (array : IntervalArray) (i : Nat) : (∀ copy ∈ copies array i, ¬copy.Overlaps) ↔
    array.totalSize = array.intervals.length ∨ array.intervals.length ≤ i + 1 ∨ array.intervals.length = 65535 := by
  unfold copies
  dsimp only
  split_ifs with full new
  · simp [full]
  · simp [new, Memcpy.Overlaps]
  · simp only [List.mem_singleton, forall_eq, Memcpy.overlaps_iff, true_and]
    omega

/-- The copies of `SafeInsert` are apart along a run of additions and deletions just where it never
makes room inside an array that has some, in front of two intervals. -/
theorem copies_apart_along_iff (operations : List Operation) :
    Along step .init operations Apart ↔ Along step .init operations Harmless :=
  along_congr fun _ _ _ _ => forall₂_congr fun _ _ => copies_apart_iff _ _

/-- Three intervals, of which one is deleted, and one put in front of the two that are left. -/
theorem copies_overlap : ¬ ∀ operations : List Operation, (∀ operation ∈ operations, operation.InRange) →
    Along step .init operations Apart := by
  intro apart
  have after := apart [.add 10 1, .add 20 1, .add 30 1, .del 20 1, .add 1 1]
    (by simp [Operation.InRange, UINT_MAX])
    [.add 10 1, .add 20 1, .add 30 1, .del 20 1] (.add 1 1) []
    ⟨[⟨10, 1⟩, ⟨30, 1⟩], 3, by decide, by decide⟩ rfl (by decide)
  exact absurd (after _ rfl ⟨true, 1, 0, 2⟩ (by decide)) (by decide)

end RabbitStreamer.Core.IntervalMemory
