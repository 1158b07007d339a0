import RabbitStreamer.Core.IntervalDeletion

/-! Every operation on an `IntervalArray` keeps its intervals in order, non-empty and apart. -/

namespace RabbitStreamer.Core.IntervalInvariant
open RabbitStreamer.Core.Struct RabbitStreamer.Core.Interval
open RabbitStreamer.Core.Interval.IntervalArray

theorem deleteArray_wellFormed {array another : IntervalArray} (formed : WellFormed array.intervals)
    (other : WellFormed another.intervals) :
    ∃ after, array.deleteArray another = some after ∧ WellFormed after.intervals := by
  unfold deleteArray
  generalize another.intervals = intervals at other
  induction intervals generalizing array with
  | nil => exact ⟨array, rfl, formed⟩
  | cons interval rest ih =>
    obtain ⟨positive, room, _, later⟩ := wellFormed_cons.mp other
    obtain ⟨next, deleted, kept⟩ := delInterval_wellFormed formed positive room
    obtain ⟨after, remaining, last⟩ := ih kept later
    refine ⟨after, ?_, last⟩
    rw [List.foldlM_cons, deleted]
    exact remaining

theorem andOp_room {first second : BlockInterval} (meeting : 0 < (first.andOp second).size) :
    (first.andOp second).start.toNat + (first.andOp second).size.toNat ≤ 4294967295 := by
  unfold BlockInterval.andOp at *
  dsimp only at *
  split_ifs at meeting ⊢ with ordered
  · rw [UInt32.lt_iff_toNat_lt] at ordered
    rw [sub_toNat (Nat.le_of_lt ordered)]
    have below := (min (first.start + first.size) (second.start + second.size)).toNat_lt
    omega
  · exact absurd meeting (by decide)

theorem andOperator_wellFormed (array another result : IntervalArray) :
    WellFormed (array.andOperator another result).intervals := by
  unfold andOperator
  apply List.foldlRecOn (motive := fun result : IntervalArray => WellFormed result.intervals)
  · exact wellFormed_nil
  · intro outer kept theirs _
    apply List.foldlRecOn (motive := fun result : IntervalArray => WellFormed result.intervals)
    · exact kept
    · intro inner keptToo ours _
      dsimp only
      split_ifs with meeting
      · exact wellFormed_addInterval keptToo (andOp_room meeting)
      · exact keptToo

theorem popFront_wellFormed {array : IntervalArray} (formed : WellFormed array.intervals) :
    WellFormed array.popFront.2.intervals := by
  unfold popFront
  cases split : array.intervals with
  | nil =>
    dsimp only
    exact formed
  | cons first rest => exact wellFormed_safeDelete (show array.intervals = [] ++ first :: rest from split) formed

inductive Build where
  | empty
  | add (array : Build) (start size : UInt32)
  | del (array : Build) (start size : UInt32)
  | deleteArray (array another : Build)
  | andOperator (array another result : Build)
  | popFront (array : Build)
  | clear (array : Build)
  | copy (another : Build)
  | assign (array another : Build)

namespace Build

/-- The array; none where a deletion is refused. An assignment is of another object, and what was
there before is gone. -/
def eval : Build → Option IntervalArray
  | empty => some .init
  | add array start size => do
      let array ← array.eval
      pure (array.addInterval start size)
  | del array start size => do
      let array ← array.eval
      array.delInterval start size
  | deleteArray array another => do
      let array ← array.eval
      let another ← another.eval
      array.deleteArray another
  | andOperator array another result => do
      let array ← array.eval
      let another ← another.eval
      let result ← result.eval
      pure (array.andOperator another result)
  | popFront array => do
      let array ← array.eval
      pure array.popFront.2
  | clear array => do
      let array ← array.eval
      pure array.clear
  | copy another => do
      let another ← another.eval
      pure another.copy
  | assign array another => do
      let _ ← array.eval
      let another ← another.eval
      pure another.assign

/-- No addition or deletion goes beyond the last id, and no deletion is of nothing. -/
def InRange : Build → Prop
  | empty => True
  | add array start size => array.InRange ∧ start.toNat + size.toNat ≤ UINT_MAX.toNat
  | del array start size => array.InRange ∧ 0 < size.toNat ∧ start.toNat + size.toNat ≤ UINT_MAX.toNat
  | deleteArray array another => array.InRange ∧ another.InRange
  | andOperator array another result => array.InRange ∧ another.InRange ∧ result.InRange
  | popFront array => array.InRange
  | clear array => array.InRange
  | copy another => another.InRange
  | assign array another => array.InRange ∧ another.InRange

end Build

theorem wellFormed_build {build : Build} (inRange : build.InRange) :
    ∃ array, build.eval = some array ∧ WellFormed array.intervals := by
  induction build with
  | empty => exact ⟨.init, rfl, wellFormed_nil⟩
  | add array start size ih =>
    obtain ⟨before, made, formed⟩ := ih inRange.1
    exact ⟨_, by simp only [Build.eval, made]; rfl, wellFormed_addInterval formed inRange.2⟩
  | del array start size ih =>
    obtain ⟨before, made, formed⟩ := ih inRange.1
    obtain ⟨after, deleted, kept⟩ := delInterval_wellFormed formed inRange.2.1 inRange.2.2
    exact ⟨after, by simp only [Build.eval, made]; exact deleted, kept⟩
  | deleteArray array another ih ihToo =>
    obtain ⟨before, made, formed⟩ := ih inRange.1
    obtain ⟨other, madeToo, formedToo⟩ := ihToo inRange.2
    obtain ⟨after, deleted, kept⟩ := deleteArray_wellFormed formed formedToo
    exact ⟨after, by simp only [Build.eval, made, madeToo]; exact deleted, kept⟩
  | andOperator array another result ih ihToo ihLast =>
    obtain ⟨before, made, _⟩ := ih inRange.1
    obtain ⟨other, madeToo, _⟩ := ihToo inRange.2.1
    obtain ⟨last, madeLast, _⟩ := ihLast inRange.2.2
    exact ⟨_, by simp only [Build.eval, made, madeToo, madeLast]; rfl, andOperator_wellFormed before other last⟩
  | popFront array ih =>
    obtain ⟨before, made, formed⟩ := ih inRange
    exact ⟨_, by simp only [Build.eval, made]; rfl, popFront_wellFormed formed⟩
  | clear array ih =>
    obtain ⟨before, made, _⟩ := ih inRange
    exact ⟨_, by simp only [Build.eval, made]; rfl, wellFormed_nil⟩
  | copy another ih =>
    obtain ⟨other, made, formed⟩ := ih inRange
    exact ⟨_, by simp only [Build.eval, made]; rfl, formed⟩
  | assign array another ih ihToo =>
    obtain ⟨before, made, _⟩ := ih inRange.1
    obtain ⟨other, madeToo, formed⟩ := ihToo inRange.2
    exact ⟨other.assign, by simp only [Build.eval, made, madeToo]; rfl, formed⟩

/-- Whatever was done to it: an array passes `Verify`, which means what it should, and has room
for the intervals in it. -/
theorem built_arrays_verify {build : Build} (inRange : build.InRange) :
    ∃ array, build.eval = some array ∧ array.verify = true ∧ WellFormed array.intervals ∧
      array.intervals.length ≤ array.totalSize := by
  obtain ⟨array, made, formed⟩ := wellFormed_build inRange
  exact ⟨array, made, verify_iff.mpr formed, formed, array.fits⟩

def cutThrough : Build :=
  .andOperator (.del (.add (.add .empty 0 10) 20 5) 3 4) (.deleteArray (.add .empty 2 30) (.add .empty 21 1)) .empty

theorem cut_through_verifies : ∃ array, cutThrough.eval = some array ∧ array.verify = true ∧
    WellFormed array.intervals ∧ array.intervals.length ≤ array.totalSize :=
  built_arrays_verify (show cutThrough.InRange by simp [cutThrough, Build.InRange, UINT_MAX])

example : cutThrough.eval.map IntervalArray.intervals = some [⟨2, 1⟩, ⟨7, 3⟩, ⟨20, 1⟩, ⟨22, 3⟩] := by decide

end RabbitStreamer.Core.IntervalInvariant
