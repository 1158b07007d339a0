import RabbitStreamer.Core.IntervalShape
import RabbitStreamer.Lib.Sorting

/-! `CopyIntervalArray`: the smallest intervals are taken by sorting the array itself. -/

namespace RabbitStreamer.Core.IntervalCopy
open RabbitStreamer.Lib.Sorting RabbitStreamer.Core.Struct RabbitStreamer.Core.Interval
open RabbitStreamer.Core.IntervalInvariant

def cmpSize (first second : BlockInterval) : Bool := first.size < second.size

def cmpStart (first second : BlockInterval) : Bool := first.start < second.start

theorem byKey_cmpSize : ByKey cmpSize fun interval => interval.size.toNat := fun first second => by
  rw [cmpSize, decide_eq_true_eq, UInt32.lt_iff_toNat_lt]

theorem byKey_cmpStart : ByKey cmpStart lower := fun first second => by
  rw [cmpStart, decide_eq_true_eq, UInt32.lt_iff_toNat_lt, lower, lower]

def sortArray (sorter : Sorter BlockInterval) (less : BlockInterval → BlockInterval → Bool)
    (order : StrictWeak less) (array : IntervalArray) : IntervalArray :=
  { array with
    intervals := sorter.sort less array.intervals
    fits := by
      rw [(sorter.perm less order array.intervals).length_eq]
      exact array.fits }

@[simp] theorem sortArray_intervals (sorter : Sorter BlockInterval) {less : BlockInterval → BlockInterval → Bool}
    (order : StrictWeak less) (array : IntervalArray) :
    (sortArray sorter less order array).intervals = sorter.sort less array.intervals := rfl

abbrev TargetArray := Nat → BlockInterval

def TargetArray.copy (targetArray : TargetArray) (intervals : List BlockInterval) : TargetArray := fun i =>
  intervals.getD i (targetArray i)

def TargetArray.front (targetArray : TargetArray) (count : Nat) : List BlockInterval :=
  (List.range count).map targetArray

/-- The array is sorted by size and back again; nothing is done where there is no target or no size. -/
def copyIntervalArray (sorter : Sorter BlockInterval) (array : IntervalArray) :
    Option TargetArray → UInt8 → IntervalArray × Option TargetArray × UInt8
  | none, size => (array, none, size)
  | some targetArray, size =>
      if size = 0 then (array, some targetArray, size)
      else if array.intervals.length ≤ size.toNat then
        let size := UInt8.ofNat array.intervals.length
        (array, some (targetArray.copy (array.intervals.take size.toNat)), size)
      else
        let bySize := sortArray sorter cmpSize byKey_cmpSize.strictWeak array
        let targetArray := targetArray.copy (bySize.intervals.take size.toNat)
        let byStart := sortArray sorter cmpStart byKey_cmpStart.strictWeak bySize
        let targetArray := targetArray.copy (sorter.sort cmpStart (targetArray.front size.toNat))
        (byStart, some targetArray, size)

/-- What is copied of the intervals: some of them, in their order, and no larger ones than those left. -/
structure Chosen (copied intervals : List BlockInterval) : Prop where
  among : ∀ interval ∈ copied, interval ∈ intervals
  ascending : copied.Pairwise fun first second => lower first < lower second
  smallest : ∀ interval ∈ copied, ∀ other ∈ intervals, other ∉ copied → interval.size.toNat ≤ other.size.toNat

theorem front_copy (targetArray : TargetArray) {intervals : List BlockInterval} {count : Nat}
    (whole : intervals.length = count) : (targetArray.copy intervals).front count = intervals := by
  subst whole
  apply List.ext_getElem
  · simp [TargetArray.front]
  · intro i left right
    simp [TargetArray.front, TargetArray.copy, right]

theorem ascending_of_wellFormed {intervals : List BlockInterval} (formed : WellFormed intervals) :
    intervals.Pairwise fun first second => lower first < lower second :=
  formed.separated.apart.imp_of_mem fun member _ before =>
    (formed.separated.nonempty _ member).trans before

theorem chosen_whole {intervals : List BlockInterval} (formed : WellFormed intervals) :
    Chosen intervals intervals where
  among := fun _ member => member
  ascending := ascending_of_wellFormed formed
  smallest := fun _ _ _ member absent => absurd member absent

theorem chosen_front (sorter : Sorter BlockInterval) {intervals : List BlockInterval} (formed : WellFormed intervals)
    (count : Nat) : Chosen (sorter.sort cmpStart ((sorter.sort cmpSize intervals).take count)) intervals := by
  have bySize := sorter.perm cmpSize byKey_cmpSize.strictWeak intervals
  have same := sorter.perm cmpStart byKey_cmpStart.strictWeak ((sorter.sort cmpSize intervals).take count)
  constructor
  · intro interval member
    exact bySize.subset (List.mem_of_mem_take (same.subset member))
  · have distinct : (sorter.sort cmpSize intervals).Pairwise fun first second => lower first ≠ lower second :=
      bySize.symm.pairwise ((ascending_of_wellFormed formed).imp ne_of_lt) fun differ => differ.symm
    exact sorter.ascending byKey_cmpStart (distinct.sublist (List.take_sublist ..))
  · intro interval member other present absent
    have behind : other ∈ (sorter.sort cmpSize intervals).drop count := by
      have placed := bySize.symm.subset present
      rw [← List.take_append_drop count (sorter.sort cmpSize intervals)] at placed
      exact (List.mem_append.mp placed).resolve_left fun front => absent (same.symm.subset front)
    exact sorter.take_le byKey_cmpSize intervals count interval (same.subset member) other behind

theorem sortArray_back (sorter : Sorter BlockInterval) {array : IntervalArray} (formed : WellFormed array.intervals) :
    sortArray sorter cmpStart byKey_cmpStart.strictWeak (sortArray sorter cmpSize byKey_cmpSize.strictWeak array) =
      array := by
  have same := sorter.restores byKey_cmpStart (ascending_of_wellFormed formed)
    (sorter.perm cmpSize byKey_cmpSize.strictWeak array.intervals)
  unfold sortArray
  simp only [same]

/-- The array is not changed by what is copied of it, however it is sorted. -/
theorem copy_keeps_array (sorter : Sorter BlockInterval) (array : IntervalArray) (verified : array.verify = true)
    (targetArray : TargetArray) (size : UInt8) (positive : 1 ≤ size.toNat) :
    ∃ target after, copyIntervalArray sorter array (some targetArray) size = (array, some target, after) ∧
      after.toNat = min size.toNat array.intervals.length ∧ Chosen (target.front after.toNat) array.intervals := by
  have formed := verify_iff.mp verified
  have below := size.toNat_lt
  have asked : size ≠ 0 := by
    rintro rfl
    exact absurd positive (by decide)
  unfold copyIntervalArray
  dsimp only
  rw [if_neg asked]
  by_cases whole : array.intervals.length ≤ size.toNat
  · have width : (UInt8.ofNat array.intervals.length).toNat = array.intervals.length := by
      rw [UInt8.toNat_ofNat']
      omega
    rw [if_pos whole]
    refine ⟨_, _, rfl, by rw [width]; omega, ?_⟩
    rw [width, List.take_length, front_copy _ rfl]
    exact chosen_whole formed
  · have length : ((sorter.sort cmpSize array.intervals).take size.toNat).length = size.toNat := by
      rw [List.length_take, (sorter.perm cmpSize byKey_cmpSize.strictWeak _).length_eq]
      omega
    rw [if_neg whole]
    rw [sortArray_back sorter formed]
    refine ⟨_, _, rfl, by omega, ?_⟩
    rw [sortArray_intervals, front_copy _ length, front_copy]
    · exact chosen_front sorter formed size.toNat
    · rw [(sorter.perm cmpStart byKey_cmpStart.strictWeak _).length_eq, length]

def threeIntervals : IntervalArray := ⟨[⟨0, 5⟩, ⟨10, 9⟩, ⟨20, 2⟩], 4, by decide, by decide⟩

theorem copy_keeps_three : ∃ target after, copyIntervalArray (merging BlockInterval) threeIntervals
    (some fun _ => ⟨0, 0⟩) 2 = (threeIntervals, some target, after) ∧
      after.toNat = min (2 : UInt8).toNat threeIntervals.intervals.length ∧
      Chosen (target.front after.toNat) threeIntervals.intervals :=
  copy_keeps_array (merging BlockInterval) threeIntervals (by decide) (fun _ => ⟨0, 0⟩) 2 (by decide)

end RabbitStreamer.Core.IntervalCopy
