import RabbitStreamer.Core.Struct

/-! `IntervalArray`: the blocks a peer has, as intervals in an array that grows one at a time. -/

namespace RabbitStreamer.Core.Interval
open RabbitStreamer.Core.Struct

/-- The intervals in use and the number there is room for. Moving them inside the array is
an element-wise move, also where `SafeInsert` calls `memcpy` for it. -/
structure IntervalArray where
  intervals : List BlockInterval
  totalSize : Nat
  fits : intervals.length ≤ totalSize
  small : totalSize ≤ 65535
  deriving DecidableEq

namespace IntervalArray

/-- Also the array after `memset` over it. -/
def init : IntervalArray := ⟨[], 0, Nat.le_refl _, by decide⟩

/-- `SafeInsert`: a full array stays as it is. -/
def safeInsert (array : IntervalArray) (i : Nat) (interval : BlockInterval) : IntervalArray :=
  if full : array.intervals.length = 65535 then array
  else
    ⟨array.intervals.insertIdx i interval,
      if array.totalSize = array.intervals.length then array.totalSize + 1 else array.totalSize,
      by
        have fits := array.fits
        rw [List.length_insertIdx]
        split_ifs <;> omega,
      by
        have fits := array.fits
        have small := array.small
        split_ifs <;> omega⟩

def safeDelete (array : IntervalArray) (i : Nat) : IntervalArray :=
  { array with
    intervals := array.intervals.eraseIdx i
    fits := Nat.le_trans (List.length_eraseIdx_le ..) array.fits }

def set (array : IntervalArray) (i : Nat) (interval : BlockInterval) : IntervalArray :=
  { array with
    intervals := array.intervals.set i interval
    fits := by rw [List.length_set]; exact array.fits }

/-- `operator=`: room for just the intervals of the other array. -/
def assign (another : IntervalArray) : IntervalArray :=
  ⟨another.intervals, another.intervals.length, Nat.le_refl _, Nat.le_trans another.fits another.small⟩

/-- What the loop of `AddInterval` finds to do: put the new interval in, change one interval,
nothing, or delete one and start over. -/
inductive Scan where
  | insert (i : Nat)
  | change (i : Nat) (interval : BlockInterval)
  | covered
  | again (i : Nat) (start size : UInt32)
  deriving DecidableEq

/-- The loop of `AddInterval` from an index on; the sums are `uint32_t` and wrap around. -/
def scan (start size : UInt32) : Nat → List BlockInterval → Scan
  | i, [] => .insert i
  | i, interval :: rest =>
      if start < interval.start then
        if start + size < interval.start then .insert i
        else if start + size ≤ interval.start + interval.size then
          .change i ⟨start, interval.size + (interval.start - start)⟩
        else .again i start size
      else if start ≤ interval.start + interval.size then
        if start + size ≤ interval.start + interval.size then .covered
        else
          match rest with
          | [] => .change i ⟨interval.start, start + size - interval.start⟩
          | next :: _ =>
              if start + size < next.start then .change i ⟨interval.start, start + size - interval.start⟩
              else .again i interval.start (size + (start - interval.start))
      else scan start size (i + 1) rest

/-- `AddInterval`, calling itself again no more than `depth` times. -/
def addIntervalWithin (array : IntervalArray) (start size : UInt32) : Nat → IntervalArray
  | 0 => array
  | depth + 1 =>
      if start = UINT_MAX then array
      else if size = 0 then array
      else
        match scan start size 0 array.intervals with
        | .insert i => array.safeInsert i ⟨start, size⟩
        | .change i interval => array.set i interval
        | .covered => array
        | .again i start size => (array.safeDelete i).addIntervalWithin start size depth

def addInterval (array : IntervalArray) (start size : UInt32) : IntervalArray :=
  array.addIntervalWithin start size (array.intervals.length + 1)

def findBlock (array : IntervalArray) (blockID : UInt32) : Bool := find array.intervals
where
  find : List BlockInterval → Bool
    | [] => false
    | interval :: rest =>
        if blockID < interval.start then false
        else if blockID < interval.start + interval.size then true
        else find rest

/-- What the loop of `DelInterval` finds to do: nothing, change one interval, delete one, cut one
in two, or change or delete one and start over. -/
inductive Cut where
  | nothing
  | change (i : Nat) (interval : BlockInterval)
  | delete (i : Nat)
  | split (i : Nat) (left right : BlockInterval)
  | changeAgain (i : Nat) (interval : BlockInterval)
  | deleteAgain (i : Nat)
  deriving DecidableEq

/-- The loop of `DelInterval` from an index on. -/
def cut (start size : UInt32) : Nat → List BlockInterval → Cut
  | _, [] => .nothing
  | i, interval :: rest =>
      if start < interval.start then
        if start + size < interval.start then .nothing
        else if start + size < interval.start + interval.size then
          .change i ⟨start + size, interval.start + interval.size - (start + size)⟩
        else .deleteAgain i
      else if start < interval.start + interval.size then
        let oldSize := interval.size
        let left : BlockInterval := if interval.start ≠ start then
          ⟨interval.start, start - interval.start⟩ else interval
        if left.start + oldSize ≤ start + size then
          if left.start ≠ start then .changeAgain i left else .delete i
        else if left.start = start then .change i ⟨start + size, left.size - (start + size - left.start)⟩
        else .split i left ⟨start + size, left.start + oldSize - (start + size)⟩
      else cut start size (i + 1) rest

/-- `DelInterval` for a size that is not zero, calling itself again no more than `depth` times. -/
def delIntervalWithin (array : IntervalArray) (start size : UInt32) : Nat → IntervalArray
  | 0 => array
  | depth + 1 =>
      match cut start size 0 array.intervals with
      | .nothing => array
      | .change i interval => array.set i interval
      | .delete i => array.safeDelete i
      | .split i left right => (array.set i left).safeInsert (i + 1) right
      | .changeAgain i interval => (array.set i interval).delIntervalWithin start size depth
      | .deleteAgain i => (array.safeDelete i).delIntervalWithin start size depth

/-- None where the size is asserted not to be zero. Each call but the last deletes an interval or
cuts the one that reaches into what is deleted. -/
def delInterval (array : IntervalArray) (start size : UInt32) : Option IntervalArray :=
  if size = 0 then none else some (array.delIntervalWithin start size (array.intervals.length + 1))

/-- `DeleteArray` of another object. -/
def deleteArray (array another : IntervalArray) : Option IntervalArray :=
  another.intervals.foldlM (fun array interval => array.delInterval interval.start interval.size) array

def clear (array : IntervalArray) : IntervalArray := { array with intervals := [], fits := Nat.zero_le _ }

/-- `AndOperator` into an object that is neither of the two. -/
def andOperator (array another result : IntervalArray) : IntervalArray :=
  another.intervals.foldl (fun result theirs => array.intervals.foldl (fun result ours =>
    let temp := ours.andOp theirs
    if 0 < temp.size then result.addInterval temp.start temp.size else result) result) result.clear

def popFront (array : IntervalArray) : BlockInterval × IntervalArray :=
  match array.intervals with
  | [] => (⟨0, 0⟩, array)
  | first :: _ => (first, array.safeDelete 0)

def copy (another : IntervalArray) : IntervalArray :=
  ⟨another.intervals, another.totalSize, another.fits, another.small⟩

def image (array : IntervalArray) : List UInt8 := array.intervals.flatMap BlockInterval.toBytes

/-- `operator==`: as many intervals, and `memcmp` finds the same bytes. -/
def same (array another : IntervalArray) : Bool :=
  array.intervals.length = another.intervals.length && array.image = another.image

/-- `GetCountInInterval`; what is asked for ends at the last id. -/
def getCountInInterval (array : IntervalArray) (blockID len : UInt32) : UInt32 := total array.intervals
where
  total (intervals : List BlockInterval) : UInt32 :=
    intervals.foldl (fun total interval => total + (interval.andOp ⟨blockID, min len (UINT_MAX - blockID)⟩).size) 0

def getContinousCount (array : IntervalArray) (blockID : UInt32) : UInt32 := count array.intervals
where
  count : List BlockInterval → UInt32
    | [] => 0
    | interval :: rest =>
        if blockID < interval.start then 0
        else if blockID < interval.start + interval.size then interval.start + interval.size - blockID
        else count rest

def isEmpty (array : IntervalArray) : Bool := array.intervals.length = 0

def getMaxBlockID (array : IntervalArray) : UInt32 :=
  match array.intervals.getLast? with
  | some last => last.start + last.size
  | none => 0

def getMinBlockID (array : IntervalArray) : UInt32 :=
  match array.intervals with
  | first :: _ => first.start
  | [] => UINT_MAX

def getValidSize (array : IntervalArray) : Nat := array.intervals.length

def verify (array : IntervalArray) : Bool := check array.intervals
where
  check : List BlockInterval → Bool
    | [] => true
    | interval :: rest =>
        if interval.size = 0 then false
        else if UINT_MAX - interval.start < interval.size then false
        else
          match rest with
          | [] => true
          | next :: _ => if next.start ≤ interval.start + interval.size then false else check rest

end IntervalArray

/-- A block lies in an interval, as `FindBlock` tests it: with an end that wraps around. -/
def Holds (interval : BlockInterval) (blockID : UInt32) : Prop :=
  interval.start ≤ blockID ∧ blockID < interval.start + interval.size

open IntervalArray

theorem holds_iff (interval : BlockInterval) (blockID : UInt32) : Holds interval blockID ↔
    interval.start.toNat ≤ blockID.toNat ∧
      blockID.toNat < (interval.start.toNat + interval.size.toNat) % 4294967296 := by
  simp [Holds, UInt32.le_iff_toNat_le, UInt32.lt_iff_toNat_lt]

theorem holds_of_findBlock {array : IntervalArray} {blockID : UInt32} (found : array.findBlock blockID = true) :
    ∃ interval ∈ array.intervals, Holds interval blockID := by
  unfold findBlock at found
  generalize array.intervals = intervals at found ⊢
  induction intervals with
  | nil => simp [findBlock.find] at found
  | cons interval rest ih =>
    unfold findBlock.find at found
    split_ifs at found with before inside
    · exact ⟨interval, List.mem_cons_self .., UInt32.not_lt.mp before, inside⟩
    · obtain ⟨other, member, holds⟩ := ih found
      exact ⟨other, List.mem_cons_of_mem _ member, holds⟩

theorem holds_front {start size : UInt32} {interval : BlockInterval}
    (reaches : ¬start + size < interval.start) {blockID : UInt32}
    (holds : Holds ⟨start, interval.size + (interval.start - start)⟩ blockID) :
    Holds interval blockID ∨ Holds ⟨start, size⟩ blockID := by
  simp only [holds_iff, UInt32.lt_iff_toNat_lt, UInt32.toNat_add, UInt32.toNat_sub] at reaches holds ⊢
  have first := interval.start.toNat_lt
  have second := interval.size.toNat_lt
  omega

theorem holds_back {start size : UInt32} {interval : BlockInterval}
    (touches : start ≤ interval.start + interval.size) {total : UInt32} (ends : interval.start + total = start + size)
    {blockID : UInt32} (holds : Holds ⟨interval.start, total⟩ blockID) :
    Holds interval blockID ∨ Holds ⟨start, size⟩ blockID := by
  unfold Holds at *
  simp only [ends] at holds
  by_cases inside : blockID < interval.start + interval.size
  · exact Or.inl ⟨holds.1, inside⟩
  · exact Or.inr ⟨UInt32.le_trans touches (UInt32.not_lt.mp inside), holds.2⟩

theorem scan_holds {start size : UInt32} {i : Nat} {intervals : List BlockInterval} {j : Nat} (next : BlockInterval)
    (found : scan start size i intervals = .change j next ∨
      scan start size i intervals = .again j next.start next.size) {blockID : UInt32} (holds : Holds next blockID) :
    (∃ interval ∈ intervals, Holds interval blockID) ∨ Holds ⟨start, size⟩ blockID := by
  induction intervals generalizing i with
  | nil => simp [scan] at found
  | cons interval rest ih =>
    have grown : Holds interval blockID ∨ Holds ⟨start, size⟩ blockID →
        (∃ other ∈ interval :: rest, Holds other blockID) ∨ Holds ⟨start, size⟩ blockID :=
      Or.imp_left fun current => ⟨interval, List.mem_cons_self .., current⟩
    unfold scan at found
    split_ifs at found with before reaches inside touches covered
    · simp at found
    · rcases found with same | other
      · cases same
        exact grown (holds_front reaches holds)
      · cases other
    · rcases found with other | same
      · cases other
      · cases same
        exact Or.inr holds
    · simp at found
    · have changed : interval.start + (start + size - interval.start) = start + size := by
        rw [UInt32.add_comm, UInt32.sub_add_cancel]
      have whole : interval.start + (size + (start - interval.start)) = start + size := by
        rw [← UInt32.add_assoc, UInt32.add_comm interval.start, UInt32.add_assoc, UInt32.add_comm interval.start,
          UInt32.sub_add_cancel, UInt32.add_comm]
      split at found
      · rcases found with same | other
        · cases same
          exact grown (holds_back touches changed holds)
        · cases other
      · split_ifs at found
        · rcases found with same | other
          · cases same
            exact grown (holds_back touches changed holds)
          · cases other
        · rcases found with other | same
          · cases other
          · simp only [Scan.again.injEq] at same
            obtain ⟨_, first, more⟩ := same
            have merged : (⟨interval.start, size + (start - interval.start)⟩ : BlockInterval) = next := by
              rw [more, first]
            exact grown (holds_back touches whole (merged ▸ holds))
    · rcases ih found with ⟨other, member, current⟩ | new
      · exact Or.inl ⟨other, List.mem_cons_of_mem _ member, current⟩
      · exact Or.inr new

def Has (array : IntervalArray) (blockID : UInt32) : Prop := ∃ interval ∈ array.intervals, Holds interval blockID

theorem has_safeInsert {array : IntervalArray} {i : Nat} {interval : BlockInterval} {blockID : UInt32}
    (has : Has (array.safeInsert i interval) blockID) : Has array blockID ∨ Holds interval blockID := by
  by_cases full : array.intervals.length = 65535
  · rw [safeInsert, dif_pos full] at has
    exact Or.inl has
  · rw [safeInsert, dif_neg full] at has
    obtain ⟨other, member, holds⟩ := has
    rcases List.eq_or_mem_of_mem_insertIdx member with rfl | old
    · exact Or.inr holds
    · exact Or.inl ⟨other, old, holds⟩

theorem has_set {array : IntervalArray} {i : Nat} {interval : BlockInterval} {blockID : UInt32}
    (has : Has (array.set i interval) blockID) : Has array blockID ∨ Holds interval blockID := by
  obtain ⟨other, member, holds⟩ := has
  rcases List.mem_or_eq_of_mem_set member with old | rfl
  · exact Or.inl ⟨other, old, holds⟩
  · exact Or.inr holds

theorem has_safeDelete {array : IntervalArray} {i : Nat} {blockID : UInt32}
    (has : Has (array.safeDelete i) blockID) : Has array blockID := by
  obtain ⟨other, member, holds⟩ := has
  exact ⟨other, List.mem_of_mem_eraseIdx member, holds⟩

theorem has_addIntervalWithin {array : IntervalArray} {start size : UInt32} {depth : Nat} {blockID : UInt32}
    (has : Has (array.addIntervalWithin start size depth) blockID) :
    Has array blockID ∨ Holds ⟨start, size⟩ blockID := by
  induction depth generalizing array start size with
  | zero => exact Or.inl has
  | succ depth ih =>
    unfold addIntervalWithin at has
    split_ifs at has
    · exact Or.inl has
    · exact Or.inl has
    · cases found : scan start size 0 array.intervals with
      | insert i =>
        rw [found] at has
        exact has_safeInsert has
      | change i interval =>
        rw [found] at has
        rcases has_set has with old | holds
        · exact Or.inl old
        · exact scan_holds interval (Or.inl found) holds
      | covered =>
        rw [found] at has
        exact Or.inl has
      | again i first more =>
        rw [found] at has
        rcases ih has with old | holds
        · exact Or.inl (has_safeDelete old)
        · exact scan_holds ⟨first, more⟩ (Or.inr found) holds

theorem has_addInterval {array : IntervalArray} {start size : UInt32} {blockID : UInt32}
    (has : Has (array.addInterval start size) blockID) : Has array blockID ∨ Holds ⟨start, size⟩ blockID :=
  has_addIntervalWithin has

end RabbitStreamer.Core.Interval
