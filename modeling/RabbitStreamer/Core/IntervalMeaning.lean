import RabbitStreamer.Core.IntervalQueries
import RabbitStreamer.Lib.Runs

/-! An `IntervalArray` stands for the set of ids that its history means: what each operation makes
of the set, also where `DelInterval` ends at the first interval. -/

namespace RabbitStreamer.Core.IntervalMeaning
open RabbitStreamer.Lib.Spans RabbitStreamer.Lib.Runs RabbitStreamer.Core.Struct RabbitStreamer.Core.Interval
open RabbitStreamer.Core.Interval.IntervalArray RabbitStreamer.Core.IntervalInvariant
open RabbitStreamer.Core.IntervalSets RabbitStreamer.Core.IntervalQueries

def range (start size : UInt32) : Set Nat := Set.Ico start.toNat (start.toNat + size.toNat)

/-- What `DeleteArray` takes out of a set: the ids of another, but where a run of the other begins
with a run of the set, no more than the latter has. -/
def Gone (set other : Set Nat) (id : Nat) : Prop :=
  ∃ first, Heads other id first ∧ (Heads set first first → Heads set id first)

def without (set other : Set Nat) : Set Nat := {id ∈ set | ¬Gone set other id}

def meaning : Build → Set Nat
  | .empty => ∅
  | .add array start size => meaning array ∪ range start size
  | .del array start size => without (meaning array) (range start size)
  | .deleteArray array another => without (meaning array) (meaning another)
  | .andOperator array another _ => meaning array ∩ meaning another
  | .popFront array => behindFirst (meaning array)
  | .clear _ => ∅
  | .copy another => meaning another
  | .assign _ another => meaning another

/-- How many ranges were added and deleted, in the history of the other objects too. -/
def changes : Build → Nat
  | .empty => 0
  | .add array _ _ => changes array + 1
  | .del array _ _ => changes array + 1
  | .deleteArray array another => changes array + changes another
  | .andOperator array another result => changes array + changes another + changes result
  | .popFront array => changes array
  | .clear array => changes array
  | .copy another => changes another
  | .assign array another => changes array + changes another

section Sets
variable {set one other : Set Nat} {first last id bound : Nat}

theorem without_empty : without set ∅ = set := by
  ext id
  exact and_iff_left fun ⟨_, heads, _⟩ => heads.mem

theorem gone_ico : Gone set (Set.Ico first last) id ↔
    (first ≤ id ∧ id < last) ∧ (Heads set first first → Heads set id first) := by
  unfold Gone
  simp only [heads_ico]
  constructor
  · rintro ⟨start, ⟨rfl, inside⟩, together⟩
    exact ⟨inside, together⟩
  · rintro ⟨inside, together⟩
    exact ⟨first, ⟨rfl, inside⟩, together⟩

theorem without_union (before : ∀ id ∈ one, id < bound) (behind : ∀ id ∈ other, bound < id) :
    without set (one ∪ other) = without (without set one) other := by
  have same : ∀ id, bound ≤ id → (id ∈ without set one ↔ id ∈ set) := fun id beyond =>
    and_iff_left fun ⟨_, heads, _⟩ => not_lt_of_ge beyond (before id heads.mem)
  ext id
  have gone : Gone (without set one) other id ↔ Gone set other id := by
    refine exists_congr fun first => and_congr_right fun heads => ?_
    have beyond := behind first heads.first_mem
    rw [heads_agree same beyond, heads_agree same beyond]
  show id ∈ set ∧ ¬Gone set (one ∪ other) id ↔ (id ∈ set ∧ ¬Gone set one id) ∧ ¬Gone (without set one) other id
  rw [gone, and_assoc, ← not_or]
  refine and_congr_right fun _ => not_congr ?_
  unfold Gone
  simp only [heads_union before behind, or_and_right, exists_or]

end Sets

structure Means (array : IntervalArray) (set : Set Nat) (count : Nat) : Prop where
  formed : WellFormed array.intervals
  ids : spanned lower upper array.intervals = set
  few : array.intervals.length ≤ count

section Operations
variable {array another : IntervalArray} {set other : Set Nat} {count more : Nat} {start size : UInt32}

theorem Means.mono (means : Means array set count) (le : count ≤ more) : Means array set more :=
  ⟨means.formed, means.ids, means.few.trans le⟩

theorem means_nil (empty : array.intervals = []) : Means array ∅ 0 :=
  ⟨empty ▸ wellFormed_nil, empty ▸ spanned_nil, Nat.le_of_eq (congrArg List.length empty)⟩

theorem means_addInterval (means : Means array set count) (free : count < 65535)
    (room : start.toNat + size.toNat ≤ 4294967295) :
    Means (array.addInterval start size) (set ∪ range start size) (count + 1) := by
  refine ⟨wellFormed_addInterval means.formed room, ?_, ?_⟩
  · rw [← means.ids]
    exact Set.ext fun id => covers_addInterval means.formed (Nat.lt_of_le_of_lt means.few free) room id
  · exact (length_addIntervalWithin_le ..).trans (Nat.succ_le_succ means.few)

theorem length_delIntervalWithin_le (array : IntervalArray) (start size : UInt32) (depth : Nat) :
    (array.delIntervalWithin start size depth).intervals.length ≤ array.intervals.length + 1 := by
  induction depth generalizing array with
  | zero => exact Nat.le_succ _
  | succ depth ih =>
    have set_length : ∀ i interval, (array.set i interval).intervals.length = array.intervals.length :=
      fun _ _ => List.length_set
    have delete_length : ∀ i, (array.safeDelete i).intervals.length ≤ array.intervals.length :=
      fun _ => List.length_eraseIdx_le ..
    unfold delIntervalWithin
    cases cut start size 0 array.intervals with
    | nothing => exact Nat.le_succ _
    | change i interval => exact (set_length i interval).le.trans (Nat.le_succ _)
    | delete i => exact (delete_length i).trans (Nat.le_succ _)
    | split i left right =>
      dsimp only
      by_cases full : (array.set i left).intervals.length = 65535
      · rw [safeInsert, dif_pos full, set_length]
        exact Nat.le_succ _
      · rw [safeInsert, dif_neg full, ← set_length i left]
        exact List.length_insertIdx_le_succ ..
    | changeAgain i interval => exact (ih _).trans (Nat.succ_le_succ (set_length i interval).le)
    | deleteAgain i => exact (ih _).trans (Nat.succ_le_succ (delete_length i))

theorem covers_delInterval (formed : WellFormed array.intervals) (few : array.intervals.length < 65535)
    (positive : 0 < size.toNat) (room : start.toNat + size.toNat ≤ 4294967295) :
    spanned lower upper (array.delIntervalWithin start size (array.intervals.length + 1)).intervals =
      without (spanned lower upper array.intervals) (range start size) := by
  by_cases fresh : ∀ interval ∈ array.intervals, interval.start ≠ start
  · have deleted := deleted_fresh formed positive room fresh
    have apart : ¬Heads (spanned lower upper array.intervals) start.toNat start.toNat := by
      rw [heads_self_iff formed.separated]
      rintro ⟨interval, member, same⟩
      exact fresh interval member (UInt32.toNat_inj.mp same)
    refine Set.ext fun id => (deleted.covers few id).trans (and_congr_right fun _ => not_congr ?_)
    rw [range, gone_ico]
    exact (and_iff_left fun begins => absurd begins apart).symm
  · simp only [not_forall, not_not] at fresh
    obtain ⟨interval, member, at_start⟩ := fresh
    obtain ⟨before, rest, split⟩ := List.append_of_mem member
    have deleted : Deleted array.intervals (fun id => Within start size id ∧ id < upper interval)
        (array.delIntervalWithin start size (array.intervals.length + 1)).intervals :=
      deleted_first formed positive room split at_start
    have begins : lower interval = start.toNat := congrArg UInt32.toNat at_start
    have heads := heads_self_iff formed.separated |>.mpr ⟨interval, member, begins⟩
    refine Set.ext fun id => (deleted.covers few id).trans (and_congr_right fun _ => not_congr ?_)
    have taken : Heads (spanned lower upper array.intervals) id (lower interval) ↔ _ :=
      heads_item_iff formed.separated member
    unfold Within
    rw [range, gone_ico, ← begins, taken]
    rw [← begins] at heads
    constructor
    · exact fun ⟨inside, below⟩ => ⟨inside, fun _ => ⟨inside.1, below⟩⟩
    · exact fun ⟨inside, together⟩ => ⟨inside, (together heads).2⟩

theorem means_delInterval (means : Means array set count) (free : count < 65535) (positive : 0 < size.toNat)
    (room : start.toNat + size.toNat ≤ 4294967295) : ∃ after, array.delInterval start size = some after ∧
      Means after (without set (range start size)) (count + 1) := by
  have sized : size ≠ 0 := by
    rintro rfl
    exact absurd positive (by decide)
  refine ⟨_, if_neg sized, wellFormed_delIntervalWithin means.formed positive room, ?_, ?_⟩
  · rw [← means.ids]
    exact covers_delInterval means.formed (Nat.lt_of_le_of_lt means.few free) positive room
  · exact (length_delIntervalWithin_le ..).trans (Nat.succ_le_succ means.few)

theorem means_deletions {intervals : List BlockInterval} (means : Means array set count)
    (formed : WellFormed intervals) (free : count + intervals.length ≤ 65535) :
    ∃ after,
      intervals.foldlM (fun array interval => array.delInterval interval.start interval.size) array = some after ∧
      Means after (without set (spanned lower upper intervals)) (count + intervals.length) := by
  induction intervals generalizing array set count with
  | nil => exact ⟨array, rfl, by rw [spanned_nil, without_empty]; exact means⟩
  | cons interval rest ih =>
    rw [List.length_cons] at free
    obtain ⟨positive, room, _, later⟩ := wellFormed_cons.mp formed
    obtain ⟨next, deleted, left⟩ := means_delInterval means (by omega) positive room
    obtain ⟨after, remaining, last⟩ := ih left later (by omega)
    have behind : ∀ id ∈ spanned lower upper rest, upper interval < id := by
      rintro id ⟨other, member, below, _⟩
      exact ((separated_cons.mp formed.separated).2.1 other member).trans_le below
    refine ⟨after, ?_, ?_⟩
    · rw [List.foldlM_cons, deleted]
      exact remaining
    · rw [spanned_cons, without_union (fun id inside => inside.2) behind]
      exact last.mono (by rw [List.length_cons]; omega)

theorem means_deleteArray (means : Means array set count) (meansToo : Means another other more)
    (free : count + more ≤ 65535) : ∃ after, array.deleteArray another = some after ∧
      Means after (without set other) (count + more) := by
  have fewer := Nat.add_le_add_left meansToo.few count
  obtain ⟨after, deleted, left⟩ := means_deletions means meansToo.formed (fewer.trans free)
  rw [meansToo.ids] at left
  exact ⟨after, deleted, left.mono fewer⟩

theorem length_addAll_le (array : IntervalArray) (ranges : List BlockInterval) :
    (addAll array ranges).intervals.length ≤ array.intervals.length + ranges.length := by
  induction ranges generalizing array with
  | nil => exact Nat.le_refl _
  | cons range rest ih =>
    have longer := ih (array.addInterval range.start range.size)
    have one : (array.addInterval range.start range.size).intervals.length ≤ array.intervals.length + 1 :=
      length_addIntervalWithin_le ..
    have same : addAll array (range :: rest) = addAll (array.addInterval range.start range.size) rest := rfl
    rw [same, List.length_cons]
    omega

theorem overlaps_bounded (formed : WellFormed array.intervals) (formedToo : WellFormed another.intervals) :
    (∀ range ∈ overlaps array another, upper range ≤ 4294967295) ∧
      (overlaps array another).length ≤ array.intervals.length + another.intervals.length := by
  rw [overlaps_eq formed formedToo, List.length_map, Nat.add_comm]
  refine ⟨fun range member => ?_, formedToo.separated.common_length_le formed.separated⟩
  obtain ⟨pair, listed, rfl⟩ := List.mem_map.mp member
  obtain ⟨theirs, _⟩ := List.mem_product.mp (List.mem_filter.mp listed).1
  rw [(spans_overlap formed formedToo listed).2]
  exact (min_le_left ..).trans (formedToo.bounded _ theirs)

theorem means_andOperator (means : Means array set count) (meansToo : Means another other more)
    (free : count + more ≤ 65535) (result : IntervalArray) :
    Means (array.andOperator another result) (set ∩ other) (count + more) := by
  obtain ⟨room, short⟩ := overlaps_bounded means.formed meansToo.formed
  have fewer := short.trans (Nat.add_le_add means.few meansToo.few)
  have cleared : result.clear.intervals.length = 0 := rfl
  refine ⟨andOperator_wellFormed array another result, ?_, ?_⟩
  · rw [← means.ids, ← meansToo.ids, andOperator_eq]
    refine Set.ext fun id => ?_
    refine (covers_addAll (show WellFormed result.clear.intervals from wellFormed_nil) room (by omega) id).trans ?_
    rw [covers_overlaps means.formed meansToo.formed]
    exact or_iff_right (not_covers_nil _)
  · rw [andOperator_eq]
    have longer := length_addAll_le result.clear (overlaps array another)
    omega

theorem popFront_intervals (array : IntervalArray) : array.popFront.2.intervals = array.intervals.tail := by
  unfold popFront
  cases split : array.intervals with
  | nil =>
    dsimp only
    exact split
  | cons first rest => exact safeDelete_intervals (show array.intervals = [] ++ first :: rest from split)

theorem means_popFront (means : Means array set count) : Means array.popFront.2 (behindFirst set) count := by
  refine ⟨popFront_wellFormed means.formed, ?_, ?_⟩
  · rw [← means.ids, popFront_intervals]
    cases split : array.intervals with
    | nil => rw [behindFirst_nil, List.tail_nil, spanned_nil]
    | cons first rest => rw [behindFirst_spanned (split ▸ means.formed.separated), List.tail_cons]
  · rw [popFront_intervals, List.length_tail]
    exact (Nat.sub_le ..).trans means.few

end Operations

/-- While fewer ranges were added and deleted than an array has room for: it stands for what its
history means. -/
theorem means_build {build : Build} (inRange : build.InRange) (few : changes build ≤ 65535) :
    ∃ array, build.eval = some array ∧ Means array (meaning build) (changes build) := by
  induction build with
  | empty => exact ⟨.init, rfl, means_nil rfl⟩
  | add array start size ih =>
    obtain ⟨before, made, means⟩ := ih inRange.1 (Nat.le_of_succ_le few)
    exact ⟨_, by simp only [Build.eval, made]; rfl, means_addInterval means few inRange.2⟩
  | del array start size ih =>
    obtain ⟨before, made, means⟩ := ih inRange.1 (Nat.le_of_succ_le few)
    obtain ⟨after, deleted, left⟩ := means_delInterval means few inRange.2.1 inRange.2.2
    exact ⟨after, by simp only [Build.eval, made]; exact deleted, left⟩
  | deleteArray array another ih ihToo =>
    obtain ⟨before, made, means⟩ := ih inRange.1 (Nat.le_trans (Nat.le_add_right ..) few)
    obtain ⟨other, madeToo, meansToo⟩ := ihToo inRange.2 (Nat.le_trans (Nat.le_add_left ..) few)
    obtain ⟨after, deleted, left⟩ := means_deleteArray means meansToo few
    exact ⟨after, by simp only [Build.eval, made, madeToo]; exact deleted, left⟩
  | andOperator array another result ih ihToo ihLast =>
    simp only [changes] at few
    obtain ⟨before, made, means⟩ := ih inRange.1 (by omega)
    obtain ⟨other, madeToo, meansToo⟩ := ihToo inRange.2.1 (by omega)
    obtain ⟨last, madeLast, _⟩ := ihLast inRange.2.2 (by omega)
    refine ⟨_, by simp only [Build.eval, made, madeToo, madeLast]; rfl, ?_⟩
    exact (means_andOperator means meansToo (by omega) last).mono (Nat.le_add_right ..)
  | popFront array ih =>
    obtain ⟨before, made, means⟩ := ih inRange few
    exact ⟨_, by simp only [Build.eval, made]; rfl, means_popFront means⟩
  | clear array ih =>
    obtain ⟨before, made, _⟩ := ih inRange few
    exact ⟨_, by simp only [Build.eval, made]; rfl, (means_nil rfl).mono (Nat.zero_le _)⟩
  | copy another ih =>
    obtain ⟨other, made, means⟩ := ih inRange few
    exact ⟨_, by simp only [Build.eval, made]; rfl, means.formed, means.ids, means.few⟩
  | assign array another ih ihToo =>
    obtain ⟨before, made, _⟩ := ih inRange.1 (Nat.le_trans (Nat.le_add_right ..) few)
    obtain ⟨other, madeToo, means⟩ := ihToo inRange.2 (Nat.le_trans (Nat.le_add_left ..) few)
    refine ⟨other.assign, by simp only [Build.eval, made, madeToo]; rfl, means.formed, means.ids, ?_⟩
    exact means.few.trans (Nat.le_add_left ..)

/-- `FindBlock` finds just the ids that the history means. -/
theorem found_iff_meant {build : Build} (inRange : build.InRange) (few : changes build ≤ 65535) :
    ∃ array, build.eval = some array ∧
      ∀ blockID : UInt32, array.findBlock blockID = true ↔ blockID.toNat ∈ meaning build := by
  obtain ⟨array, made, means⟩ := means_build inRange few
  refine ⟨array, made, fun blockID => ?_⟩
  rw [findBlock_iff means.formed, ← means.ids]
  rfl

theorem cut_through_meant : ∃ array, cutThrough.eval = some array ∧
    ∀ blockID : UInt32, array.findBlock blockID = true ↔ blockID.toNat ∈ meaning cutThrough :=
  found_iff_meant (show cutThrough.InRange by simp [cutThrough, Build.InRange, UINT_MAX]) (by decide)

/-- `operator==` compares what the two histories mean. -/
theorem same_iff_meant {build another : Build} (inRange : build.InRange) (inRangeToo : another.InRange)
    (few : changes build ≤ 65535) (fewToo : changes another ≤ 65535) :
    ∃ array other, build.eval = some array ∧ another.eval = some other ∧
      (array.same other = true ↔ meaning build = meaning another) := by
  obtain ⟨array, made, means⟩ := means_build inRange few
  obtain ⟨other, madeToo, meansToo⟩ := means_build inRangeToo fewToo
  refine ⟨array, other, made, madeToo, ?_⟩
  rw [same_iff, ← means.ids, ← meansToo.ids]
  constructor
  · intro equal
    rw [equal]
  · intro equal
    exact intervals_unique means.formed meansToo.formed fun blockID => Set.ext_iff.mp equal blockID.toNat

theorem joined_again_same : ∃ array other,
    (Build.add (.del (.add .empty 0 10) 3 4) 3 4).eval = some array ∧ (Build.add .empty 0 10).eval = some other ∧
      (array.same other = true ↔
        meaning (.add (.del (.add .empty 0 10) 3 4) 3 4) = meaning (.add .empty 0 10)) :=
  same_iff_meant (by simp [Build.InRange, UINT_MAX]) (by simp [Build.InRange, UINT_MAX]) (by decide) (by decide)

structure Told (array : IntervalArray) (set : Set Nat) : Prop where
  empty : array.isEmpty = true ↔ set = ∅
  runs : array.getValidSize = Set.ncard {first | Heads set first first}
  before : IsGreatest {bound | bound ≤ UINT_MAX.toNat ∧ ∀ id ∈ set, bound ≤ id} array.getMinBlockID.toNat
  behind : IsLeast {bound | ∀ id ∈ set, id < bound} array.getMaxBlockID.toNat
  counted : ∀ blockID len : UInt32, (array.getCountInInterval blockID len).toNat =
    Set.ncard {id ∈ set | blockID.toNat ≤ id ∧ id < blockID.toNat + len.toNat}
  continous : ∀ blockID : UInt32,
    IsGreatest {run | ∀ offset < run, blockID.toNat + offset ∈ set} (array.getContinousCount blockID).toNat
  popped : ∀ id, id ∈ range array.popFront.1.start array.popFront.1.size ↔
    ∃ first, IsLeast set first ∧ Heads set id first

section Queries
variable {array : IntervalArray} (formed : WellFormed array.intervals)
include formed

theorem before_ids : IsGreatest {bound | bound ≤ UINT_MAX.toNat ∧
    ∀ id ∈ spanned lower upper array.intervals, bound ≤ id} array.getMinBlockID.toNat := by
  unfold getMinBlockID
  cases split : array.intervals with
  | nil =>
    exact ⟨⟨Nat.le_refl _, fun id covered => absurd covered (not_covers_nil id)⟩, fun bound present => present.1⟩
  | cons first rest =>
    have least := isLeast_spanned (split ▸ formed.separated : Separated lower upper (first :: rest))
    have below := Nat.le_of_lt_succ first.start.toNat_lt
    exact ⟨⟨below, fun id covered => least.2 covered⟩, fun bound present => present.2 _ least.1⟩

theorem behind_ids : IsLeast {bound | ∀ id ∈ spanned lower upper array.intervals, id < bound}
    array.getMaxBlockID.toNat := by
  unfold getMaxBlockID
  cases split : array.intervals using List.reverseRecOn with
  | nil => exact ⟨fun id covered => absurd covered (not_covers_nil id), fun bound _ => Nat.zero_le bound⟩
  | append_singleton before last _ =>
    have inside := formed.bounded last (split ▸ List.mem_append_right _ (List.mem_singleton_self _))
    rw [List.getLast?_concat]
    dsimp only
    rw [add_toNat inside]
    exact isLeast_behind (split ▸ formed.separated)

theorem counted_ids (blockID len : UInt32) : (array.getCountInInterval blockID len).toNat =
    Set.ncard {id ∈ spanned lower upper array.intervals | blockID.toNat ≤ id ∧ id < blockID.toNat + len.toNat} := by
  rw [getCountInInterval, total_toNat formed, counted_eq_card formed, ← Set.ncard_coe_finset]
  refine congrArg Set.ncard (Set.ext fun id => ?_)
  rw [Finset.mem_coe, Finset.mem_filter, Finset.mem_Ico, upper_asked, lt_min_iff]
  constructor
  · rintro ⟨⟨first, last, _⟩, covered⟩
    exact ⟨covered, first, last⟩
  · rintro ⟨⟨interval, member, below, above⟩, first, last⟩
    exact ⟨⟨first, last, above.trans_le (formed.bounded interval member)⟩, interval, member, below, above⟩

theorem popped_ids (id : Nat) : id ∈ range array.popFront.1.start array.popFront.1.size ↔
    ∃ first, IsLeast (spanned lower upper array.intervals) first ∧
      Heads (spanned lower upper array.intervals) id first := by
  unfold popFront
  cases split : array.intervals with
  | nil =>
    refine iff_of_false (fun inside => Nat.not_lt_zero id inside.2) ?_
    rintro ⟨first, least, _⟩
    exact not_covers_nil first least.1
  | cons first rest =>
    have separated : Separated lower upper (first :: rest) := split ▸ formed.separated
    have heads : Heads (spanned lower upper (first :: rest)) id (lower first) ↔ _ :=
      heads_item_iff separated (List.mem_cons_self ..)
    refine Iff.trans heads.symm ⟨fun present => ⟨_, isLeast_spanned separated, present⟩, ?_⟩
    rintro ⟨start, least, present⟩
    exact least.unique (isLeast_spanned separated) ▸ present

theorem told_ids : Told array (spanned lower upper array.intervals) where
  empty := by
    unfold isEmpty
    rw [decide_eq_true_eq, List.length_eq_zero_iff]
    constructor
    · intro absent
      rw [absent, spanned_nil]
    · intro nothing
      cases split : array.intervals with
      | nil => rfl
      | cons first rest =>
        rw [split] at nothing
        have least := isLeast_spanned (split ▸ formed.separated : Separated lower upper (first :: rest))
        exact absurd (Set.ext_iff.mp nothing _ |>.mp least.1) (Set.notMem_empty _)
  runs := (ncard_heads formed.separated).symm
  before := before_ids formed
  behind := behind_ids formed
  counted := counted_ids formed
  continous := count_greatest formed
  popped := popped_ids formed

end Queries

/-- The queries tell about what the history means. -/
theorem meaning_told {build : Build} (inRange : build.InRange) (few : changes build ≤ 65535) :
    ∃ array, build.eval = some array ∧ Told array (meaning build) := by
  obtain ⟨array, made, means⟩ := means_build inRange few
  exact ⟨array, made, means.ids ▸ told_ids means.formed⟩

theorem cut_through_told : ∃ array, cutThrough.eval = some array ∧ Told array (meaning cutThrough) :=
  meaning_told (show cutThrough.InRange by simp [cutThrough, Build.InRange, UINT_MAX]) (by decide)

end RabbitStreamer.Core.IntervalMeaning
