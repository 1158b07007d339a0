import RabbitStreamer.Core.IntervalInvariant

/-! An `IntervalArray` as the set of the block ids that `FindBlock` finds: what `AddInterval`,
`DelInterval` and `AndOperator` do to it, and that a set has one array only. -/

namespace RabbitStreamer.Core.IntervalSets
open RabbitStreamer.Lib.Spans RabbitStreamer.Core.Struct RabbitStreamer.Core.Interval
open RabbitStreamer.Core.Interval.IntervalArray RabbitStreamer.Core.IntervalInvariant

theorem find_iff {intervals : List BlockInterval} (formed : WellFormed intervals) (blockID : UInt32) :
    findBlock.find blockID intervals = true ↔ Covers lower upper intervals blockID.toNat := by
  induction intervals with
  | nil => exact iff_of_false (by simp [findBlock.find]) (not_covers_nil _)
  | cons interval rest ih =>
    obtain ⟨_, bounded, _, later⟩ := wellFormed_cons.mp formed
    have ends := add_toNat bounded
    have first : blockID < interval.start ↔ blockID.toNat < lower interval := UInt32.lt_iff_toNat_lt
    have last : blockID < interval.start + interval.size ↔ blockID.toNat < upper interval := by
      rw [UInt32.lt_iff_toNat_lt, ends]
      exact Iff.rfl
    unfold findBlock.find
    split_ifs with before inside
    · rw [first] at before
      exact iff_of_false (by simp) fun covered => Nat.not_le_of_lt before (formed.separated.lower_le covered)
    · rw [first, Nat.not_lt] at before
      exact iff_of_true rfl (covers_cons.mpr (Or.inl ⟨before, last.mp inside⟩))
    · rw [ih later, covers_cons]
      exact (or_iff_right fun current => inside (last.mpr current.2)).symm

theorem findBlock_iff {array : IntervalArray} (formed : WellFormed array.intervals) (blockID : UInt32) :
    array.findBlock blockID = true ↔ Covers lower upper array.intervals blockID.toNat :=
  find_iff formed blockID

theorem holding_iff_covers {intervals : List BlockInterval} (formed : WellFormed intervals) (id : Nat) :
    Holding intervals id ↔ Covers lower upper intervals id := by
  constructor
  · rintro ⟨interval, member, _, spans⟩
    exact ⟨interval, member, spans⟩
  · rintro ⟨interval, member, spans⟩
    exact ⟨interval, member, formed.bounded interval member, spans⟩

theorem covers_addInterval {array : IntervalArray} (formed : WellFormed array.intervals)
    (few : array.intervals.length < 65535) {start size : UInt32} (room : start.toNat + size.toNat ≤ 4294967295)
    (id : Nat) : Covers lower upper (array.addInterval start size).intervals id ↔
      Covers lower upper array.intervals id ∨ Within start size id := by
  have added := added_addInterval (wellFormed_iff_mixed.mp formed).1 room
  rw [← holding_iff_covers formed, ← holding_iff_covers (wellFormed_addInterval formed room)]
  exact added.holding few id

/-- `AddInterval` is the union with a range. -/
theorem addInterval_union (array : IntervalArray) (verified : array.verify = true)
    (few : array.intervals.length < 65535) (start size : UInt32)
    (room : start.toNat + size.toNat ≤ UINT_MAX.toNat) (blockID : UInt32) :
    (array.addInterval start size).findBlock blockID = true ↔
      array.findBlock blockID = true ∨ start.toNat ≤ blockID.toNat ∧ blockID.toNat < start.toNat + size.toNat := by
  have formed := verify_iff.mp verified
  rw [findBlock_iff formed, findBlock_iff (wellFormed_addInterval formed room)]
  exact covers_addInterval formed few room _

def twoIntervals : IntervalArray := ⟨[⟨0, 5⟩, ⟨10, 5⟩], 2, by decide, by decide⟩

theorem joined_by_range : (twoIntervals.addInterval 3 9).findBlock 7 = true ↔
    twoIntervals.findBlock 7 = true ∨ (3 : UInt32).toNat ≤ (7 : UInt32).toNat ∧
      (7 : UInt32).toNat < (3 : UInt32).toNat + (9 : UInt32).toNat :=
  addInterval_union twoIntervals (by decide) (by decide) 3 9 (by decide) 7

theorem length_addIntervalWithin_le (array : IntervalArray) (start size : UInt32) (depth : Nat) :
    (array.addIntervalWithin start size depth).intervals.length ≤ array.intervals.length + 1 := by
  induction depth generalizing array start size with
  | zero => exact Nat.le_succ _
  | succ depth ih =>
    unfold addIntervalWithin
    split_ifs
    · exact Nat.le_succ _
    · exact Nat.le_succ _
    · cases scan start size 0 array.intervals with
      | insert i =>
        dsimp only
        by_cases full : array.intervals.length = 65535
        · rw [safeInsert, dif_pos full]
          exact Nat.le_succ _
        · rw [safeInsert, dif_neg full]
          exact List.length_insertIdx_le_succ ..
      | change i interval => exact Nat.le_of_lt (Nat.lt_succ_of_le (Nat.le_of_eq List.length_set))
      | covered => exact Nat.le_succ _
      | again i first more =>
        have fewer : (array.safeDelete i).intervals.length ≤ array.intervals.length := List.length_eraseIdx_le ..
        exact (ih _ _ _).trans (Nat.succ_le_succ fewer)

def addAll (array : IntervalArray) (ranges : List BlockInterval) : IntervalArray :=
  ranges.foldl (fun array range => array.addInterval range.start range.size) array

theorem addAll_wellFormed {array : IntervalArray} (formed : WellFormed array.intervals) {ranges : List BlockInterval}
    (room : ∀ range ∈ ranges, upper range ≤ 4294967295) : WellFormed (addAll array ranges).intervals := by
  induction ranges generalizing array with
  | nil => exact formed
  | cons range rest ih =>
    obtain ⟨atHead, later⟩ := List.forall_mem_cons.mp room
    exact ih (wellFormed_addInterval formed atHead) later

theorem covers_addAll {array : IntervalArray} (formed : WellFormed array.intervals) {ranges : List BlockInterval}
    (room : ∀ range ∈ ranges, upper range ≤ 4294967295) (few : array.intervals.length + ranges.length ≤ 65535)
    (id : Nat) : Covers lower upper (addAll array ranges).intervals id ↔
      Covers lower upper array.intervals id ∨ Covers lower upper ranges id := by
  induction ranges generalizing array with
  | nil => exact (or_iff_left (not_covers_nil id)).symm
  | cons range rest ih =>
    obtain ⟨atHead, later⟩ := List.forall_mem_cons.mp room
    rw [List.length_cons] at few
    have length := length_addIntervalWithin_le array range.start range.size (array.intervals.length + 1)
    have formedToo : WellFormed (array.addInterval range.start range.size).intervals :=
      wellFormed_addInterval formed atHead
    have next := ih formedToo later (Nat.le_trans (Nat.add_le_add_right length _) (by omega))
    rw [covers_addInterval formed (by omega) atHead] at next
    rw [covers_cons, ← or_assoc]
    exact next

/-- No interval begins with the range, or none begins inside it. -/
def Clear (array : IntervalArray) (start size : UInt32) : Prop :=
  (∃ interval ∈ array.intervals, interval.start = start) →
    ∀ other ∈ array.intervals, start.toNat < other.start.toNat → start.toNat + size.toNat ≤ other.start.toNat

theorem within_first_iff {before rest : List BlockInterval} {interval : BlockInterval} {start size : UInt32}
    (formed : WellFormed (before ++ interval :: rest)) (at_start : interval.start = start)
    (clear : ∀ other ∈ before ++ interval :: rest,
      start.toNat < other.start.toNat → start.toNat + size.toNat ≤ other.start.toNat)
    {id : Nat} (covered : Covers lower upper (before ++ interval :: rest) id) :
    Within start size id ∧ id < upper interval ↔ Within start size id := by
  have begins : lower interval = start.toNat := congrArg UInt32.toNat at_start
  obtain ⟨_, right, across⟩ := separated_append.mp formed.separated
  obtain ⟨spans, gaps, _⟩ := separated_cons.mp right
  refine and_iff_left_of_imp fun ⟨first, last⟩ => ?_
  rw [covers_middle, covers_append] at covered
  rcases covered with ⟨_, inside⟩ | ⟨other, early, _, inside⟩ | ⟨other, late, above, _⟩
  · exact inside
  · have apart := across other early interval (List.mem_cons_self ..)
    omega
  · have behind := gaps other late
    have far := clear other (List.mem_append_right _ (List.mem_cons_of_mem _ late)) (by unfold lower at *; omega)
    unfold lower at above
    omega

/-- `DelInterval` is the difference with a range unless an interval that begins with the range is
followed by one that begins inside it: the loop ends at the first. -/
theorem delInterval_difference_iff (array : IntervalArray) (verified : array.verify = true)
    (few : array.intervals.length < 65535) (start size : UInt32) (positive : 0 < size)
    (room : start.toNat + size.toNat ≤ UINT_MAX.toNat) :
    (∃ after, array.delInterval start size = some after ∧ ∀ blockID : UInt32, after.findBlock blockID = true ↔
      array.findBlock blockID = true ∧ ¬(start.toNat ≤ blockID.toNat ∧ blockID.toNat < start.toNat + size.toNat)) ↔
      Clear array start size := by
  have formed := verify_iff.mp verified
  have sized : 0 < size.toNat := UInt32.lt_iff_toNat_lt.mp positive
  have deletes : array.delInterval start size =
      .some (array.delIntervalWithin start size (array.intervals.length + 1)) :=
    if_neg (UInt32.ne_of_lt positive).symm
  by_cases fresh : ∀ interval ∈ array.intervals, interval.start ≠ start
  · have deleted := deleted_fresh formed sized room fresh
    refine iff_of_true ⟨_, deletes, fun blockID => ?_⟩ fun ⟨interval, member, at_start⟩ =>
      absurd at_start (fresh interval member)
    rw [findBlock_iff formed, findBlock_iff deleted.formed]
    exact deleted.covers few _
  · simp only [not_forall, not_not] at fresh
    obtain ⟨interval, member, at_start⟩ := fresh
    obtain ⟨before, rest, split⟩ := List.append_of_mem member
    have deleted : Deleted array.intervals (fun id => Within start size id ∧ id < upper interval)
        (array.delIntervalWithin start size (array.intervals.length + 1)).intervals :=
      deleted_first formed sized room split at_start
    constructor
    · rintro ⟨after, made, same⟩ _ other listed later
      cases deletes.symm.trans made
      by_contra near
      have covered : Covers lower upper array.intervals (lower other) :=
        ⟨other, listed, Nat.le_refl _, formed.separated.nonempty other listed⟩
      have begins : lower interval < lower other := by
        rw [← at_start] at later
        exact later
      have behind := formed.separated.upper_lt member listed begins
      refine absurd ((same other.start).mp ?_).2 (not_not.mpr ⟨Nat.le_of_lt later, Nat.lt_of_not_le near⟩)
      rw [findBlock_iff deleted.formed]
      exact (deleted.covers few _).mpr ⟨covered, fun gone => Nat.lt_asymm behind gone.2⟩
    · intro clear
      refine ⟨_, deletes, fun blockID => ?_⟩
      rw [findBlock_iff formed, findBlock_iff deleted.formed, deleted.covers few]
      refine and_congr_right fun covered => not_congr ?_
      rw [split] at formed covered
      exact within_first_iff formed at_start (split ▸ clear ⟨interval, member, at_start⟩) covered

theorem cut_by_range : (∃ after, twoIntervals.delInterval 3 9 = some after ∧ ∀ blockID : UInt32,
    after.findBlock blockID = true ↔
      twoIntervals.findBlock blockID = true ∧ ¬(3 ≤ blockID.toNat ∧ blockID.toNat < 12)) ↔ Clear twoIntervals 3 9 :=
  delInterval_difference_iff twoIntervals (by decide) (by decide) 3 9 (by decide) (by decide)

/-- The second of two intervals stays whole where the range begins with the first. -/
theorem second_interval_stays : ¬∀ (array : IntervalArray) (start size : UInt32), array.verify = true →
    array.intervals.length < 65535 → 0 < size → start.toNat + size.toNat ≤ UINT_MAX.toNat →
    ∃ after, array.delInterval start size = some after ∧ ∀ blockID : UInt32, after.findBlock blockID = true ↔
      array.findBlock blockID = true ∧ ¬(start.toNat ≤ blockID.toNat ∧ blockID.toNat < start.toNat + size.toNat) := by
  intro difference
  obtain ⟨after, deleted, same⟩ := difference twoIntervals 0 12 (by decide) (by decide) (by decide) (by decide)
  have left : twoIntervals.delInterval 0 12 = some ⟨[⟨10, 5⟩], 2, by decide, by decide⟩ := by decide
  cases left.symm.trans deleted
  exact absurd ((same 10).mp (by decide)).2 (by decide)

theorem toNat_max (first second : UInt32) : (max first second).toNat = max first.toNat second.toNat := by
  show (if first ≤ second then second else first).toNat = _
  split_ifs with order
  · exact (max_eq_right (UInt32.le_iff_toNat_le.mp order)).symm
  · exact (max_eq_left (Nat.le_of_lt (UInt32.lt_iff_toNat_lt.mp (UInt32.not_le.mp order)))).symm

theorem toNat_min (first second : UInt32) : (min first second).toNat = min first.toNat second.toNat := by
  show (if first ≤ second then first else second).toNat = _
  split_ifs with order
  · exact (min_eq_left (UInt32.le_iff_toNat_le.mp order)).symm
  · exact (min_eq_right (Nat.le_of_lt (UInt32.lt_iff_toNat_lt.mp (UInt32.not_le.mp order)))).symm

section AndOp
variable {first second : BlockInterval} (bounded : upper first ≤ 4294967295)
  (boundedToo : upper second ≤ 4294967295)

theorem lower_andOp (first second : BlockInterval) :
    lower (first.andOp second) = max (lower first) (lower second) := toNat_max first.start second.start

include bounded boundedToo

theorem size_andOp : (first.andOp second).size.toNat =
    min (upper first) (upper second) - max (lower first) (lower second) := by
  have begins : (max first.start second.start).toNat = max (lower first) (lower second) := toNat_max ..
  have ends : (min (first.start + first.size) (second.start + second.size)).toNat =
      min (upper first) (upper second) := by
    rw [toNat_min, add_toNat bounded, add_toNat boundedToo]
    rfl
  rw [← begins, ← ends]
  unfold BlockInterval.andOp
  dsimp only
  split_ifs with meet
  · exact sub_toNat (Nat.le_of_lt (UInt32.lt_iff_toNat_lt.mp meet))
  · rw [UInt32.lt_iff_toNat_lt, Nat.not_lt] at meet
    exact (Nat.sub_eq_zero_of_le meet).symm

theorem andOp_some_iff : 0 < (first.andOp second).size ↔ Meet lower upper (first, second) := by
  rw [UInt32.lt_iff_toNat_lt, size_andOp bounded boundedToo]
  exact Nat.sub_pos_iff_lt

theorem upper_andOp (meet : Meet lower upper (first, second)) :
    upper (first.andOp second) = min (upper first) (upper second) := by
  show lower (first.andOp second) + _ = _
  rw [lower_andOp, size_andOp bounded boundedToo]
  exact Nat.add_sub_of_le (Nat.le_of_lt meet)

end AndOp

/-- The common parts that `AndOperator` adds, in its order. -/
def overlaps (array another : IntervalArray) : List BlockInterval :=
  ((another.intervals ×ˢ array.intervals).filter fun pair => 0 < (pair.2.andOp pair.1).size).map fun pair =>
    pair.2.andOp pair.1

theorem andOperator_eq (array another result : IntervalArray) :
    array.andOperator another result = addAll result.clear (overlaps array another) := by
  unfold andOperator addAll overlaps
  rw [List.foldl_map, List.foldl_filter]
  simp only [SProd.sprod, List.product, List.foldl_flatMap, List.foldl_map, decide_eq_true_eq]

theorem overlaps_eq {array another : IntervalArray} (formed : WellFormed array.intervals)
    (formedToo : WellFormed another.intervals) : overlaps array another =
      (common lower upper another.intervals array.intervals).map fun pair => pair.2.andOp pair.1 := by
  unfold overlaps common
  refine congrArg _ (List.filter_congr fun pair member => decide_eq_decide.mpr ?_)
  obtain ⟨theirs, ours⟩ := List.mem_product.mp member
  rw [andOp_some_iff (formed.bounded _ ours) (formedToo.bounded _ theirs)]
  unfold Meet
  rw [max_comm, min_comm]

theorem spans_overlap {array another : IntervalArray} (formed : WellFormed array.intervals)
    (formedToo : WellFormed another.intervals) {pair : BlockInterval × BlockInterval}
    (member : pair ∈ common lower upper another.intervals array.intervals) :
    lower (pair.2.andOp pair.1) = max (lower pair.1) (lower pair.2) ∧
      upper (pair.2.andOp pair.1) = min (upper pair.1) (upper pair.2) := by
  obtain ⟨inside, meet⟩ := List.mem_filter.mp member
  obtain ⟨theirs, ours⟩ := List.mem_product.mp inside
  have meets : Meet lower upper (pair.2, pair.1) := by
    unfold Meet
    rw [max_comm, min_comm]
    exact of_decide_eq_true meet
  rw [lower_andOp, upper_andOp (formed.bounded _ ours) (formedToo.bounded _ theirs) meets]
  exact ⟨max_comm .., min_comm ..⟩

theorem covers_overlaps {array another : IntervalArray} (formed : WellFormed array.intervals)
    (formedToo : WellFormed another.intervals) (id : Nat) : Covers lower upper (overlaps array another) id ↔
      Covers lower upper array.intervals id ∧ Covers lower upper another.intervals id := by
  rw [and_comm, ← covers_common, overlaps_eq formed formedToo]
  unfold Covers
  simp only [List.mem_map, exists_exists_and_eq_and]
  refine exists_congr fun pair => and_congr_right fun member => ?_
  rw [(spans_overlap formed formedToo member).1, (spans_overlap formed formedToo member).2]

/-- `AndOperator` is the intersection. -/
theorem andOperator_intersection (array another result : IntervalArray) (verified : array.verify = true)
    (verifiedToo : another.verify = true) (few : array.intervals.length + another.intervals.length ≤ 65535) :
    (array.andOperator another result).verify = true ∧
      ∀ blockID : UInt32, (array.andOperator another result).findBlock blockID = true ↔
        array.findBlock blockID = true ∧ another.findBlock blockID = true := by
  have formed := verify_iff.mp verified
  have formedToo := verify_iff.mp verifiedToo
  have made := andOperator_wellFormed array another result
  have room : ∀ range ∈ overlaps array another, upper range ≤ 4294967295 := by
    intro range member
    rw [overlaps_eq formed formedToo] at member
    obtain ⟨pair, listed, rfl⟩ := List.mem_map.mp member
    obtain ⟨theirs, _⟩ := List.mem_product.mp (List.mem_filter.mp listed).1
    rw [(spans_overlap formed formedToo listed).2]
    exact (min_le_left ..).trans (formedToo.bounded _ theirs)
  have length : (overlaps array another).length ≤ another.intervals.length + array.intervals.length := by
    rw [overlaps_eq formed formedToo, List.length_map]
    exact formedToo.separated.common_length_le formed.separated
  refine ⟨verify_iff.mpr made, fun blockID => ?_⟩
  rw [findBlock_iff made, findBlock_iff formed, findBlock_iff formedToo, ← covers_overlaps formed formedToo]
  rw [andOperator_eq, covers_addAll (show WellFormed result.clear.intervals from wellFormed_nil) room]
  · exact or_iff_right (not_covers_nil _)
  · show 0 + _ ≤ _
    omega

theorem across_both : (twoIntervals.andOperator ⟨[⟨3, 9⟩], 1, by decide, by decide⟩ .init).verify = true ∧
    ∀ blockID : UInt32,
      (twoIntervals.andOperator ⟨[⟨3, 9⟩], 1, by decide, by decide⟩ .init).findBlock blockID = true ↔
        twoIntervals.findBlock blockID = true ∧
          (⟨[⟨3, 9⟩], 1, by decide, by decide⟩ : IntervalArray).findBlock blockID = true :=
  andOperator_intersection twoIntervals ⟨[⟨3, 9⟩], 1, by decide, by decide⟩ .init (by decide) (by decide) (by decide)

theorem image_injective {first second : List BlockInterval}
    (same : first.flatMap BlockInterval.toBytes = second.flatMap BlockInterval.toBytes) : first = second := by
  induction first generalizing second with
  | nil =>
    cases second with
    | nil => rfl
    | cons other more =>
      have length := congrArg List.length same
      simp at length
      omega
  | cons interval rest ih =>
    cases second with
    | nil =>
      have length := congrArg List.length same
      simp at length
    | cons other more =>
      rw [List.flatMap_cons, List.flatMap_cons] at same
      have widths : interval.toBytes.length = other.toBytes.length := by simp
      obtain ⟨atHead, later⟩ := List.append_inj same widths
      have heads := congrArg BlockInterval.ofBytes atHead
      rw [BlockInterval.ofBytes_toBytes, BlockInterval.ofBytes_toBytes] at heads
      rw [heads, ih later]

theorem same_iff {array another : IntervalArray} :
    array.same another = true ↔ array.intervals = another.intervals := by
  unfold IntervalArray.same
  rw [Bool.and_eq_true, decide_eq_true_eq, decide_eq_true_eq]
  constructor
  · exact fun equal => image_injective equal.2
  · intro equal
    unfold IntervalArray.image
    rw [equal]
    exact ⟨rfl, rfl⟩

theorem covers_id {intervals : List BlockInterval} (bounded : ∀ interval ∈ intervals, upper interval ≤ 4294967295)
    {id : Nat} (covered : Covers lower upper intervals id) : (UInt32.ofNat id).toNat = id := by
  obtain ⟨interval, member, _, below⟩ := covered
  exact UInt32.toNat_ofNat_of_lt' (Nat.lt_succ_of_lt (Nat.lt_of_lt_of_le below (bounded interval member)))

theorem covers_agree {first second : List BlockInterval} (bounded : ∀ interval ∈ first, upper interval ≤ 4294967295)
    (boundedToo : ∀ interval ∈ second, upper interval ≤ 4294967295)
    (agree : ∀ blockID : UInt32, Covers lower upper first blockID.toNat ↔ Covers lower upper second blockID.toNat)
    (id : Nat) : Covers lower upper first id ↔ Covers lower upper second id := by
  constructor
  · intro covered
    have present := (agree (UInt32.ofNat id)).mp ((covers_id bounded covered).symm ▸ covered)
    rwa [covers_id bounded covered] at present
  · intro covered
    have present := (agree (UInt32.ofNat id)).mpr ((covers_id boundedToo covered).symm ▸ covered)
    rwa [covers_id boundedToo covered] at present

theorem eq_of_ends {first second : BlockInterval} (same : (lower first, upper first) = (lower second, upper second)) :
    first = second := by
  obtain ⟨starts, ends⟩ := Prod.mk.inj same
  have sizes : first.size = second.size := UInt32.toNat_inj.mp (by unfold lower upper at *; omega)
  cases first
  cases second
  exact congrArg₂ BlockInterval.mk (UInt32.toNat_inj.mp starts) sizes

theorem intervals_unique {first second : List BlockInterval} (formed : WellFormed first)
    (formedToo : WellFormed second)
    (agree : ∀ blockID : UInt32, Covers lower upper first blockID.toNat ↔ Covers lower upper second blockID.toNat) :
    first = second := by
  have ends := formed.separated.unique formedToo.separated (covers_agree formed.bounded formedToo.bounded agree)
  exact List.map_injective_iff.mpr (fun _ _ => eq_of_ends) ends

/-- `operator==` compares the sets; the order of the calls that make a set does not matter. -/
theorem one_array_for_each_set :
    (∀ array another : IntervalArray, array.verify = true → another.verify = true →
      (array.same another = true ↔ ∀ blockID : UInt32, array.findBlock blockID = another.findBlock blockID)) ∧
    ∀ first second : IntervalArray, first.intervals = [] → second.intervals = [] →
      ∀ ranges others : List BlockInterval, ranges.length < 65535 → others.length < 65535 →
      (∀ range ∈ ranges ++ others, range.start.toNat + range.size.toNat ≤ UINT_MAX.toNat) →
      (∀ blockID : UInt32, Covers lower upper ranges blockID.toNat ↔ Covers lower upper others blockID.toNat) →
      (addAll first ranges).same (addAll second others) = true := by
  constructor
  · intro array another verified verifiedToo
    have formed := verify_iff.mp verified
    have formedToo := verify_iff.mp verifiedToo
    rw [same_iff]
    constructor
    · intro equal blockID
      unfold findBlock
      rw [equal]
    · intro agree
      refine intervals_unique formed formedToo fun blockID => ?_
      rw [← findBlock_iff formed, ← findBlock_iff formedToo, agree]
  · intro first second empty emptyToo ranges others few fewToo room agree
    obtain ⟨current, listed⟩ := List.forall_mem_append.mp room
    have formed : WellFormed first.intervals := empty ▸ wellFormed_nil
    have formedToo : WellFormed second.intervals := emptyToo ▸ wellFormed_nil
    apply same_iff.mpr
    apply intervals_unique (addAll_wellFormed formed current) (addAll_wellFormed formedToo listed)
    intro blockID
    rw [covers_addAll formed current (by rw [empty, List.length_nil]; omega),
      covers_addAll formedToo listed (by rw [emptyToo, List.length_nil]; omega), empty, emptyToo, agree]

theorem pieces_in_any_order : (addAll .init [⟨6, 4⟩, ⟨3, 3⟩, ⟨0, 3⟩]).same (addAll .init [⟨0, 7⟩, ⟨5, 5⟩]) = true :=
  one_array_for_each_set.2 .init .init rfl rfl _ _ (by decide) (by decide) (by decide) fun blockID => by
    simp only [Covers, lower, upper, List.exists_mem_cons_iff, List.not_mem_nil]
    simp
    omega

end RabbitStreamer.Core.IntervalSets
