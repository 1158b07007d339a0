import Mathlib.Data.Set.Card
import RabbitStreamer.Core.IntervalSets

/-! What an `IntervalArray` tells about its ids: how many there are in a range and how many follow
one another. -/

namespace RabbitStreamer.Core.IntervalQueries
open RabbitStreamer.Lib.Spans RabbitStreamer.Core.Struct RabbitStreamer.Core.Interval
open RabbitStreamer.Core.Interval.IntervalArray RabbitStreamer.Core.IntervalInvariant
open RabbitStreamer.Core.IntervalSets

/-- What `GetCountInInterval` asks for. -/
def asked (blockID len : UInt32) : BlockInterval := ⟨blockID, min len (UINT_MAX - blockID)⟩

theorem upper_asked (blockID len : UInt32) :
    upper (asked blockID len) = min (blockID.toNat + len.toNat) 4294967295 := by
  have below := blockID.toNat_lt
  have rest : (UINT_MAX - blockID).toNat = 4294967295 - blockID.toNat := sub_toNat (Nat.le_of_lt_succ below)
  show blockID.toNat + (min len (UINT_MAX - blockID)).toNat = _
  rw [toNat_min, rest]
  omega

def counted (blockID len : UInt32) (intervals : List BlockInterval) : Nat :=
  (intervals.map fun interval => (interval.andOp (asked blockID len)).size.toNat).sum

theorem counted_eq_card {intervals : List BlockInterval} (formed : WellFormed intervals) (blockID len : UInt32) :
    counted blockID len intervals = ((Finset.Ico blockID.toNat (upper (asked blockID len))).filter fun id =>
      Covers lower upper intervals id).card := by
  rw [formed.separated.card_covers]
  unfold counted
  refine congrArg List.sum (List.map_congr_left fun interval member => ?_)
  have bounded : upper (asked blockID len) ≤ 4294967295 := (upper_asked blockID len).trans_le (min_le_right ..)
  exact size_andOp (formed.bounded interval member) bounded

theorem counted_le {intervals : List BlockInterval} (formed : WellFormed intervals) (blockID len : UInt32) :
    counted blockID len intervals ≤ 4294967295 := by
  have fewer := Finset.card_filter_le (Finset.Ico blockID.toNat (upper (asked blockID len))) fun id =>
    Covers lower upper intervals id
  rw [← counted_eq_card formed, Nat.card_Ico, upper_asked] at fewer
  omega

theorem total_toNat {intervals : List BlockInterval} (formed : WellFormed intervals) (blockID len : UInt32) :
    (getCountInInterval.total blockID len intervals).toNat = counted blockID len intervals := by
  induction intervals using List.reverseRecOn with
  | nil => rfl
  | append_singleton before interval ih =>
    have all := counted_le formed blockID len
    have earlier := ih (formed.sublist (List.sublist_append_left ..))
    unfold counted at all earlier ⊢
    rw [List.map_append, List.sum_append, List.map_singleton, List.sum_singleton] at all ⊢
    unfold getCountInInterval.total at earlier ⊢
    rw [List.foldl_concat, UInt32.toNat_add, earlier]
    exact Nat.mod_eq_of_lt (Nat.lt_succ_of_le all)

theorem found_image {array : IntervalArray} (formed : WellFormed array.intervals) (blockID len : UInt32) :
    UInt32.toNat '' {id : UInt32 | blockID.toNat ≤ id.toNat ∧ id.toNat < blockID.toNat + len.toNat ∧
      array.findBlock id = true} = ((Finset.Ico blockID.toNat (upper (asked blockID len))).filter fun id =>
        Covers lower upper array.intervals id) := by
  ext id
  simp only [Set.mem_image, Set.mem_ofPred_eq, Finset.coe_filter, Finset.mem_Ico, upper_asked, lt_min_iff]
  constructor
  · rintro ⟨block, ⟨first, last, found⟩, rfl⟩
    have covered := (findBlock_iff formed block).mp found
    obtain ⟨interval, member, _, below⟩ := covered
    have bounded := formed.bounded interval member
    exact ⟨⟨first, last, Nat.lt_of_lt_of_le below bounded⟩, interval, member, by assumption, below⟩
  · rintro ⟨⟨first, last, _⟩, covered⟩
    have same := covers_id formed.bounded covered
    refine ⟨UInt32.ofNat id, ⟨same.symm ▸ first, same.symm ▸ last, ?_⟩, same⟩
    rw [findBlock_iff formed, same]
    exact covered

theorem getCountInInterval_eq {array : IntervalArray} (formed : WellFormed array.intervals) (blockID len : UInt32) :
    (array.getCountInInterval blockID len).toNat = Set.ncard {id : UInt32 | blockID.toNat ≤ id.toNat ∧
      id.toNat < blockID.toNat + len.toNat ∧ array.findBlock id = true} := by
  rw [getCountInInterval, total_toNat formed, counted_eq_card formed, ← Set.ncard_coe_finset, ← found_image formed]
  exact Set.ncard_image_of_injective _ fun _ _ => UInt32.toNat_inj.mp

theorem count_greatest {intervals : List BlockInterval} (formed : WellFormed intervals) (blockID : UInt32) :
    IsGreatest {run | ∀ offset < run, Covers lower upper intervals (blockID.toNat + offset)}
      (getContinousCount.count blockID intervals).toNat := by
  induction intervals with
  | nil =>
    constructor
    · intro offset less
      exact absurd less (Nat.not_lt_zero _)
    · intro run covered
      exact Nat.le_of_not_lt fun more => not_covers_nil _ (covered 0 more)
  | cons interval rest ih =>
    obtain ⟨_, bounded, _, later⟩ := wellFormed_cons.mp formed
    have first : blockID < interval.start ↔ blockID.toNat < lower interval := UInt32.lt_iff_toNat_lt
    have ends : (interval.start + interval.size).toNat = upper interval := add_toNat bounded
    unfold getContinousCount.count
    split_ifs with before inside
    · rw [first] at before
      constructor
      · intro offset less
        exact absurd less (Nat.not_lt_zero _)
      · intro run covered
        refine Nat.le_of_not_lt fun more => ?_
        exact Nat.not_le_of_lt before (formed.separated.lower_le (covered 0 more))
    · rw [first, Nat.not_lt] at before
      rw [UInt32.lt_iff_toNat_lt, ends] at inside
      rw [sub_toNat (by rw [ends]; exact Nat.le_of_lt inside), ends]
      constructor
      · intro offset less
        exact covers_cons.mpr (Or.inl ⟨before.trans (Nat.le_add_right ..), by omega⟩)
      · intro run covered
        refine Nat.le_of_not_lt fun more => ?_
        have behind := covered _ more
        rw [Nat.add_sub_of_le (Nat.le_of_lt inside)] at behind
        exact formed.separated.not_covers_upper (List.mem_cons_self ..) behind
    · rw [UInt32.lt_iff_toNat_lt, ends, Nat.not_lt] at inside
      have same : ∀ offset, Covers lower upper (interval :: rest) (blockID.toNat + offset) ↔
          Covers lower upper rest (blockID.toNat + offset) := fun offset => by
        rw [formed.separated.covers_rest]
        exact (and_iff_left (inside.trans (Nat.le_add_right ..))).symm
      simp only [same]
      exact ih later

theorem covers_offset_iff {array : IntervalArray} (formed : WellFormed array.intervals) (id : Nat) :
    Covers lower upper array.intervals id ↔ ∃ block : UInt32, block.toNat = id ∧ array.findBlock block = true := by
  constructor
  · intro covered
    have same := covers_id formed.bounded covered
    exact ⟨UInt32.ofNat id, same, (findBlock_iff formed _).mpr (same.symm ▸ covered)⟩
  · rintro ⟨block, rfl, found⟩
    exact (findBlock_iff formed block).mp found

/-- The queries agree with `FindBlock`, and none of their sums wraps: not the ends of the intervals,
not the end of what is asked for and not the running total. -/
theorem queries_agree (array : IntervalArray) (verified : array.verify = true) (blockID len : UInt32) :
    (array.getCountInInterval blockID len).toNat = Set.ncard {id : UInt32 | blockID.toNat ≤ id.toNat ∧
      id.toNat < blockID.toNat + len.toNat ∧ array.findBlock id = true} ∧
    IsGreatest {run : Nat | ∀ offset < run, ∃ id : UInt32,
      id.toNat = blockID.toNat + offset ∧ array.findBlock id = true} (array.getContinousCount blockID).toNat ∧
    (∀ interval ∈ array.intervals, interval.start.toNat + interval.size.toNat ≤ UINT_MAX.toNat) ∧
    blockID.toNat + (min len (UINT_MAX - blockID)).toNat ≤ UINT_MAX.toNat ∧
    ∀ before interval after, array.intervals = before ++ interval :: after →
      (getCountInInterval.total blockID len before).toNat +
        (interval.andOp ⟨blockID, min len (UINT_MAX - blockID)⟩).size.toNat ≤ UINT_MAX.toNat := by
  have formed := verify_iff.mp verified
  refine ⟨getCountInInterval_eq formed blockID len, ?_, formed.bounded, ?_, ?_⟩
  · simp only [← covers_offset_iff formed]
    exact count_greatest formed blockID
  · exact (upper_asked blockID len).trans_le (min_le_right ..)
  · intro before interval after split
    rw [split] at formed
    have formedToo : WellFormed (before ++ [interval]) :=
      formed.sublist (List.Sublist.append_left (List.singleton_sublist.mpr (List.mem_cons_self ..)) before)
    have all := counted_le formedToo blockID len
    unfold counted at all
    rw [List.map_append, List.sum_append, List.map_singleton, List.sum_singleton] at all
    rw [total_toNat (formedToo.sublist (List.sublist_append_left ..))]
    exact all

theorem queries_from_three : (twoIntervals.getCountInInterval 3 UINT_MAX).toNat = Set.ncard {id : UInt32 |
      (3 : UInt32).toNat ≤ id.toNat ∧ id.toNat < (3 : UInt32).toNat + UINT_MAX.toNat ∧
        twoIntervals.findBlock id = true} ∧
    IsGreatest {run : Nat | ∀ offset < run, ∃ id : UInt32,
      id.toNat = (3 : UInt32).toNat + offset ∧ twoIntervals.findBlock id = true}
      (twoIntervals.getContinousCount 3).toNat ∧
    (∀ interval ∈ twoIntervals.intervals, interval.start.toNat + interval.size.toNat ≤ UINT_MAX.toNat) ∧
    (3 : UInt32).toNat + (min UINT_MAX (UINT_MAX - 3)).toNat ≤ UINT_MAX.toNat ∧
    ∀ before interval after, twoIntervals.intervals = before ++ interval :: after →
      (getCountInInterval.total 3 UINT_MAX before).toNat +
        (interval.andOp ⟨3, min UINT_MAX (UINT_MAX - 3)⟩).size.toNat ≤ UINT_MAX.toNat :=
  queries_agree twoIntervals (by decide) 3 UINT_MAX

example : twoIntervals.getCountInInterval 3 UINT_MAX = 7 ∧ twoIntervals.getContinousCount 3 = 2 := by decide

end RabbitStreamer.Core.IntervalQueries
