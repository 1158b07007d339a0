import RabbitStreamer.Core.Interval
import RabbitStreamer.Lib.Spans

/-! What `Verify` tests: intervals in order, non-empty and apart. -/

namespace RabbitStreamer.Core.IntervalInvariant
open RabbitStreamer.Lib.Spans RabbitStreamer.Core.Struct RabbitStreamer.Core.Interval
open RabbitStreamer.Core.Interval.IntervalArray

/-- The ids of an interval as numbers that do not wrap: from the first to the one behind the last. -/
def lower (interval : BlockInterval) : Nat := interval.start.toNat

def upper (interval : BlockInterval) : Nat := interval.start.toNat + interval.size.toNat

/-- What `Verify` is for. -/
structure WellFormed (intervals : List BlockInterval) : Prop where
  separated : Separated lower upper intervals
  bounded : ∀ interval ∈ intervals, upper interval ≤ 4294967295

theorem wellFormed_nil : WellFormed [] := ⟨separated_nil, by simp⟩

theorem add_toNat {start size : UInt32} (room : start.toNat + size.toNat ≤ 4294967295) :
    (start + size).toNat = start.toNat + size.toNat := by
  rw [UInt32.toNat_add]
  omega

theorem sub_toNat {first second : UInt32} (order : second.toNat ≤ first.toNat) :
    (first - second).toNat = first.toNat - second.toNat :=
  UInt32.toNat_sub_of_le _ _ (UInt32.le_iff_toNat_le.mpr order)

theorem WellFormed.sublist {intervals fewer : List BlockInterval} (formed : WellFormed intervals)
    (sub : fewer.Sublist intervals) : WellFormed fewer :=
  ⟨formed.separated.sublist sub, fun interval member => formed.bounded interval (sub.subset member)⟩

theorem WellFormed.splice {before after : List BlockInterval} {interval : BlockInterval}
    (formed : WellFormed (before ++ after)) (bounded : upper interval ≤ 4294967295)
    (spans : lower interval < upper interval) (left : ∀ other ∈ before, upper other < lower interval)
    (right : ∀ other ∈ after, upper interval < lower other) : WellFormed (before ++ interval :: after) := by
  refine ⟨formed.separated.splice spans left right, fun other member => ?_⟩
  rcases List.mem_append.mp member with first | second
  · exact formed.bounded other (List.mem_append_left _ first)
  · rcases List.mem_cons.mp second with rfl | second
    · exact bounded
    · exact formed.bounded other (List.mem_append_right _ second)

theorem WellFormed.remove {before rest : List BlockInterval} {interval : BlockInterval}
    (formed : WellFormed (before ++ interval :: rest)) : WellFormed (before ++ rest) :=
  formed.sublist (List.Sublist.append_left (List.sublist_cons_self interval rest) before)

theorem WellFormed.replace {before rest : List BlockInterval} {old interval : BlockInterval}
    (formed : WellFormed (before ++ old :: rest)) (bounded : upper interval ≤ 4294967295)
    (spans : lower interval < upper interval) (left : ∀ other ∈ before, upper other < lower interval)
    (right : ∀ other ∈ rest, upper interval < lower other) : WellFormed (before ++ interval :: rest) :=
  formed.remove.splice bounded spans left right

theorem wellFormed_cons {interval : BlockInterval} {rest : List BlockInterval} : WellFormed (interval :: rest) ↔
    0 < interval.size.toNat ∧ upper interval ≤ 4294967295 ∧ (∀ next ∈ rest.head?, upper interval < lower next) ∧
      WellFormed rest := by
  constructor
  · rintro ⟨separated, bounded⟩
    obtain ⟨spans, gaps, later⟩ := separated_cons.mp separated
    obtain ⟨atHead, others⟩ := List.forall_mem_cons.mp bounded
    unfold lower upper at spans
    exact ⟨by omega, atHead, fun next head => gaps next (List.mem_of_mem_head? head), later, others⟩
  · rintro ⟨positive, atHead, gap, later, others⟩
    have spans : lower interval < upper interval := Nat.lt_add_of_pos_right positive
    refine ⟨?_, List.forall_mem_cons.mpr ⟨atHead, others⟩⟩
    cases rest with
    | nil => exact separated_cons.mpr ⟨spans, by simp, separated_nil⟩
    | cons next rest => exact separated_cons_cons.mpr ⟨spans, gap next rfl, later⟩

theorem verify_check_iff (intervals : List BlockInterval) : verify.check intervals = true ↔ WellFormed intervals := by
  induction intervals with
  | nil => exact iff_of_true rfl ⟨separated_nil, by simp⟩
  | cons interval rest ih =>
    have first := interval.start.toNat_lt
    have positive : interval.size = 0 ↔ ¬0 < interval.size.toNat := by
      rw [← UInt32.toNat_inj]
      exact Nat.pos_iff_ne_zero.not_left.symm
    have bounded : UINT_MAX - interval.start < interval.size ↔ ¬upper interval ≤ 4294967295 := by
      rw [UInt32.lt_iff_toNat_lt, sub_toNat (show interval.start.toNat ≤ UINT_MAX.toNat from Nat.le_of_lt_succ first)]
      unfold upper
      show 4294967295 - _ < _ ↔ _
      omega
    rw [wellFormed_cons]
    unfold verify.check
    split_ifs with empty beyond
    · exact iff_of_false (by simp) fun formed => positive.mp empty formed.1
    · exact iff_of_false (by simp) fun formed => bounded.mp beyond formed.2.1
    · have room : upper interval ≤ 4294967295 := Classical.not_not.mp fun other => beyond (bounded.mpr other)
      have sized : 0 < interval.size.toNat := Classical.not_not.mp fun other => empty (positive.mpr other)
      cases rest with
      | nil => exact iff_of_true rfl ⟨sized, room, by simp, ih.mp rfl⟩
      | cons next rest =>
        have gap : next.start ≤ interval.start + interval.size ↔ ¬upper interval < lower next := by
          rw [UInt32.le_iff_toNat_le, add_toNat room]
          exact Nat.not_lt.symm
        show (if next.start ≤ interval.start + interval.size then false else verify.check (next :: rest)) = true ↔ _
        by_cases touch : upper interval < lower next
        · rw [if_neg (fun less => gap.mp less touch), ih]
          exact ⟨fun formed => ⟨sized, room, fun _ head => Option.some.inj head ▸ touch, formed⟩,
            fun formed => formed.2.2.2⟩
        · rw [if_pos (gap.mpr touch)]
          exact iff_of_false (by simp) fun formed => touch (formed.2.2.1 next rfl)

theorem verify_iff {array : IntervalArray} : array.verify = true ↔ WellFormed array.intervals :=
  verify_check_iff array.intervals

theorem insertIdx_middle {α : Type} (before rest : List α) (item : α) :
    (before ++ rest).insertIdx before.length item = before ++ item :: rest := by
  induction before with
  | nil => rfl
  | cons head before ih => simp [ih]

section Places
variable {array : IntervalArray} {before rest : List BlockInterval} {interval : BlockInterval}

theorem set_intervals (split : array.intervals = before ++ interval :: rest) (other : BlockInterval) :
    (array.set before.length other).intervals = before ++ other :: rest := by
  simp only [IntervalArray.set, split]
  rw [List.set_append_right _ _ (Nat.le_refl _), Nat.sub_self, List.set_cons_zero]

theorem safeDelete_intervals (split : array.intervals = before ++ interval :: rest) :
    (array.safeDelete before.length).intervals = before ++ rest := by
  simp only [safeDelete, split]
  rw [List.eraseIdx_append_of_length_le (Nat.le_refl _), Nat.sub_self, List.eraseIdx_cons_zero]

theorem safeInsert_intervals (split : array.intervals = before ++ rest) (other : BlockInterval) :
    (array.safeInsert before.length other).intervals =
      if array.intervals.length = 65535 then array.intervals else before ++ other :: rest := by
  by_cases full : array.intervals.length = 65535
  · rw [safeInsert, dif_pos full, if_pos full]
  · rw [safeInsert, dif_neg full, if_neg full]
    simp only [split, insertIdx_middle]

end Places

theorem wellFormed_safeInsert {array : IntervalArray} {before after : List BlockInterval}
    (split : array.intervals = before ++ after) (formed : WellFormed array.intervals) {interval : BlockInterval}
    (bounded : upper interval ≤ 4294967295) (spans : lower interval < upper interval)
    (left : ∀ other ∈ before, upper other < lower interval) (right : ∀ other ∈ after, upper interval < lower other) :
    WellFormed (array.safeInsert before.length interval).intervals := by
  rw [safeInsert_intervals split]
  split_ifs
  · exact formed
  · rw [split] at formed
    exact formed.splice bounded spans left right

theorem wellFormed_set {array : IntervalArray} {before rest : List BlockInterval} {old : BlockInterval}
    (split : array.intervals = before ++ old :: rest) (formed : WellFormed array.intervals) {interval : BlockInterval}
    (bounded : upper interval ≤ 4294967295) (spans : lower interval < upper interval)
    (left : ∀ other ∈ before, upper other < lower interval) (right : ∀ other ∈ rest, upper interval < lower other) :
    WellFormed (array.set before.length interval).intervals := by
  rw [set_intervals split]
  rw [split] at formed
  exact formed.replace bounded spans left right

theorem wellFormed_safeDelete {array : IntervalArray} {before rest : List BlockInterval} {interval : BlockInterval}
    (split : array.intervals = before ++ interval :: rest) (formed : WellFormed array.intervals) :
    WellFormed (array.safeDelete before.length).intervals := by
  rw [safeDelete_intervals split]
  rw [split] at formed
  exact formed.remove

end RabbitStreamer.Core.IntervalInvariant
