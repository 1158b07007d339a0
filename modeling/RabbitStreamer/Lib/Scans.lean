import Mathlib.Algebra.GroupWithZero.Nat
import Mathlib.Data.List.Nodup
import Mathlib.Data.List.Basic

/-! A list that is scanned from several starts to its end, until enough items are found. -/

namespace RabbitStreamer.Lib.Scans

variable {α : Type} (items : List α) (wanted : α → Bool) (limit : Nat)

def behind (start : Nat) : List α := (items.drop start).filter wanted

def collect : List Nat → List α → List α
  | [], found => found
  | start :: later, found =>
      if limit ≤ found.length + (behind items wanted start).length then
        found ++ (behind items wanted start).take (limit - found.length)
      else collect later (found ++ behind items wanted start)

variable {items wanted limit}

theorem mem_behind {start : Nat} {item : α} : item ∈ behind items wanted start ↔
    wanted item = true ∧ ∃ position, ∃ inside : position < items.length, start ≤ position ∧
      items.get ⟨position, inside⟩ = item := by
  unfold behind
  rw [List.mem_filter, and_comm]
  refine and_congr_right fun _ => ?_
  constructor
  · intro member
    obtain ⟨offset, short, same⟩ := List.mem_iff_getElem.mp member
    rw [List.length_drop] at short
    rw [List.getElem_drop] at same
    exact ⟨start + offset, by omega, Nat.le_add_right .., same⟩
  · rintro ⟨position, inside, beyond, rfl⟩
    refine List.mem_iff_getElem.mpr ⟨position - start, by rw [List.length_drop]; omega, ?_⟩
    rw [List.getElem_drop]
    simp only [Nat.add_sub_of_le beyond, List.get_eq_getElem]

theorem behind_subset {first second : Nat} (order : first ≤ second) {item : α}
    (member : item ∈ behind items wanted second) : item ∈ behind items wanted first := by
  obtain ⟨asked, position, inside, beyond, same⟩ := mem_behind.mp member
  exact mem_behind.mpr ⟨asked, position, inside, Nat.le_trans order beyond, same⟩

theorem behind_split {first second : Nat} (order : first ≤ second) : behind items wanted first =
    ((items.drop first).take (second - first)).filter wanted ++ behind items wanted second := by
  unfold behind
  rw [← List.filter_append, show items.drop second = (items.drop first).drop (second - first) by
    rw [List.drop_drop, Nat.add_sub_of_le order], List.take_append_drop]

theorem behind_min (first second : Nat) (item : α) : item ∈ behind items wanted (min first second) ↔
    item ∈ behind items wanted first ∨ item ∈ behind items wanted second := by
  constructor
  · intro member
    rcases Nat.le_total first second with order | order
    · rw [Nat.min_eq_left order] at member
      exact Or.inl member
    · rw [Nat.min_eq_right order] at member
      exact Or.inr member
  · rintro (member | member)
    · exact behind_subset (Nat.min_le_left ..) member
    · exact behind_subset (Nat.min_le_right ..) member

theorem found_sublist (starts : List Nat) (found : List α) :
    found.Sublist (collect items wanted limit starts found) := by
  induction starts generalizing found with
  | nil => exact List.Sublist.refl _
  | cons start later ih =>
    unfold collect
    split_ifs
    · exact List.sublist_append_left ..
    · exact (List.sublist_append_left ..).trans (ih _)

variable (items wanted) in
def total (starts : List Nat) : Nat := (starts.map fun start => (behind items wanted start).length).sum

theorem total_cons (start : Nat) (later : List Nat) :
    total items wanted (start :: later) = (behind items wanted start).length + total items wanted later := by
  simp only [total, List.map_cons, List.sum_cons]

theorem collect_short {starts : List Nat} {found : List α}
    (short : found.length + total items wanted starts < limit) :
    collect items wanted limit starts found = found ++ starts.flatMap (behind items wanted) := by
  induction starts generalizing found with
  | nil => exact (List.append_nil found).symm
  | cons start later ih =>
    rw [total_cons] at short
    unfold collect
    rw [if_neg (by omega), ih (by rw [List.length_append]; omega), List.flatMap_cons, List.append_assoc]

theorem collect_enough {starts : List Nat} {found : List α}
    (enough : limit ≤ found.length + total items wanted starts) :
    limit ≤ (collect items wanted limit starts found).length := by
  induction starts generalizing found with
  | nil => exact enough
  | cons start later ih =>
    rw [total_cons] at enough
    unfold collect
    split_ifs with full
    · rw [List.length_append, List.length_take]
      omega
    · exact ih (by rw [List.length_append]; omega)

variable (items wanted limit) in
/-- No scan finds again what an earlier one has found, where so many were found from `earliest` on:
nothing is wanted where both come, or the scan ends before it gets there. -/
def Once : Nat → Nat → List Nat → Prop
  | _, _, [] => True
  | count, earliest, start :: later =>
      (behind items wanted (max start earliest) = [] ∨
        limit ≤ count + ((behind items wanted start).length - (behind items wanted (max start earliest)).length)) ∧
      (count + (behind items wanted start).length < limit →
        Once (count + (behind items wanted start).length) (min start earliest) later)

section Distinct
variable (distinct : items.Nodup)

include distinct

theorem not_mem_behind {first second : Nat} {item : α} (member : item ∈ (items.drop first).take (second - first)) :
    item ∉ behind items wanted second := by
  intro later
  obtain ⟨offset, short, same⟩ := List.mem_iff_getElem.mp member
  obtain ⟨_, position, inside, beyond, equal⟩ := mem_behind.mp later
  rw [List.length_take, List.length_drop] at short
  rw [List.getElem_take, List.getElem_drop] at same
  have places : first + offset = position := (distinct.getElem_inj_iff).mp (same.trans equal.symm)
  omega

theorem nodup_scan_iff {found : List α} {start earliest room : Nat} (nodup : found.Nodup)
    (held : ∀ item, item ∈ found ↔ item ∈ behind items wanted earliest) :
    (found ++ (behind items wanted start).take room).Nodup ↔ behind items wanted (max start earliest) = [] ∨
      room ≤ (behind items wanted start).length - (behind items wanted (max start earliest)).length := by
  have split : behind items wanted start = _ := behind_split (Nat.le_max_left start earliest)
  have again : ∀ item ∈ behind items wanted (max start earliest), item ∈ found := fun item member =>
    (held item).mpr (behind_subset (Nat.le_max_right ..) member)
  have fresh : ∀ item ∈ ((items.drop start).take (max start earliest - start)).filter wanted, item ∉ found := by
    intro item member known
    have asked := List.mem_filter.mp member
    have later := (held item).mp known
    rcases Nat.le_total start earliest with order | order
    · rw [Nat.max_eq_right order] at asked
      exact not_mem_behind distinct asked.1 later
    · rw [Nat.max_eq_left order, Nat.sub_self, List.take_zero] at asked
      cases asked.1
  have nodupBehind : (behind items wanted start).Nodup := (distinct.sublist (List.drop_sublist ..)).filter _
  rw [split] at nodupBehind ⊢
  generalize ((items.drop start).take (max start earliest - start)).filter wanted = before at *
  generalize behind items wanted (max start earliest) = after at *
  rw [List.length_append, Nat.add_sub_cancel]
  constructor
  · intro all
    by_contra other
    obtain ⟨nonempty, more⟩ := not_or.mp other
    obtain ⟨item, rest, rfl⟩ := List.exists_cons_of_ne_nil nonempty
    have taken : item ∈ (before ++ item :: rest).take room := by
      rw [List.take_append, show room - before.length = (room - before.length - 1) + 1 by omega, List.take_succ_cons]
      exact List.mem_append_right _ (List.mem_cons_self ..)
    exact (List.nodup_append.mp all).2.2 item (again item (List.mem_cons_self ..)) item taken rfl
  · intro apart
    have taken : ∀ item ∈ (before ++ after).take room, item ∈ before := by
      rcases apart with rfl | short
      · rw [List.append_nil]
        exact fun item member => List.mem_of_mem_take member
      · rw [List.take_append_of_le_length short]
        exact fun item member => List.mem_of_mem_take member
    refine List.nodup_append.mpr ⟨nodup, nodupBehind.sublist (List.take_sublist ..), ?_⟩
    intro item known other member same
    exact fresh item (taken item (same ▸ member)) known

theorem nodup_collect_iff {starts : List Nat} {found : List α} {earliest : Nat} (nodup : found.Nodup)
    (held : ∀ item, item ∈ found ↔ item ∈ behind items wanted earliest) (few : found.length < limit) :
    (collect items wanted limit starts found).Nodup ↔ Once items wanted limit found.length earliest starts := by
  induction starts generalizing found earliest with
  | nil => exact iff_of_true nodup trivial
  | cons start later ih =>
    have scan : (found ++ (behind items wanted start).take (limit - found.length)).Nodup ↔ _ :=
      nodup_scan_iff distinct nodup held
    rw [Nat.sub_le_iff_le_add'] at scan
    unfold collect Once
    split_ifs with enough
    · rw [scan]
      exact (and_iff_left fun short => absurd enough (Nat.not_le_of_lt short)).symm
    · have short := Nat.lt_of_not_le enough
      have whole : (behind items wanted start).take (limit - found.length) = behind items wanted start :=
        List.take_of_length_le (by omega)
      rw [whole] at scan
      have heldToo : ∀ item, item ∈ found ++ behind items wanted start ↔
          item ∈ behind items wanted (min start earliest) := fun item => by
        rw [List.mem_append, held, behind_min]
        exact or_comm
      rw [← scan]
      constructor
      · intro all
        have atHead := all.sublist (found_sublist later _)
        refine ⟨atHead, fun _ => ?_⟩
        rw [← List.length_append]
        exact (ih atHead heldToo (by rwa [List.length_append])).mp all
      · rintro ⟨atHead, next⟩
        refine (ih atHead heldToo (by rwa [List.length_append])).mpr ?_
        rw [List.length_append]
        exact next short

theorem all_collected_iff (starts : List Nat) :
    ((collect items wanted limit starts []).length < limit → ∀ item ∈ items, wanted item = true →
      item ∈ collect items wanted limit starts []) ↔
    limit ≤ total items wanted starts ∨ ∀ position, ∀ inside : position < items.length,
      wanted (items.get ⟨position, inside⟩) = true → ∃ start ∈ starts, start ≤ position := by
  by_cases enough : limit ≤ total items wanted starts
  · have full : limit ≤ ([] : List α).length + total items wanted starts := by
      rwa [List.length_nil, Nat.zero_add]
    exact iff_of_true (fun short => absurd (collect_enough full) (Nat.not_le_of_lt short)) (Or.inl enough)
  · have few : ([] : List α).length + total items wanted starts < limit := by
      rw [List.length_nil, Nat.zero_add]
      exact Nat.lt_of_not_le enough
    rw [or_iff_right enough, collect_short few, List.nil_append]
    have short : (starts.flatMap (behind items wanted)).length < limit := by
      rw [List.length_flatMap]
      exact Nat.lt_of_not_le enough
    constructor
    · intro all position inside asked
      obtain ⟨start, member, listed⟩ := List.mem_flatMap.mp (all short _ (List.get_mem ..) asked)
      obtain ⟨_, other, _, beyond, same⟩ := mem_behind.mp listed
      exact ⟨start, member, (distinct.getElem_inj_iff.mp same) ▸ beyond⟩
    · intro reached _ item member asked
      obtain ⟨position, inside, rfl⟩ := List.mem_iff_getElem.mp member
      obtain ⟨start, listed, beyond⟩ := reached position inside asked
      exact List.mem_flatMap.mpr ⟨start, listed, mem_behind.mpr ⟨asked, position, inside, beyond, rfl⟩⟩

end Distinct

end RabbitStreamer.Lib.Scans
