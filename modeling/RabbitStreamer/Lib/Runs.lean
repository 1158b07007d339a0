import Mathlib.Data.Set.Card
import Mathlib.Order.Bounds.Basic
import Mathlib.Order.Interval.Set.Basic
import RabbitStreamer.Lib.Spans

/-! The runs of a set of points: the stretches without a gap that it falls into. Where the set is
spanned by items that lie apart, the runs are the items. -/

namespace RabbitStreamer.Lib.Runs
open RabbitStreamer.Lib.Spans
variable {α ι : Type} [LinearOrder α]

def Heads (set : Set α) (point first : α) : Prop := IsLeast {start | start ≤ point ∧ Set.Icc start point ⊆ set} first

def behindFirst (set : Set α) : Set α := {point ∈ set | ∀ first, IsLeast set first → ¬Heads set point first}

section Sets
variable {set other one : Set α} {point first bound : α}

theorem Heads.le (heads : Heads set point first) : first ≤ point := heads.1.1

theorem Heads.mem (heads : Heads set point first) : point ∈ set := heads.1.2 (Set.right_mem_Icc.mpr heads.le)

theorem Heads.first_mem (heads : Heads set point first) : first ∈ set := heads.1.2 (Set.left_mem_Icc.mpr heads.le)

theorem heads_congr (same : ∀ start ≤ point, Set.Icc start point ⊆ set ↔ Set.Icc start point ⊆ other) :
    Heads set point first ↔ Heads other point first := by
  have starts : {start | start ≤ point ∧ Set.Icc start point ⊆ set} =
      {start | start ≤ point ∧ Set.Icc start point ⊆ other} :=
    Set.ext fun start => and_congr_right (same start)
  unfold Heads
  rw [starts]

theorem heads_of_agree (same : ∀ point, bound ≤ point → (point ∈ set ↔ point ∈ other)) (behind : bound < first)
    (heads : Heads set point first) : Heads other point first := by
  refine ⟨⟨heads.le, fun between inside => ?_⟩, fun start ⟨before, covered⟩ => ?_⟩
  · exact (same between (behind.le.trans inside.1)).mp (heads.1.2 inside)
  · by_contra earlier
    have nearer : max start bound < first := max_lt (lt_of_not_ge earlier) behind
    refine absurd (heads.2 ⟨nearer.le.trans heads.le, fun between inside => ?_⟩) (not_le_of_gt nearer)
    refine (same between ((le_max_right ..).trans inside.1)).mpr (covered ⟨?_, inside.2⟩)
    exact (le_max_left ..).trans inside.1

theorem heads_agree (same : ∀ point, bound ≤ point → (point ∈ set ↔ point ∈ other)) (behind : bound < first) :
    Heads set point first ↔ Heads other point first :=
  ⟨heads_of_agree same behind, heads_of_agree (fun point beyond => (same point beyond).symm) behind⟩

section Union
variable (before : ∀ point ∈ one, point < bound) (behind : ∀ point ∈ other, bound < point)
include before behind

theorem icc_subset_union {start : α} (order : start ≤ point) : Set.Icc start point ⊆ one ∪ other ↔
    Set.Icc start point ⊆ one ∨ Set.Icc start point ⊆ other := by
  constructor
  · intro covered
    rcases covered (Set.right_mem_Icc.mpr order) with early | late
    · refine Or.inl fun between inside => (covered inside).resolve_right fun present => ?_
      exact lt_asymm ((before point early).trans_le' inside.2) (behind between present)
    · refine Or.inr fun between inside => (covered inside).resolve_left fun present => ?_
      have across : bound ∈ Set.Icc start point :=
        ⟨inside.1.trans (before between present).le, (behind point late).le⟩
      rcases covered across with current | current
      · exact lt_irrefl _ (before bound current)
      · exact lt_irrefl _ (behind bound current)
  · rintro (early | late)
    · exact early.trans Set.subset_union_left
    · exact late.trans Set.subset_union_right

theorem heads_union : Heads (one ∪ other) point first ↔ Heads one point first ∨ Heads other point first := by
  by_cases early : point ∈ one
  · have never : ¬Heads other point first := fun heads => lt_asymm (before point early) (behind point heads.mem)
    rw [or_iff_left never]
    refine heads_congr fun start order => ?_
    rw [icc_subset_union before behind order]
    refine or_iff_left fun covered => ?_
    exact lt_asymm (before point early) (behind point (covered (Set.right_mem_Icc.mpr order)))
  · rw [or_iff_right fun heads => early heads.mem]
    refine heads_congr fun start order => ?_
    rw [icc_subset_union before behind order]
    exact or_iff_right fun covered => early (covered (Set.right_mem_Icc.mpr order))

end Union

end Sets

section Spanned
variable {lower upper : ι → α} {items rest : List ι} {item : ι} {point first : α}

def spanned (lower upper : ι → α) (items : List ι) : Set α := {point | Covers lower upper items point}

theorem spanned_nil : spanned lower upper [] = ∅ := Set.ext fun point => iff_of_false (not_covers_nil point) id

theorem spanned_cons : spanned lower upper (item :: rest) =
    Set.Ico (lower item) (upper item) ∪ spanned lower upper rest :=
  Set.ext fun _ => covers_cons

theorem lower_le_start (separated : Separated lower upper items) (member : item ∈ items) {start : α}
    (order : start ≤ point) (covered : Set.Icc start point ⊆ spanned lower upper items)
    (begins : lower item ≤ point) : lower item ≤ start := by
  by_contra earlier
  obtain ⟨other, listed, below, above⟩ := covered (Set.left_mem_Icc.mpr order)
  have apart := separated.upper_lt listed member (below.trans_lt (lt_of_not_ge earlier))
  exact separated.not_covers_upper listed (covered ⟨above.le, apart.le.trans begins⟩)

theorem heads_spanned_iff (separated : Separated lower upper items) : Heads (spanned lower upper items) point first ↔
    ∃ item ∈ items, lower item = first ∧ first ≤ point ∧ point < upper item := by
  constructor
  · intro heads
    obtain ⟨item, member, below, above⟩ := heads.mem
    refine ⟨item, member, le_antisymm ?_ (heads.2 ⟨below, fun between inside => ?_⟩), heads.le, above⟩
    · exact lower_le_start separated member heads.le heads.1.2 below
    · exact ⟨item, member, inside.1, inside.2.trans_lt above⟩
  · rintro ⟨item, member, rfl, below, above⟩
    refine ⟨⟨below, fun between inside => ⟨item, member, inside.1, inside.2.trans_lt above⟩⟩, fun start present => ?_⟩
    exact lower_le_start separated member present.1 present.2 below

theorem upper_eq (separated : Separated lower upper items) (member : item ∈ items) {other : ι}
    (listed : other ∈ items)
    (same : lower item = lower other) : upper item = upper other := by
  have no_longer : ∀ item ∈ items, ∀ other ∈ items, lower item = lower other → upper other ≤ upper item := by
    intro item member other listed same
    by_contra longer
    have begins : lower other ≤ upper item := same ▸ (separated.nonempty item member).le
    exact separated.not_covers_upper member ⟨other, listed, begins, lt_of_not_ge longer⟩
  exact le_antisymm (no_longer other listed item member same.symm) (no_longer item member other listed same)

theorem heads_item_iff (separated : Separated lower upper items) (member : item ∈ items) :
    Heads (spanned lower upper items) point (lower item) ↔ lower item ≤ point ∧ point < upper item := by
  rw [heads_spanned_iff separated]
  constructor
  · rintro ⟨other, listed, same, below, above⟩
    exact ⟨below, upper_eq separated listed member same ▸ above⟩
  · rintro ⟨below, above⟩
    exact ⟨item, member, rfl, below, above⟩

theorem heads_self_iff (separated : Separated lower upper items) :
    Heads (spanned lower upper items) first first ↔ ∃ item ∈ items, lower item = first := by
  rw [heads_spanned_iff separated]
  refine exists_congr fun item => and_congr_right fun member => and_iff_left_of_imp fun same => ⟨le_refl _, ?_⟩
  exact same ▸ separated.nonempty item member

theorem heads_ico {last bound : α} : Heads (Set.Ico bound last) point first ↔
    first = bound ∧ bound ≤ point ∧ point < last := by
  constructor
  · intro heads
    have inside := heads.mem
    have begins : bound ≤ point ∧ Set.Icc bound point ⊆ Set.Ico bound last :=
      ⟨inside.1, fun between present => ⟨present.1, present.2.trans_lt inside.2⟩⟩
    exact ⟨le_antisymm (heads.2 begins) heads.first_mem.1, inside⟩
  · rintro ⟨rfl, begins, ends⟩
    refine ⟨⟨begins, fun between present => ⟨present.1, present.2.trans_lt ends⟩⟩, fun start present => ?_⟩
    exact (present.2 (Set.left_mem_Icc.mpr present.1)).1

theorem isLeast_spanned (separated : Separated lower upper (item :: rest)) :
    IsLeast (spanned lower upper (item :: rest)) (lower item) :=
  ⟨separated.covers_lower, fun _ covered => separated.lower_le covered⟩

theorem behindFirst_spanned (separated : Separated lower upper (item :: rest)) :
    behindFirst (spanned lower upper (item :: rest)) = spanned lower upper rest := by
  have least := isLeast_spanned separated
  ext point
  refine Iff.trans (and_congr_right fun covered => ?_) (separated.covers_rest point).symm
  have begins : lower item ≤ point := separated.lower_le covered
  have away : (∀ first, IsLeast (spanned lower upper (item :: rest)) first →
      ¬Heads (spanned lower upper (item :: rest)) point first) ↔
        ¬Heads (spanned lower upper (item :: rest)) point (lower item) :=
    ⟨fun apart => apart _ least, fun apart first present => present.unique least ▸ apart⟩
  rw [away, heads_item_iff separated (List.mem_cons_self ..), not_and, not_lt]
  exact forall_prop_of_true begins

theorem behindFirst_nil : behindFirst (spanned lower upper []) = ∅ :=
  Set.eq_empty_of_forall_notMem fun point present => not_covers_nil point present.1

theorem ncard_heads (separated : Separated lower upper items) :
    Set.ncard {first | Heads (spanned lower upper items) first first} = items.length := by
  have starts : {first | Heads (spanned lower upper items) first first} = {first | first ∈ items.map lower} :=
    Set.ext fun first => (heads_self_iff separated).trans List.mem_map.symm
  have distinct : (items.map lower).Nodup := by
    refine List.pairwise_map.mpr (separated.apart.imp_of_mem fun {item other} member _ apart => ?_)
    exact ne_of_lt ((separated.nonempty item member).trans apart)
  classical
  rw [starts, ← List.coe_toFinset, Set.ncard_coe_finset, List.toFinset_card_of_nodup distinct, List.length_map]

theorem isLeast_behind (separated : Separated lower upper (items ++ [item])) :
    IsLeast {bound | ∀ point ∈ spanned lower upper (items ++ [item]), point < bound} (upper item) := by
  obtain ⟨_, last, across⟩ := separated_append.mp separated
  have spans := separated.nonempty item (List.mem_append_right _ (List.mem_singleton_self _))
  have current : ∀ point, lower item ≤ point → point < upper item → point ∈ spanned lower upper (items ++ [item]) :=
    fun point below above => ⟨item, List.mem_append_right _ (List.mem_singleton_self _), below, above⟩
  constructor
  · rintro point ⟨other, member, _, above⟩
    rcases List.mem_append.mp member with early | late
    · exact above.trans ((across other early item (List.mem_singleton_self _)).trans spans)
    · exact List.mem_singleton.mp late ▸ above
  · intro bound behind
    by_contra shorter
    have begins := behind _ (current _ (le_refl _) spans)
    exact lt_irrefl _ (behind bound (current bound begins.le (lt_of_not_ge shorter)))

end Spanned

end RabbitStreamer.Lib.Runs
