import Mathlib.Order.MinMax
import Mathlib.Data.List.Perm.Subperm
import Mathlib.Data.List.ProdSigma
import Mathlib.Order.Interval.Finset.Nat
import Mathlib.Algebra.GroupWithZero.Nat

/-! Items that span stretches of an order, kept in a list in order and with a gap between
any two of them. -/

namespace RabbitStreamer.Lib.Spans

variable {ι α : Type} [LinearOrder α] {lower upper : ι → α}

structure Separated (lower upper : ι → α) (items : List ι) : Prop where
  nonempty : ∀ item ∈ items, lower item < upper item
  apart : items.Pairwise fun first second => upper first < lower second

theorem separated_nil : Separated lower upper [] := ⟨by simp, List.Pairwise.nil⟩

theorem separated_cons {item : ι} {rest : List ι} : Separated lower upper (item :: rest) ↔
    lower item < upper item ∧ (∀ other ∈ rest, upper item < lower other) ∧ Separated lower upper rest := by
  constructor
  · rintro ⟨nonempty, apart⟩
    obtain ⟨before, rest⟩ := List.pairwise_cons.mp apart
    exact ⟨nonempty item (List.mem_cons_self ..), before,
      fun other member => nonempty other (List.mem_cons_of_mem _ member), rest⟩
  · rintro ⟨spans, before, nonempty, apart⟩
    exact ⟨List.forall_mem_cons.mpr ⟨spans, nonempty⟩, List.pairwise_cons.mpr ⟨before, apart⟩⟩

theorem separated_cons_cons {item next : ι} {rest : List ι} : Separated lower upper (item :: next :: rest) ↔
    lower item < upper item ∧ upper item < lower next ∧ Separated lower upper (next :: rest) := by
  constructor
  · intro separated
    obtain ⟨spans, before, later⟩ := separated_cons.mp separated
    exact ⟨spans, before next (List.mem_cons_self ..), later⟩
  · rintro ⟨spans, before, later⟩
    refine separated_cons.mpr ⟨spans, fun other member => ?_, later⟩
    obtain ⟨nextSpans, gaps, _⟩ := separated_cons.mp later
    rcases List.mem_cons.mp member with rfl | farther
    · exact before
    · exact (before.trans nextSpans).trans (gaps other farther)

theorem separated_append {first second : List ι} : Separated lower upper (first ++ second) ↔
    Separated lower upper first ∧ Separated lower upper second ∧
      ∀ left ∈ first, ∀ right ∈ second, upper left < lower right := by
  constructor
  · rintro ⟨nonempty, apart⟩
    obtain ⟨apartFirst, apartSecond, across⟩ := List.pairwise_append.mp apart
    exact ⟨⟨fun item member => nonempty item (List.mem_append_left _ member), apartFirst⟩,
      ⟨fun item member => nonempty item (List.mem_append_right _ member), apartSecond⟩, across⟩
  · rintro ⟨⟨nonemptyFirst, apartFirst⟩, ⟨nonemptySecond, apartSecond⟩, across⟩
    refine ⟨fun item member => ?_, List.pairwise_append.mpr ⟨apartFirst, apartSecond, across⟩⟩
    rcases List.mem_append.mp member with left | right
    · exact nonemptyFirst item left
    · exact nonemptySecond item right

theorem Separated.sublist {items fewer : List ι} (separated : Separated lower upper items)
    (sub : fewer.Sublist items) : Separated lower upper fewer :=
  ⟨fun item member => separated.nonempty item (sub.subset member), separated.apart.sublist sub⟩

theorem Separated.splice {before after : List ι} {item : ι} (separated : Separated lower upper (before ++ after))
    (spans : lower item < upper item) (left : ∀ other ∈ before, upper other < lower item)
    (right : ∀ other ∈ after, upper item < lower other) : Separated lower upper (before ++ item :: after) := by
  obtain ⟨first, second, across⟩ := separated_append.mp separated
  refine separated_append.mpr ⟨first, separated_cons.mpr ⟨spans, right, second⟩, fun other member next current => ?_⟩
  rcases List.mem_cons.mp current with rfl | later
  · exact left other member
  · exact across other member next later

def Covers (lower upper : ι → α) (items : List ι) (point : α) : Prop :=
  ∃ item ∈ items, lower item ≤ point ∧ point < upper item

theorem not_covers_nil (point : α) : ¬Covers lower upper [] point := by simp [Covers]

theorem covers_cons {item : ι} {rest : List ι} {point : α} : Covers lower upper (item :: rest) point ↔
    lower item ≤ point ∧ point < upper item ∨ Covers lower upper rest point := List.exists_mem_cons_iff ..

theorem covers_append {first second : List ι} {point : α} : Covers lower upper (first ++ second) point ↔
    Covers lower upper first point ∨ Covers lower upper second point := by
  unfold Covers
  constructor
  · rintro ⟨item, member, spans⟩
    exact (List.mem_append.mp member).imp (fun left => ⟨item, left, spans⟩) fun right => ⟨item, right, spans⟩
  · rintro (⟨item, member, spans⟩ | ⟨item, member, spans⟩)
    · exact ⟨item, List.mem_append_left _ member, spans⟩
    · exact ⟨item, List.mem_append_right _ member, spans⟩

theorem covers_middle {before rest : List ι} {item : ι} {point : α} :
    Covers lower upper (before ++ item :: rest) point ↔
      lower item ≤ point ∧ point < upper item ∨ Covers lower upper (before ++ rest) point := by
  rw [covers_append, covers_cons, covers_append]
  exact or_left_comm

theorem Separated.not_covers_upper {items : List ι} (separated : Separated lower upper items) {item : ι}
    (member : item ∈ items) : ¬Covers lower upper items (upper item) := by
  obtain ⟨before, after, rfl⟩ := List.append_of_mem member
  obtain ⟨_, right, across⟩ := separated_append.mp separated
  obtain ⟨spans, gaps, _⟩ := separated_cons.mp right
  rw [covers_middle, covers_append]
  rintro (⟨_, self⟩ | ⟨other, listed, _, inside⟩ | ⟨other, listed, reaches, _⟩)
  · exact lt_irrefl _ self
  · exact lt_asymm inside ((across other listed item (List.mem_cons_self ..)).trans spans)
  · exact not_lt_of_ge reaches (gaps other listed)

theorem Separated.upper_lt {items : List ι} (separated : Separated lower upper items) {item other : ι}
    (member : item ∈ items) (present : other ∈ items) (later : lower item < lower other) :
    upper item < lower other := by
  obtain ⟨before, after, rfl⟩ := List.append_of_mem member
  obtain ⟨_, right, across⟩ := separated_append.mp separated
  rcases List.mem_append.mp present with early | late
  · have apart := across other early item (List.mem_cons_self ..)
    exact absurd ((separated.nonempty other present).trans (apart.trans later)) (lt_irrefl _)
  · rcases List.mem_cons.mp late with rfl | late
    · exact absurd later (lt_irrefl _)
    · exact (separated_cons.mp right).2.1 other late

theorem Separated.not_spanned {before rest : List ι} {item : ι}
    (separated : Separated lower upper (before ++ item :: rest)) {point : α}
    (covered : Covers lower upper (before ++ rest) point) : ¬(lower item ≤ point ∧ point < upper item) := by
  obtain ⟨_, right, across⟩ := separated_append.mp separated
  obtain ⟨other, member, above, below⟩ := covered
  rintro ⟨first, last⟩
  rcases List.mem_append.mp member with early | late
  · exact not_le_of_gt (below.trans (across other early item (List.mem_cons_self ..))) first
  · exact lt_irrefl _ ((((separated_cons.mp right).2.1 other late).trans_le above).trans last)

theorem Separated.covers_lower {item : ι} {rest : List ι} (separated : Separated lower upper (item :: rest)) :
    Covers lower upper (item :: rest) (lower item) :=
  covers_cons.mpr (Or.inl ⟨le_refl _, (separated_cons.mp separated).1⟩)

theorem Separated.lower_le {item : ι} {rest : List ι} (separated : Separated lower upper (item :: rest)) {point : α}
    (covered : Covers lower upper (item :: rest) point) : lower item ≤ point := by
  obtain ⟨spans, gaps, _⟩ := separated_cons.mp separated
  rcases covers_cons.mp covered with ⟨current, _⟩ | ⟨other, listed, below, _⟩
  · exact current
  · exact ((spans.trans (gaps other listed)).trans_le below).le

theorem Separated.covers_rest {item : ι} {rest : List ι} (separated : Separated lower upper (item :: rest))
    (point : α) : Covers lower upper rest point ↔ Covers lower upper (item :: rest) point ∧ upper item ≤ point := by
  obtain ⟨_, gaps, _⟩ := separated_cons.mp separated
  rw [covers_cons]
  constructor
  · rintro ⟨other, listed, below, inside⟩
    exact ⟨Or.inr ⟨other, listed, below, inside⟩, ((gaps other listed).trans_le below).le⟩
  · rintro ⟨⟨_, inside⟩ | later, behind⟩
    · exact absurd inside (not_lt_of_ge behind)
    · exact later

theorem Separated.upper_le {item other : ι} {rest more : List ι} (separated : Separated lower upper (other :: more))
    (begins : lower item = lower other)
    (same : ∀ point, Covers lower upper (item :: rest) point ↔ Covers lower upper (other :: more) point) :
    upper item ≤ upper other := by
  by_contra longer
  have inside : Covers lower upper (item :: rest) (upper other) :=
    covers_cons.mpr (Or.inl ⟨begins ▸ (separated_cons.mp separated).1.le, lt_of_not_ge longer⟩)
  exact separated.not_covers_upper (List.mem_cons_self ..) ((same _).mp inside)

theorem Separated.unique {first second : List ι} (separated : Separated lower upper first)
    (separatedToo : Separated lower upper second)
    (same : ∀ point, Covers lower upper first point ↔ Covers lower upper second point) :
    first.map (fun item => (lower item, upper item)) = second.map fun item => (lower item, upper item) := by
  induction first generalizing second with
  | nil =>
    cases second with
    | nil => rfl
    | cons other more => exact absurd ((same _).mpr separatedToo.covers_lower) (not_covers_nil _)
  | cons item rest ih =>
    cases second with
    | nil => exact absurd ((same _).mp separated.covers_lower) (not_covers_nil _)
    | cons other more =>
      have lowers : lower item = lower other :=
        le_antisymm (separated.lower_le ((same _).mpr separatedToo.covers_lower))
          (separatedToo.lower_le ((same _).mp separated.covers_lower))
      have uppers : upper item = upper other :=
        le_antisymm (separatedToo.upper_le lowers same)
          (separated.upper_le lowers.symm fun point => (same point).symm)
      have rests := ih (separated_cons.mp separated).2.2 (separated_cons.mp separatedToo).2.2 fun point => by
        rw [separated.covers_rest, separatedToo.covers_rest, same, uppers]
      rw [List.map_cons, List.map_cons, rests, lowers, uppers]

def Meet (lower upper : ι → α) (pair : ι × ι) : Prop :=
  max (lower pair.1) (lower pair.2) < min (upper pair.1) (upper pair.2)

instance (pair : ι × ι) : Decidable (Meet lower upper pair) :=
  inferInstanceAs (Decidable (max (lower pair.1) (lower pair.2) < min (upper pair.1) (upper pair.2)))

def common (lower upper : ι → α) (first second : List ι) : List (ι × ι) :=
  (first ×ˢ second).filter fun pair => Meet lower upper pair

theorem covers_common {first second : List ι} {point : α} :
    (∃ pair ∈ common lower upper first second,
      max (lower pair.1) (lower pair.2) ≤ point ∧ point < min (upper pair.1) (upper pair.2)) ↔
      Covers lower upper first point ∧ Covers lower upper second point := by
  constructor
  · rintro ⟨⟨item, other⟩, member, above, below⟩
    obtain ⟨left, right⟩ := List.mem_product.mp (List.mem_filter.mp member).1
    exact ⟨⟨item, left, (le_max_left ..).trans above, below.trans_le (min_le_left ..)⟩,
      other, right, (le_max_right ..).trans above, below.trans_le (min_le_right ..)⟩
  · rintro ⟨⟨item, left, above, below⟩, other, right, aboveToo, belowToo⟩
    have first : max (lower item) (lower other) ≤ point := max_le above aboveToo
    have last : point < min (upper item) (upper other) := lt_min below belowToo
    have member := List.mem_product.mpr ⟨left, right⟩
    exact ⟨(item, other), List.mem_filter.mpr ⟨member, decide_eq_true (first.trans_lt last)⟩, first, last⟩

theorem Separated.common_apart {first second : List ι} (separated : Separated lower upper first)
    (separatedToo : Separated lower upper second) :
    (common lower upper first second).Pairwise fun pair next =>
      min (upper pair.1) (upper pair.2) < max (lower next.1) (lower next.2) := by
  unfold common
  refine List.Pairwise.filter _ (List.pairwise_flatMap.mpr ⟨fun item _ => ?_, ?_⟩)
  · refine List.pairwise_map.mpr (separatedToo.apart.imp fun {left right} before => ?_)
    exact (min_le_right ..).trans_lt (before.trans_le (le_max_right ..))
  · refine separated.apart.imp fun {left right} before pair member next later => ?_
    obtain ⟨other, _, rfl⟩ := List.mem_map.mp member
    obtain ⟨another, _, rfl⟩ := List.mem_map.mp later
    exact (min_le_left ..).trans_lt (before.trans_le (le_max_left ..))

theorem Separated.common_length_le {first second : List ι} (separated : Separated lower upper first)
    (separatedToo : Separated lower upper second) :
    (common lower upper first second).length ≤ first.length + second.length := by
  have distinct : ((common lower upper first second).map fun pair => min (upper pair.1) (upper pair.2)).Nodup := by
    apply List.pairwise_map.mpr
    apply (separated.common_apart separatedToo).imp_of_mem
    intro pair next _ member apart
    have meet : Meet lower upper next := of_decide_eq_true (List.mem_filter.mp member).2
    exact ne_of_lt (apart.trans meet)
  have ends : ((common lower upper first second).map fun pair => min (upper pair.1) (upper pair.2)) ⊆
      first.map upper ++ second.map upper := by
    intro point member
    obtain ⟨pair, listed, rfl⟩ := List.mem_map.mp member
    obtain ⟨left, right⟩ := List.mem_product.mp (List.mem_filter.mp listed).1
    rcases min_choice (upper pair.1) (upper pair.2) with same | same
    · rw [same]
      exact List.mem_append_left _ (List.mem_map_of_mem left)
    · rw [same]
      exact List.mem_append_right _ (List.mem_map_of_mem right)
  have fewer := (distinct.subperm ends).length_le
  rwa [List.length_append, List.length_map, List.length_map, List.length_map] at fewer

section Counting
variable {lower upper : ι → Nat}

instance (items : List ι) (point : Nat) : Decidable (Covers lower upper items point) :=
  inferInstanceAs (Decidable (∃ item ∈ items, lower item ≤ point ∧ point < upper item))

theorem Separated.card_covers {items : List ι} (separated : Separated lower upper items) (first last : Nat) :
    ((Finset.Ico first last).filter fun point => Covers lower upper items point).card =
      (items.map fun item => min (upper item) last - max (lower item) first).sum := by
  induction items with
  | nil => simp [not_covers_nil]
  | cons item rest ih =>
    have current : ((Finset.Ico first last).filter fun point => lower item ≤ point ∧ point < upper item) =
        Finset.Ico (max (lower item) first) (min (upper item) last) := by
      ext point
      simp only [Finset.mem_filter, Finset.mem_Ico]
      omega
    have apart : Disjoint ((Finset.Ico first last).filter fun point => lower item ≤ point ∧ point < upper item)
        ((Finset.Ico first last).filter fun point => Covers lower upper rest point) := by
      refine Finset.disjoint_filter.mpr fun point _ inside later => ?_
      exact absurd inside.2 (Nat.not_lt_of_le ((separated.covers_rest point).mp later).2)
    simp only [covers_cons]
    rw [Finset.filter_or, Finset.card_union_of_disjoint apart, current, Nat.card_Ico,
      ih (separated_cons.mp separated).2.2, List.map_cons, List.sum_cons]

end Counting

end RabbitStreamer.Lib.Spans
