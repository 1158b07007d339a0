import RabbitStreamer.Core.IntervalShape

/-! `AddInterval` puts a range in among the others and takes out what it reaches, also where an
interval goes beyond the last id. -/

namespace RabbitStreamer.Core.IntervalInvariant
open RabbitStreamer.Core.Struct RabbitStreamer.Core.Interval
open RabbitStreamer.Core.Interval.IntervalArray

theorem upper_front {start : UInt32} {interval : BlockInterval} (front : start.toNat ≤ interval.start.toNat)
    (inside : upper interval ≤ 4294967295) :
    upper ⟨start, interval.size + (interval.start - start)⟩ = upper interval := by
  have shift := sub_toNat front
  unfold upper at *
  simp only [UInt32.toNat_add, shift]
  omega

theorem upper_back {start size : UInt32} {interval : BlockInterval} (back : interval.start.toNat ≤ start.toNat)
    (room : start.toNat + size.toNat ≤ 4294967295) :
    upper ⟨interval.start, start + size - interval.start⟩ = start.toNat + size.toNat := by
  have total := add_toNat room
  have rest := sub_toNat (show interval.start.toNat ≤ (start + size).toNat by omega)
  unfold upper
  simp only [rest, total]
  omega

theorem merged_total {start size : UInt32} {interval : BlockInterval} (back : interval.start.toNat ≤ start.toNat)
    (room : start.toNat + size.toNat ≤ 4294967295) :
    interval.start.toNat + (size + (start - interval.start)).toNat = start.toNat + size.toNat := by
  have shift := sub_toNat back
  simp only [UInt32.toNat_add, shift]
  omega

theorem scan_skip (start size : UInt32) (i : Nat) (intervals : List BlockInterval) :
    ∃ before after, intervals = before ++ after ∧
      (∀ interval ∈ before, ¬start < interval.start ∧ ¬start ≤ interval.start + interval.size) ∧
      scan start size i intervals = scan start size (i + before.length) after ∧
      ∀ interval ∈ after.head?, start < interval.start ∨ start ≤ interval.start + interval.size := by
  induction intervals generalizing i with
  | nil => exact ⟨[], [], rfl, by simp, rfl, by simp⟩
  | cons interval rest ih =>
    by_cases reached : start < interval.start ∨ start ≤ interval.start + interval.size
    · exact ⟨[], interval :: rest, rfl, by simp, rfl, by simpa using reached⟩
    · have ⟨after, beyond⟩ := not_or.mp reached
      obtain ⟨skipped, left, rfl, passed, same, head⟩ := ih (i + 1)
      refine ⟨interval :: skipped, left, rfl, List.forall_mem_cons.mpr ⟨⟨after, beyond⟩, passed⟩, ?_, head⟩
      rw [scan.eq_def]
      simp only [if_neg after, if_neg beyond]
      rw [same, List.length_cons, Nat.add_assoc, Nat.add_comm 1]

/-- The loop of `AddInterval` passes over an interval that begins and ends before the new one. -/
def Passed (start : UInt32) (interval : BlockInterval) : Prop :=
  ¬start < interval.start ∧ ¬start ≤ interval.start + interval.size

/-- What the loop of `AddInterval` finds, and where. -/
inductive Scanned (start size : UInt32) (intervals : List BlockInterval) : Scan → Prop
  | insert {before after : List BlockInterval} (split : intervals = before ++ after)
      (passed : ∀ interval ∈ before, Passed start interval)
      (gap : ∀ next ∈ after.head?, start < next.start ∧ start + size < next.start) :
      Scanned start size intervals (.insert before.length)
  | front {before rest : List BlockInterval} {interval : BlockInterval}
      (split : intervals = before ++ interval :: rest)
      (passed : ∀ interval ∈ before, Passed start interval) (later : start < interval.start)
      (reaches : interval.start ≤ start + size) (inside : start + size ≤ interval.start + interval.size) :
      Scanned start size intervals (.change before.length ⟨start, interval.size + (interval.start - start)⟩)
  | swallow {before rest : List BlockInterval} {interval : BlockInterval}
      (split : intervals = before ++ interval :: rest)
      (passed : ∀ interval ∈ before, Passed start interval) (later : start < interval.start)
      (reaches : interval.start ≤ start + size) (beyond : interval.start + interval.size < start + size) :
      Scanned start size intervals (.again before.length start size)
  | covered {before rest : List BlockInterval} {interval : BlockInterval}
      (split : intervals = before ++ interval :: rest)
      (first : interval.start ≤ start) (meets : start ≤ interval.start + interval.size)
      (inside : start + size ≤ interval.start + interval.size) : Scanned start size intervals .covered
  | back {before rest : List BlockInterval} {interval : BlockInterval}
      (split : intervals = before ++ interval :: rest)
      (first : interval.start ≤ start) (meets : start ≤ interval.start + interval.size)
      (beyond : interval.start + interval.size < start + size)
      (gap : ∀ next ∈ rest.head?, start + size < next.start) :
      Scanned start size intervals (.change before.length ⟨interval.start, start + size - interval.start⟩)
  | merge {before rest : List BlockInterval} {interval : BlockInterval}
      (split : intervals = before ++ interval :: rest)
      (first : interval.start ≤ start) (meets : start ≤ interval.start + interval.size)
      (beyond : interval.start + interval.size < start + size) :
      Scanned start size intervals (.again before.length interval.start (size + (start - interval.start)))

theorem scanned (start size : UInt32) (intervals : List BlockInterval) :
    Scanned start size intervals (scan start size 0 intervals) := by
  obtain ⟨before, after, split, passed, same, reached⟩ := scan_skip start size 0 intervals
  rw [same, Nat.zero_add]
  cases after with
  | nil => exact .insert split passed (by simp)
  | cons interval rest =>
    rw [scan.eq_def]
    dsimp only
    split_ifs with later short inside meets inside
    · refine .insert split passed fun next head => ?_
      cases head
      exact ⟨later, short⟩
    · exact .front split passed later (UInt32.not_lt.mp short) inside
    · exact .swallow split passed later (UInt32.not_lt.mp short) (UInt32.not_le.mp inside)
    · exact .covered split (UInt32.not_lt.mp later) meets inside
    · have first := UInt32.not_lt.mp later
      have beyond := UInt32.not_le.mp inside
      cases rest with
      | nil => exact .back split first meets beyond (by simp)
      | cons next rest =>
        dsimp only
        split_ifs with gap
        · exact .back split first meets beyond (by simpa using gap)
        · exact .merge split first meets beyond
    · exact absurd (reached interval rfl) (by simp [later, meets])

/-- The first of two intervals begins no later and, unless it goes beyond the last id, ends before
the second begins. -/
def Ahead (first second : BlockInterval) : Prop :=
  lower first ≤ lower second ∧ (upper first ≤ 4294967295 → upper first < lower second)

structure Mixed (intervals : List BlockInterval) : Prop where
  positive : ∀ interval ∈ intervals, 0 < interval.size.toNat
  ordered : intervals.Pairwise Ahead

def Holding (intervals : List BlockInterval) (id : Nat) : Prop :=
  ∃ interval ∈ intervals, upper interval ≤ 4294967295 ∧ lower interval ≤ id ∧ id < upper interval

def Wrapped (intervals : List BlockInterval) (first : Nat) : Prop :=
  ∃ interval ∈ intervals, 4294967295 < upper interval ∧ lower interval = first

theorem wellFormed_iff_mixed {intervals : List BlockInterval} :
    WellFormed intervals ↔ Mixed intervals ∧ ∀ first, ¬Wrapped intervals first := by
  constructor
  · rintro ⟨⟨nonempty, apart⟩, bounded⟩
    refine ⟨⟨fun interval member => Nat.pos_of_lt_add_right (nonempty interval member), ?_⟩, ?_⟩
    · refine apart.imp_of_mem fun {first second} member _ before => ⟨?_, fun _ => before⟩
      exact Nat.le_of_lt ((nonempty first member).trans before)
    · rintro first ⟨interval, member, wraps, _⟩
      exact absurd (bounded interval member) (Nat.not_le_of_lt wraps)
  · rintro ⟨⟨positive, ordered⟩, unwrapped⟩
    have bounded : ∀ interval ∈ intervals, upper interval ≤ 4294967295 := fun interval member =>
      Nat.le_of_not_lt fun wraps => unwrapped _ ⟨interval, member, wraps, rfl⟩
    exact ⟨⟨fun interval member => Nat.lt_add_of_pos_right (positive interval member),
      ordered.imp_of_mem fun member _ ahead => ahead.2 (bounded _ member)⟩, bounded⟩

theorem exists_middle {α : Type} {before rest : List α} {item : α} {holds : α → Prop} :
    (∃ other ∈ before ++ item :: rest, holds other) ↔ holds item ∨ ∃ other ∈ before ++ rest, holds other := by
  simp only [List.mem_append, List.mem_cons, or_and_right, exists_or, exists_eq_left]
  exact or_left_comm

namespace Mixed
variable {before after rest : List BlockInterval} {interval : BlockInterval}

theorem sublist {intervals fewer : List BlockInterval} (mixed : Mixed intervals) (sub : fewer.Sublist intervals) :
    Mixed fewer := ⟨fun interval member => mixed.positive interval (sub.subset member), mixed.ordered.sublist sub⟩

theorem remove (mixed : Mixed (before ++ interval :: rest)) : Mixed (before ++ rest) :=
  mixed.sublist (List.Sublist.append_left (List.sublist_cons_self interval rest) before)

theorem splice (mixed : Mixed (before ++ after)) (positive : 0 < interval.size.toNat)
    (left : ∀ other ∈ before, Ahead other interval) (right : ∀ other ∈ after, Ahead interval other) :
    Mixed (before ++ interval :: after) := by
  obtain ⟨first, second, across⟩ := List.pairwise_append.mp mixed.ordered
  constructor
  · intro other member
    rcases List.mem_append.mp member with present | present
    · exact mixed.positive other (List.mem_append_left _ present)
    · rcases List.mem_cons.mp present with rfl | present
      · exact positive
      · exact mixed.positive other (List.mem_append_right _ present)
  · refine List.pairwise_append.mpr ⟨first, List.pairwise_cons.mpr ⟨right, second⟩,
      fun other present next member => ?_⟩
    rcases List.mem_cons.mp member with rfl | later
    · exact left other present
    · exact across other present next later

theorem ahead_of_before (mixed : Mixed (before ++ interval :: rest)) : ∀ other ∈ before, Ahead other interval :=
  fun other member => (List.pairwise_append.mp mixed.ordered).2.2 other member interval (List.mem_cons_self ..)

theorem ahead_of_rest (mixed : Mixed (before ++ interval :: rest)) : ∀ other ∈ rest, Ahead interval other :=
  (List.pairwise_cons.mp (List.pairwise_append.mp mixed.ordered).2.1).1

theorem beyond_head (mixed : Mixed (before ++ after)) {bound : Nat}
    (head : ∀ next ∈ after.head?, bound < lower next) : ∀ other ∈ after, bound < lower other := by
  have ordered := (List.pairwise_append.mp mixed.ordered).2.1
  cases after with
  | nil => simp
  | cons next later =>
    refine List.forall_mem_cons.mpr ⟨head next rfl, fun other member => ?_⟩
    exact Nat.lt_of_lt_of_le (head next rfl) ((List.pairwise_cons.mp ordered).1 other member).1

end Mixed

theorem passed_ahead {start : UInt32} {other : BlockInterval} (passed : Passed start other) (size : UInt32) :
    Ahead other ⟨start, size⟩ := by
  obtain ⟨notLater, beyond⟩ := passed
  rw [UInt32.lt_iff_toNat_lt] at notLater
  refine ⟨Nat.le_of_not_lt notLater, fun bounded => ?_⟩
  rw [UInt32.le_iff_toNat_le, add_toNat bounded] at beyond
  exact Nat.lt_of_not_le beyond

/-- An interval whose end, as the code reckons it, does not lie before its start does not go beyond
the last id. -/
theorem upper_of_le {interval : BlockInterval} {id : UInt32} (first : interval.start ≤ id)
    (meets : id ≤ interval.start + interval.size) (positive : 0 < interval.size.toNat) :
    upper interval ≤ 4294967295 := by
  rw [UInt32.le_iff_toNat_le] at first meets
  rw [UInt32.toNat_add] at meets
  have below := interval.size.toNat_lt
  unfold upper
  omega

/-- What `AddInterval` makes of intervals where the new one does not go beyond the last id: it is
put in, unless the array is full, and what it reaches of the others goes. -/
structure Added (intervals : List BlockInterval) (start size : UInt32) (after : List BlockInterval) : Prop where
  mixed : Mixed after
  holding : intervals.length < 65535 →
    ∀ id, Holding after id ↔ Holding intervals id ∨ start.toNat ≤ id ∧ id < start.toNat + size.toNat
  wrapped : ∀ first, Wrapped after first ↔
    Wrapped intervals first ∧ ¬(start.toNat < first ∧ first ≤ start.toNat + size.toNat)

section Additions
variable {array : IntervalArray} {start size : UInt32} {before after rest : List BlockInterval}
  {interval : BlockInterval}

theorem added_of_apart {intervals after : List BlockInterval} (mixed : Mixed after)
    (holding : intervals.length < 65535 →
      ∀ id, Holding after id ↔ Holding intervals id ∨ start.toNat ≤ id ∧ id < start.toNat + size.toNat)
    (same : ∀ first, Wrapped after first ↔ Wrapped intervals first)
    (apart : ∀ other ∈ intervals, 4294967295 < upper other →
      lower other ≤ start.toNat ∨ start.toNat + size.toNat < lower other) :
    Added intervals start size after where
  mixed := mixed
  holding := holding
  wrapped first := by
    rw [same]
    constructor
    · rintro ⟨other, member, wraps, rfl⟩
      refine ⟨⟨other, member, wraps, rfl⟩, fun reached => ?_⟩
      rcases apart other member wraps with early | late
      · exact Nat.not_lt_of_le early reached.1
      · exact Nat.not_lt_of_le reached.2 late
    · exact And.left

theorem apart_middle (mixed : Mixed (before ++ interval :: rest)) (bounded : upper interval ≤ 4294967295)
    (early : ∀ other ∈ before, lower other ≤ start.toNat)
    (late : ∀ other ∈ rest, start.toNat + size.toNat < lower other) :
    ∀ other ∈ before ++ interval :: rest, 4294967295 < upper other →
      lower other ≤ start.toNat ∨ start.toNat + size.toNat < lower other := by
  intro other member wraps
  rcases List.mem_append.mp member with present | present
  · exact Or.inl (early other present)
  · rcases List.mem_cons.mp present with rfl | present
    · exact absurd bounded (Nat.not_le_of_lt wraps)
    · exact Or.inr (late other present)

theorem wrapped_middle (bounded : upper interval ≤ 4294967295) (first : Nat) :
    Wrapped (before ++ interval :: rest) first ↔ Wrapped (before ++ rest) first := by
  unfold Wrapped
  rw [exists_middle, or_iff_right fun wraps => Nat.not_le_of_lt wraps.1 bounded]

theorem holding_middle (bounded : upper interval ≤ 4294967295) (id : Nat) :
    Holding (before ++ interval :: rest) id ↔
      lower interval ≤ id ∧ id < upper interval ∨ Holding (before ++ rest) id := by
  unfold Holding
  rw [exists_middle]
  simp only [bounded, true_and]

theorem added_insert (mixed : Mixed array.intervals) (positive : 0 < size.toNat)
    (room : start.toNat + size.toNat ≤ 4294967295) (split : array.intervals = before ++ after)
    (passed : ∀ interval ∈ before, Passed start interval)
    (gap : ∀ next ∈ after.head?, start < next.start ∧ start + size < next.start) :
    Added array.intervals start size (array.safeInsert before.length ⟨start, size⟩).intervals := by
  have total := add_toNat room
  have left := fun other member => passed_ahead (passed other member) size
  have right : ∀ other ∈ after, start.toNat + size.toNat < lower other := by
    refine (split ▸ mixed).beyond_head fun next head => ?_
    rw [← total]
    exact UInt32.lt_iff_toNat_lt.mp (gap next head).2
  have apart : ∀ other ∈ before ++ after, 4294967295 < upper other →
      lower other ≤ start.toNat ∨ start.toNat + size.toNat < lower other := fun other member _ =>
    (List.mem_append.mp member).imp (fun early => (left other early).1) (right other)
  have inserted := safeInsert_intervals split ⟨start, size⟩
  rw [split] at mixed inserted ⊢
  rw [inserted]
  split_ifs with full
  · exact added_of_apart mixed (fun few => absurd full (Nat.ne_of_lt few)) (fun _ => Iff.rfl) apart
  · refine added_of_apart ?_ (fun _ id => ?_) (wrapped_middle room) apart
    · refine mixed.splice positive left fun other member => ⟨?_, fun _ => right other member⟩
      exact Nat.le_trans (Nat.le_add_right ..) (Nat.le_of_lt (right other member))
    · rw [holding_middle (show upper ⟨start, size⟩ ≤ 4294967295 from room), or_comm]
      rfl

theorem added_set (mixed : Mixed array.intervals) (split : array.intervals = before ++ interval :: rest)
    (bounded : upper interval ≤ 4294967295) {longer : BlockInterval} (inside : upper longer ≤ 4294967295)
    (left : ∀ other ∈ before, Ahead other longer) (early : ∀ other ∈ before, lower other ≤ start.toNat)
    (right : ∀ other ∈ rest, upper longer < lower other) (first : lower longer = min (lower interval) start.toNat)
    (last : upper longer = max (upper interval) (start.toNat + size.toNat))
    (touch : lower interval ≤ start.toNat + size.toNat ∧ start.toNat ≤ upper interval) :
    Added array.intervals start size (array.set before.length longer).intervals := by
  rw [set_intervals split]
  rw [split] at mixed ⊢
  have positive : 0 < interval.size.toNat := mixed.positive interval (List.mem_append_right _ (List.mem_cons_self ..))
  have spans : lower interval < upper interval := Nat.lt_add_of_pos_right positive
  refine added_of_apart ?_ (fun _ id => ?_) (fun wrap => ?_) ?_
  · refine mixed.remove.splice ?_ left fun other member => ⟨?_, fun _ => right other member⟩
    · exact Nat.pos_of_lt_add_right (show lower longer < upper longer by omega)
    · exact Nat.le_trans (Nat.le_add_right ..) (Nat.le_of_lt (right other member))
  · rw [holding_middle inside, holding_middle bounded, or_right_comm]
    refine or_congr_left ?_
    omega
  · rw [wrapped_middle inside, wrapped_middle bounded]
  · refine apart_middle mixed bounded early fun other member => ?_
    exact Nat.lt_of_le_of_lt (last ▸ Nat.le_max_right ..) (right other member)

theorem added_front (mixed : Mixed array.intervals) (room : start.toNat + size.toNat ≤ 4294967295)
    (split : array.intervals = before ++ interval :: rest) (passed : ∀ interval ∈ before, Passed start interval)
    (later : start < interval.start) (reaches : interval.start ≤ start + size)
    (inside : start + size ≤ interval.start + interval.size) :
    Added array.intervals start size
      (array.set before.length ⟨start, interval.size + (interval.start - start)⟩).intervals := by
  have mixedToo := split ▸ mixed
  have positive := mixedToo.positive interval (List.mem_append_right _ (List.mem_cons_self ..))
  have bounded := upper_of_le reaches inside positive
  have front : start.toNat < lower interval := UInt32.lt_iff_toNat_lt.mp later
  have grown := upper_front (Nat.le_of_lt front) bounded
  rw [UInt32.le_iff_toNat_le, add_toNat room] at reaches inside
  rw [add_toNat bounded] at inside
  have left := fun other member => passed_ahead (passed other member) (interval.size + (interval.start - start))
  refine added_set mixed split bounded (grown ▸ bounded) left (fun other member => (left other member).1) ?_ ?_ ?_ ?_
  · intro other member
    rw [grown]
    exact (mixedToo.ahead_of_rest other member).2 bounded
  · exact (Nat.min_eq_right (Nat.le_of_lt front)).symm
  · exact grown.trans (Nat.max_eq_left inside).symm
  · exact ⟨reaches, Nat.le_of_lt (Nat.lt_of_lt_of_le front (Nat.le_add_right ..))⟩

theorem added_back (mixed : Mixed array.intervals) (room : start.toNat + size.toNat ≤ 4294967295)
    (split : array.intervals = before ++ interval :: rest) (first : interval.start ≤ start)
    (meets : start ≤ interval.start + interval.size) (beyond : interval.start + interval.size < start + size)
    (gap : ∀ next ∈ rest.head?, start + size < next.start) :
    Added array.intervals start size
      (array.set before.length ⟨interval.start, start + size - interval.start⟩).intervals := by
  have mixedToo := split ▸ mixed
  have positive := mixedToo.positive interval (List.mem_append_right _ (List.mem_cons_self ..))
  have bounded := upper_of_le first meets positive
  have back : lower interval ≤ start.toNat := UInt32.le_iff_toNat_le.mp first
  have grown := upper_back back room
  rw [UInt32.le_iff_toNat_le, add_toNat bounded] at meets
  rw [UInt32.lt_iff_toNat_lt, add_toNat room, add_toNat bounded] at beyond
  have left := mixedToo.ahead_of_before
  refine added_set mixed split bounded (grown ▸ room) left (fun other member => ?_) ?_ ?_ ?_ ?_
  · exact Nat.le_trans (left other member).1 back
  · rw [grown, ← add_toNat room]
    rw [← List.singleton_append, ← List.append_assoc] at mixedToo
    exact mixedToo.beyond_head fun next head => UInt32.lt_iff_toNat_lt.mp (gap next head)
  · exact (Nat.min_eq_left back).symm
  · exact grown.trans (Nat.max_eq_right (Nat.le_of_lt beyond)).symm
  · exact ⟨Nat.le_trans back (Nat.le_add_right ..), meets⟩

theorem added_covered (mixed : Mixed array.intervals) (room : start.toNat + size.toNat ≤ 4294967295)
    (split : array.intervals = before ++ interval :: rest) (first : interval.start ≤ start)
    (meets : start ≤ interval.start + interval.size) (inside : start + size ≤ interval.start + interval.size) :
    Added array.intervals start size array.intervals := by
  rw [split] at mixed ⊢
  have positive := mixed.positive interval (List.mem_append_right _ (List.mem_cons_self ..))
  have bounded := upper_of_le first meets positive
  have back : lower interval ≤ start.toNat := UInt32.le_iff_toNat_le.mp first
  rw [UInt32.le_iff_toNat_le, add_toNat room, add_toNat bounded] at inside
  refine added_of_apart mixed (fun _ id => ?_) (fun _ => Iff.rfl) (apart_middle mixed bounded ?_ ?_)
  · rw [holding_middle bounded, or_right_comm]
    refine (or_congr_left ?_).symm
    unfold upper lower at *
    omega
  · exact fun other member => Nat.le_trans (mixed.ahead_of_before other member).1 back
  · exact fun other member => Nat.lt_of_le_of_lt inside ((mixed.ahead_of_rest other member).2 bounded)

theorem added_swallow {after : List BlockInterval} (later : start.toNat < lower interval)
    (reaches : lower interval ≤ start.toNat + size.toNat)
    (beyond : upper interval ≤ 4294967295 → upper interval < start.toNat + size.toNat)
    (added : Added (before ++ rest) start size after) : Added (before ++ interval :: rest) start size after := by
  refine ⟨added.mixed, fun few id => ?_, fun first => ?_⟩
  · rw [List.length_append, List.length_cons] at few
    rw [added.holding (by rw [List.length_append]; omega), Holding, Holding, exists_middle]
    constructor
    · exact Or.imp_left Or.inr
    · rintro ((⟨bounded, above, below⟩ | present) | new)
      · exact Or.inr ⟨Nat.le_trans (Nat.le_of_lt later) above, Nat.lt_trans below (beyond bounded)⟩
      · exact Or.inl present
      · exact Or.inr new
  · rw [added.wrapped, Wrapped, Wrapped, exists_middle]
    constructor
    · exact fun ⟨present, free⟩ => ⟨Or.inr present, free⟩
    · rintro ⟨⟨_, rfl⟩ | present, free⟩
      · exact absurd ⟨later, reaches⟩ free
      · exact ⟨present, free⟩

theorem added_merge {after : List BlockInterval} {total : UInt32} (mixed : Mixed (before ++ interval :: rest))
    (bounded : upper interval ≤ 4294967295) (first : lower interval ≤ start.toNat)
    (meets : start.toNat ≤ upper interval) (beyond : upper interval < start.toNat + size.toNat)
    (ends : interval.start.toNat + total.toNat = start.toNat + size.toNat)
    (added : Added (before ++ rest) interval.start total after) :
    Added (before ++ interval :: rest) start size after := by
  refine ⟨added.mixed, fun few id => ?_, fun wrap => ?_⟩
  · rw [List.length_append, List.length_cons] at few
    rw [added.holding (by rw [List.length_append]; omega), holding_middle bounded, or_right_comm, or_comm, ends]
    refine or_congr_left ?_
    show lower interval ≤ id ∧ _ ↔ _
    omega
  · rw [added.wrapped, wrapped_middle bounded, ends]
    refine and_congr_right fun ⟨other, member, wraps, begins⟩ => not_congr (and_congr_left fun _ => ?_)
    show lower interval < wrap ↔ _
    rcases List.mem_append.mp member with early | late
    · have before := (mixed.ahead_of_before other early).1
      omega
    · have behind := (mixed.ahead_of_rest other late).2 bounded
      omega

theorem added_within {depth : Nat} (mixed : Mixed array.intervals) (room : start.toNat + size.toNat ≤ 4294967295)
    (enough : array.intervals.length < depth) :
    Added array.intervals start size (array.addIntervalWithin start size depth).intervals := by
  induction depth generalizing array start size with
  | zero => exact absurd enough (Nat.not_lt_zero _)
  | succ depth ih =>
    unfold addIntervalWithin
    have nothing : size.toNat = 0 → Added array.intervals start size array.intervals := by
      intro zero
      refine added_of_apart mixed (fun _ id => (or_iff_left (by omega)).symm) (fun _ => Iff.rfl) fun _ _ _ => ?_
      omega
    split_ifs with last empty
    · have most : start.toNat = 4294967295 := by rw [last]; rfl
      exact nothing (by omega)
    · exact nothing (by rw [empty]; rfl)
    have positive : 0 < size.toNat := Nat.pos_of_ne_zero fun zero => empty (UInt32.toNat_inj.mp zero)
    have shorter : ∀ {before rest : List BlockInterval} {interval : BlockInterval},
        array.intervals = before ++ interval :: rest → (array.safeDelete before.length).intervals.length < depth := by
      intro before rest interval split
      rw [split, List.length_append, List.length_cons] at enough
      rw [safeDelete_intervals split, List.length_append]
      omega
    have found := scanned start size array.intervals
    generalize scan start size 0 array.intervals = result at found ⊢
    cases found with
    | insert split passed gap => exact added_insert mixed positive room split passed gap
    | front split passed later reaches inside => exact added_front mixed room split passed later reaches inside
    | back split first meets beyond gap => exact added_back mixed room split first meets beyond gap
    | covered split first meets inside => exact added_covered mixed room split first meets inside
    | swallow split passed later reaches beyond =>
      have deleted := safeDelete_intervals split
      have added := ih (deleted ▸ (split ▸ mixed).remove) room (shorter split)
      rw [deleted] at added
      rw [split]
      rw [UInt32.le_iff_toNat_le, add_toNat room] at reaches
      refine added_swallow (UInt32.lt_iff_toNat_lt.mp later) reaches (fun bounded => ?_) added
      rwa [UInt32.lt_iff_toNat_lt, add_toNat room, add_toNat bounded] at beyond
    | merge split first meets beyond =>
      have mixedToo := split ▸ mixed
      have bounded := upper_of_le first meets (mixedToo.positive _ (List.mem_append_right _ (List.mem_cons_self ..)))
      rw [UInt32.le_iff_toNat_le] at first
      rw [UInt32.le_iff_toNat_le, add_toNat bounded] at meets
      rw [UInt32.lt_iff_toNat_lt, add_toNat room, add_toNat bounded] at beyond
      have ends := merged_total first room
      have deleted := safeDelete_intervals split
      have added := ih (deleted ▸ mixedToo.remove) (ends.trans_le room) (shorter split)
      rw [deleted] at added
      rw [split]
      exact added_merge mixedToo bounded first meets beyond ends added

end Additions

theorem added_addInterval {array : IntervalArray} {start size : UInt32} (mixed : Mixed array.intervals)
    (room : start.toNat + size.toNat ≤ 4294967295) :
    Added array.intervals start size (array.addInterval start size).intervals :=
  added_within mixed room (Nat.lt_succ_self _)

theorem wellFormed_addInterval {array : IntervalArray} {start size : UInt32} (formed : WellFormed array.intervals)
    (room : start.toNat + size.toNat ≤ 4294967295) : WellFormed (array.addInterval start size).intervals := by
  obtain ⟨mixed, unwrapped⟩ := wellFormed_iff_mixed.mp formed
  have added := added_addInterval mixed room
  exact wellFormed_iff_mixed.mpr ⟨added.mixed, fun first wraps => unwrapped first ((added.wrapped first).mp wraps).1⟩

end RabbitStreamer.Core.IntervalInvariant
