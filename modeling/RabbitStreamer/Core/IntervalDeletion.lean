import RabbitStreamer.Core.IntervalAddition

/-! `DelInterval` takes the ids of a range out, unless an interval begins with it. -/

namespace RabbitStreamer.Core.IntervalInvariant
open RabbitStreamer.Lib.Spans RabbitStreamer.Core.Struct RabbitStreamer.Core.Interval
open RabbitStreamer.Core.Interval.IntervalArray

theorem cut_skip (start size : UInt32) (i : Nat) (intervals : List BlockInterval) :
    ∃ before after, intervals = before ++ after ∧
      (∀ interval ∈ before, ¬start < interval.start ∧ ¬start < interval.start + interval.size) ∧
      cut start size i intervals = cut start size (i + before.length) after ∧
      ∀ interval ∈ after.head?, start < interval.start ∨ start < interval.start + interval.size := by
  induction intervals generalizing i with
  | nil => exact ⟨[], [], rfl, by simp, rfl, by simp⟩
  | cons interval rest ih =>
    by_cases reached : start < interval.start ∨ start < interval.start + interval.size
    · exact ⟨[], interval :: rest, rfl, by simp, rfl, by simpa using reached⟩
    · have ⟨after, beyond⟩ := not_or.mp reached
      obtain ⟨skipped, left, rfl, passed, same, head⟩ := ih (i + 1)
      refine ⟨interval :: skipped, left, rfl, List.forall_mem_cons.mpr ⟨⟨after, beyond⟩, passed⟩, ?_, head⟩
      rw [cut, if_neg after, if_neg beyond, same, List.length_cons, Nat.add_assoc, Nat.add_comm 1]

theorem upper_behind {start size : UInt32} {interval : BlockInterval} (inside : upper interval ≤ 4294967295)
    (room : start.toNat + size.toNat ≤ 4294967295) (beyond : start.toNat + size.toNat < upper interval) :
    upper ⟨start + size, interval.start + interval.size - (start + size)⟩ = upper interval := by
  have total := add_toNat room
  have ends := add_toNat inside
  unfold upper at *
  have rest := sub_toNat (show (start + size).toNat ≤ (interval.start + interval.size).toNat by omega)
  simp only [rest, total, ends]
  omega

theorem cut_at_start {start size : UInt32} {interval : BlockInterval} (at_start : interval.start = start)
    (meets : start < interval.start + interval.size) (i : Nat) (rest : List BlockInterval) :
    cut start size i (interval :: rest) = if interval.start + interval.size ≤ start + size then .delete i
      else .change i ⟨start + size, interval.start + interval.size - (start + size)⟩ := by
  have before : ¬start < interval.start := by rw [at_start]; exact UInt32.lt_irrefl start
  have same : interval.size - (start + size - interval.start) = interval.start + interval.size - (start + size) := by
    apply UInt32.toNat_inj.mp
    have first := interval.start.toNat_lt
    have second := interval.size.toNat_lt
    simp only [UInt32.toNat_sub, UInt32.toNat_add]
    omega
  rw [← same, cut, if_neg before, if_pos meets]
  simp only [at_start, ne_eq, not_true_eq_false, if_false, if_true]

theorem cut_inside {start size : UInt32} {interval : BlockInterval} (before : interval.start < start)
    (meets : start < interval.start + interval.size) (i : Nat) (rest : List BlockInterval) :
    cut start size i (interval :: rest) =
      if interval.start + interval.size ≤ start + size then .changeAgain i ⟨interval.start, start - interval.start⟩
      else .split i ⟨interval.start, start - interval.start⟩
        ⟨start + size, interval.start + interval.size - (start + size)⟩ := by
  have different : interval.start ≠ start := UInt32.ne_of_lt before
  rw [cut, if_neg (UInt32.lt_asymm before), if_pos meets]
  simp only [if_pos different, if_neg different]

theorem upper_head {start : UInt32} {interval : BlockInterval} (front : interval.start.toNat < start.toNat) :
    upper ⟨interval.start, start - interval.start⟩ = start.toNat := by
  have rest := sub_toNat (Nat.le_of_lt front)
  simp only [upper, rest]
  omega

theorem cut_passed (start size : UInt32) (i : Nat) {before : List BlockInterval}
    (passed : ∀ interval ∈ before, ¬start < interval.start ∧ ¬start < interval.start + interval.size)
    (after : List BlockInterval) : cut start size i (before ++ after) = cut start size (i + before.length) after := by
  induction before generalizing i with
  | nil => rfl
  | cons interval before ih =>
    obtain ⟨⟨later, beyond⟩, others⟩ := List.forall_mem_cons.mp passed
    rw [List.cons_append, cut, if_neg later, if_neg beyond, ih (i + 1) others, List.length_cons, Nat.add_assoc,
      Nat.add_comm 1]

/-- What the loop of `DelInterval` finds, and where. -/
inductive Cutting (start size : UInt32) (intervals : List BlockInterval) : Cut → Prop
  | nothing {before after : List BlockInterval} (split : intervals = before ++ after)
      (passed : ∀ interval ∈ before, ¬start < interval.start ∧ ¬start < interval.start + interval.size)
      (gap : ∀ next ∈ after.head?, start < next.start ∧ start + size < next.start) :
      Cutting start size intervals .nothing
  | behind {before rest : List BlockInterval} {interval : BlockInterval}
      (split : intervals = before ++ interval :: rest)
      (passed : ∀ interval ∈ before, ¬start < interval.start ∧ ¬start < interval.start + interval.size)
      (later : start ≤ interval.start) (reaches : start < interval.start → interval.start ≤ start + size)
      (more : start + size < interval.start + interval.size) : Cutting start size intervals
        (.change before.length ⟨start + size, interval.start + interval.size - (start + size)⟩)
  | delete {before rest : List BlockInterval} {interval : BlockInterval}
      (split : intervals = before ++ interval :: rest)
      (at_start : interval.start = start) (covered : interval.start + interval.size ≤ start + size) :
      Cutting start size intervals (.delete before.length)
  | split {before rest : List BlockInterval} {interval : BlockInterval}
      (split : intervals = before ++ interval :: rest)
      (first : interval.start < start) (more : start + size < interval.start + interval.size) :
      Cutting start size intervals (.split before.length ⟨interval.start, start - interval.start⟩
        ⟨start + size, interval.start + interval.size - (start + size)⟩)
  | changeAgain {before rest : List BlockInterval} {interval : BlockInterval}
      (split : intervals = before ++ interval :: rest) (first : interval.start < start)
      (meets : start < interval.start + interval.size) (covered : interval.start + interval.size ≤ start + size) :
      Cutting start size intervals (.changeAgain before.length ⟨interval.start, start - interval.start⟩)
  | deleteAgain {before rest : List BlockInterval} {interval : BlockInterval}
      (split : intervals = before ++ interval :: rest) (later : start < interval.start)
      (reaches : interval.start ≤ start + size) (covered : interval.start + interval.size ≤ start + size) :
      Cutting start size intervals (.deleteAgain before.length)

theorem cutting (start size : UInt32) (intervals : List BlockInterval) :
    Cutting start size intervals (cut start size 0 intervals) := by
  obtain ⟨before, after, split, passed, same, reached⟩ := cut_skip start size 0 intervals
  rw [same, Nat.zero_add]
  cases after with
  | nil => exact .nothing split passed (by simp)
  | cons interval rest =>
    by_cases later : start < interval.start
    · rw [cut, if_pos later]
      split_ifs with short more
      · refine .nothing split passed fun next head => ?_
        cases head
        exact ⟨later, short⟩
      · exact .behind split passed (UInt32.le_of_lt later) (fun _ => UInt32.not_lt.mp short) more
      · exact .deleteAgain split later (UInt32.not_lt.mp short) (UInt32.not_lt.mp more)
    · have meets := (reached interval rfl).resolve_left later
      by_cases at_start : interval.start = start
      · rw [cut_at_start at_start meets]
        split_ifs with covered
        · exact .delete split at_start covered
        · exact .behind split passed (UInt32.not_lt.mp fun less => UInt32.lt_irrefl start (at_start ▸ less))
            (fun less => absurd less later) (UInt32.not_le.mp covered)
      · have first : interval.start < start := UInt32.lt_of_le_of_ne (UInt32.not_lt.mp later) at_start
        rw [cut_inside first meets]
        split_ifs with covered
        · exact .changeAgain split first meets covered
        · exact .split split first (UInt32.not_le.mp covered)

/-- What `DelInterval` makes of intervals: the ids that go are gone, unless the array has no room
for the second half of an interval that it cuts in two. -/
structure Deleted (intervals : List BlockInterval) (gone : Nat → Prop) (after : List BlockInterval) : Prop where
  formed : WellFormed after
  covers : intervals.length < 65535 →
    ∀ id, Covers lower upper after id ↔ Covers lower upper intervals id ∧ ¬gone id

/-- How many intervals the loop of `DelInterval` does not pass over. -/
def reaching (start : UInt32) (intervals : List BlockInterval) : Nat :=
  intervals.countP fun interval => decide (start < interval.start ∨ start < interval.start + interval.size)

theorem reaching_middle {start : UInt32} {before rest : List BlockInterval} {interval : BlockInterval}
    (reached : start < interval.start ∨ start < interval.start + interval.size) :
    reaching start (before ++ interval :: rest) = reaching start (before ++ rest) + 1 := by
  simp only [reaching, List.countP_append, List.countP_cons, decide_eq_true reached, if_true]
  omega

theorem reaching_head {start : UInt32} {before rest : List BlockInterval} {interval : BlockInterval}
    (front : ¬start < interval.start) :
    reaching start (before ++ ⟨interval.start, start - interval.start⟩ :: rest) =
      reaching start (before ++ rest) := by
  have ends : interval.start + (start - interval.start) = start := by
    rw [UInt32.add_comm, UInt32.sub_add_cancel]
  have passed : ¬(start < interval.start ∨ start < interval.start + (start - interval.start)) := by
    rw [ends]
    exact not_or.mpr ⟨front, UInt32.lt_irrefl start⟩
  simp only [reaching, List.countP_append, List.countP_cons, decide_eq_false passed]
  simp

section Deletions
variable {array : IntervalArray} {start size : UInt32} {before after rest : List BlockInterval}
  {interval : BlockInterval}

def Within (start size : UInt32) (id : Nat) : Prop := start.toNat ≤ id ∧ id < start.toNat + size.toNat

theorem deleted_nothing {intervals : List BlockInterval} {gone : Nat → Prop} (formed : WellFormed intervals)
    (apart : ∀ id, Covers lower upper intervals id → ¬gone id) : Deleted intervals gone intervals :=
  ⟨formed, fun _ id => ⟨fun covered => ⟨covered, apart id covered⟩, And.left⟩⟩

theorem upper_of_passed {other : BlockInterval} (bounded : upper other ≤ 4294967295)
    (passed : ¬start < other.start + other.size) : upper other ≤ start.toNat := by
  rw [UInt32.lt_iff_toNat_lt, add_toNat bounded] at passed
  exact Nat.le_of_not_lt passed

theorem not_within (early : ∀ other ∈ before, upper other ≤ start.toNat)
    (late : ∀ other ∈ rest, start.toNat + size.toNat ≤ lower other) {id : Nat}
    (covered : Covers lower upper (before ++ rest) id) : ¬Within start size id := by
  obtain ⟨other, member, above, below⟩ := covered
  rintro ⟨first, last⟩
  rcases List.mem_append.mp member with present | present
  · have := early other present
    omega
  · have := late other present
    omega

theorem deleted_behind (formed : WellFormed array.intervals) (positive : 0 < size.toNat)
    (room : start.toNat + size.toNat ≤ 4294967295) (split : array.intervals = before ++ interval :: rest)
    (early : ∀ other ∈ before, upper other ≤ start.toNat) (later : start ≤ interval.start)
    (reaches : start < interval.start → interval.start ≤ start + size)
    (more : start + size < interval.start + interval.size) :
    Deleted array.intervals (Within start size)
      (array.set before.length ⟨start + size, interval.start + interval.size - (start + size)⟩).intervals := by
  have inside := formed.bounded interval (split ▸ List.mem_append_right _ (List.mem_cons_self ..))
  have gaps := (separated_cons.mp (separated_append.mp (split ▸ formed.separated)).2.1).2.1
  have total := add_toNat room
  rw [UInt32.lt_iff_toNat_lt, total, add_toNat inside] at more
  have same := upper_behind inside room more
  have first : lower ⟨start + size, interval.start + interval.size - (start + size)⟩ = start.toNat + size.toNat :=
    total
  refine ⟨wellFormed_set split formed (same ▸ inside) (by rw [same, first]; exact more) ?_ (same ▸ gaps),
    fun _ id => ?_⟩
  · intro other member
    have := early other member
    omega
  · have front : start.toNat ≤ lower interval := UInt32.le_iff_toNat_le.mp later
    have reach : lower interval ≤ start.toNat + size.toNat := by
      rcases Nat.lt_or_eq_of_le front with less | same
      · rw [← total]
        exact UInt32.le_iff_toNat_le.mp (reaches (UInt32.lt_iff_toNat_lt.mpr less))
      · omega
    have others : Covers lower upper (before ++ rest) id → ¬Within start size id :=
      not_within early fun other member => Nat.le_of_lt (Nat.lt_trans more (gaps other member))
    rw [set_intervals split, split, covers_middle, covers_middle, same, first]
    unfold Within at *
    constructor
    · rintro (current | present)
      · exact ⟨Or.inl (by omega), by omega⟩
      · exact ⟨Or.inr present, others present⟩
    · rintro ⟨current | present, free⟩
      · exact Or.inl (by omega)
      · exact Or.inr present

theorem deleted_head (formed : WellFormed (before ++ interval :: rest)) (first : interval.start < start)
    (meets : start.toNat < upper interval) :
    WellFormed (before ++ ⟨interval.start, start - interval.start⟩ :: rest) ∧
      ∀ id, Covers lower upper (before ++ ⟨interval.start, start - interval.start⟩ :: rest) id ↔
        lower interval ≤ id ∧ id < start.toNat ∨ Covers lower upper (before ++ rest) id := by
  have front := UInt32.lt_iff_toNat_lt.mp first
  have head := upper_head front
  obtain ⟨_, right, across⟩ := separated_append.mp formed.separated
  have inside := formed.bounded interval (List.mem_append_right _ (List.mem_cons_self ..))
  constructor
  · refine formed.replace ?_ ?_ (fun other member => across other member interval (List.mem_cons_self ..)) ?_
    · rw [head]
      exact Nat.le_of_lt (Nat.lt_of_lt_of_le meets inside)
    · rw [head]
      exact front
    · intro other member
      rw [head]
      exact Nat.lt_trans meets ((separated_cons.mp right).2.1 other member)
  · intro id
    rw [covers_middle, head]
    rfl

theorem deleted_split (formed : WellFormed array.intervals) (positive : 0 < size.toNat)
    (room : start.toNat + size.toNat ≤ 4294967295) (split : array.intervals = before ++ interval :: rest)
    (first : interval.start < start) (more : start + size < interval.start + interval.size) :
    Deleted array.intervals (Within start size)
      ((array.set before.length ⟨interval.start, start - interval.start⟩).safeInsert (before.length + 1)
        ⟨start + size, interval.start + interval.size - (start + size)⟩).intervals := by
  have inside := formed.bounded interval (split ▸ List.mem_append_right _ (List.mem_cons_self ..))
  obtain ⟨_, right, across⟩ := separated_append.mp (split ▸ formed.separated)
  have gaps := (separated_cons.mp right).2.1
  have total := add_toNat room
  rw [UInt32.lt_iff_toNat_lt, total, add_toNat inside] at more
  have meets : start.toNat < upper interval := Nat.lt_trans (Nat.lt_add_of_pos_right positive) more
  have front : lower interval < start.toNat := UInt32.lt_iff_toNat_lt.mp first
  obtain ⟨kept, head⟩ := deleted_head (split ▸ formed) first meets
  have last := upper_head front
  have same := upper_behind inside room more
  have changed := set_intervals split ⟨interval.start, start - interval.start⟩
  generalize (⟨interval.start, start - interval.start⟩ : BlockInterval) = left at *
  have begins : lower ⟨start + size, interval.start + interval.size - (start + size)⟩ = start.toNat + size.toNat :=
    total
  generalize (⟨start + size, interval.start + interval.size - (start + size)⟩ : BlockInterval) = behind at *
  have places : (array.set before.length left).intervals = (before ++ [left]) ++ rest := by
    rw [changed, List.append_assoc, List.singleton_append]
  have width : before.length + 1 = (before ++ [left]).length := by rw [List.length_append, List.length_singleton]
  rw [width]
  refine ⟨wellFormed_safeInsert places (changed ▸ kept) (same ▸ inside) (by rw [same, begins]; exact more) ?_
    (same ▸ gaps), fun few id => ?_⟩
  · intro other member
    rw [begins]
    rcases List.mem_append.mp member with early | late
    · have := across other early interval (List.mem_cons_self ..)
      omega
    · rw [List.mem_singleton.mp late, last]
      exact Nat.lt_add_of_pos_right positive
  · have room : ¬(array.set before.length left).intervals.length = 65535 := by
      rw [IntervalArray.set, List.length_set]
      exact Nat.ne_of_lt few
    have others : Covers lower upper (before ++ rest) id → ¬Within start size id := not_within
      (fun other member => Nat.le_of_lt (Nat.lt_trans (across other member interval (List.mem_cons_self ..)) front))
      fun other member => Nat.le_of_lt (Nat.lt_trans more (gaps other member))
    rw [safeInsert_intervals places, if_neg room, covers_middle, ← List.append_cons, head, split, covers_middle, same,
      begins]
    unfold Within at *
    have cutOut : start.toNat + size.toNat ≤ id ∧ id < upper interval ∨ lower interval ≤ id ∧ id < start.toNat ↔
        (lower interval ≤ id ∧ id < upper interval) ∧ ¬(start.toNat ≤ id ∧ id < start.toNat + size.toNat) := by
      omega
    rw [← or_assoc, cutOut, or_and_right]
    exact or_congr_right ⟨fun present => ⟨present, others present⟩, And.left⟩

theorem deleted_deleteAgain {after : List BlockInterval} (later : start.toNat ≤ lower interval)
    (covered : upper interval ≤ start.toNat + size.toNat)
    (deleted : Deleted (before ++ rest) (Within start size) after) :
    Deleted (before ++ interval :: rest) (Within start size) after := by
  refine ⟨deleted.formed, fun few id => ?_⟩
  rw [List.length_append, List.length_cons] at few
  rw [deleted.covers (by rw [List.length_append]; omega), covers_middle]
  refine and_congr_left fun free => (or_iff_right fun current => free ?_).symm
  exact ⟨Nat.le_trans later current.1, Nat.lt_of_lt_of_le current.2 covered⟩

theorem deleted_changeAgain {after : List BlockInterval} (formed : WellFormed (before ++ interval :: rest))
    (first : interval.start < start) (meets : start.toNat < upper interval)
    (covered : upper interval ≤ start.toNat + size.toNat)
    (deleted : Deleted (before ++ ⟨interval.start, start - interval.start⟩ :: rest) (Within start size) after) :
    Deleted (before ++ interval :: rest) (Within start size) after := by
  refine ⟨deleted.formed, fun few id => ?_⟩
  rw [List.length_append, List.length_cons] at few
  rw [deleted.covers (by rw [List.length_append, List.length_cons]; omega), (deleted_head formed first meets).2,
    covers_middle]
  refine and_congr_left fun free => or_congr_left ?_
  unfold Within at free
  omega

theorem early_of_passed (formed : WellFormed (before ++ rest))
    (passed : ∀ interval ∈ before, ¬start < interval.start ∧ ¬start < interval.start + interval.size) :
    ∀ other ∈ before, upper other ≤ start.toNat := fun other member =>
  upper_of_passed (formed.bounded other (List.mem_append_left _ member)) (passed other member).2

theorem deleted_within {depth : Nat} (formed : WellFormed array.intervals) (positive : 0 < size.toNat)
    (room : start.toNat + size.toNat ≤ 4294967295) (fresh : ∀ interval ∈ array.intervals, interval.start ≠ start)
    (enough : reaching start array.intervals < depth) :
    Deleted array.intervals (Within start size) (array.delIntervalWithin start size depth).intervals := by
  induction depth generalizing array with
  | zero => exact absurd enough (Nat.not_lt_zero _)
  | succ depth ih =>
    unfold delIntervalWithin
    have total := add_toNat room
    have found := cutting start size array.intervals
    generalize cut start size 0 array.intervals = result at found ⊢
    cases found with
    | nothing split passed gap =>
      refine deleted_nothing formed fun id => ?_
      rw [split] at formed ⊢
      refine not_within (early_of_passed formed passed) fun other member => Nat.le_of_lt ?_
      refine (wellFormed_iff_mixed.mp formed).1.beyond_head (fun next head => ?_) other member
      rw [← total]
      exact UInt32.lt_iff_toNat_lt.mp (gap next head).2
    | behind split passed later reaches more =>
      exact deleted_behind formed positive room split (early_of_passed (split ▸ formed) passed) later reaches more
    | delete split at_start covered =>
      exact absurd at_start (fresh _ (split ▸ List.mem_append_right _ (List.mem_cons_self ..)))
    | split split first more => exact deleted_split formed positive room split first more
    | @changeAgain before rest interval split first meets covered =>
      rw [split, reaching_middle (Or.inr meets)] at enough
      have inside := formed.bounded interval (split ▸ List.mem_append_right _ (List.mem_cons_self ..))
      rw [UInt32.lt_iff_toNat_lt, add_toNat inside] at meets
      rw [UInt32.le_iff_toNat_le, total, add_toNat inside] at covered
      have changed := set_intervals split ⟨interval.start, start - interval.start⟩
      have head : reaching start (before ++ _ :: rest) = _ := reaching_head (UInt32.lt_asymm first)
      have formedToo : WellFormed (array.set before.length ⟨interval.start, start - interval.start⟩).intervals :=
        changed ▸ (deleted_head (split ▸ formed) first meets).1
      have deleted := ih formedToo ?_ ?_
      · rw [changed] at deleted
        rw [split] at formed ⊢
        exact deleted_changeAgain formed first meets covered deleted
      · rw [changed]
        rw [split] at fresh
        simp only [List.forall_mem_append, List.forall_mem_cons] at fresh ⊢
        exact ⟨fresh.1, UInt32.ne_of_lt first, fresh.2.2⟩
      · rw [changed, head]
        exact Nat.lt_of_succ_lt_succ enough
    | @deleteAgain before rest interval split later reaches covered =>
      rw [split, reaching_middle (Or.inl later)] at enough
      have inside := formed.bounded interval (split ▸ List.mem_append_right _ (List.mem_cons_self ..))
      rw [UInt32.le_iff_toNat_le, total, add_toNat inside] at covered
      have removed := safeDelete_intervals split
      have deleted := ih (wellFormed_safeDelete split formed) ?_ ?_
      · rw [removed] at deleted
        rw [split]
        exact deleted_deleteAgain (Nat.le_of_lt (UInt32.lt_iff_toNat_lt.mp later)) covered deleted
      · rw [removed]
        rw [split] at fresh
        simp only [List.forall_mem_append, List.forall_mem_cons] at fresh ⊢
        exact ⟨fresh.1, fresh.2.2⟩
      · rw [removed]
        exact Nat.lt_of_succ_lt_succ enough

theorem deleted_first {depth : Nat} (formed : WellFormed array.intervals) (positive : 0 < size.toNat)
    (room : start.toNat + size.toNat ≤ 4294967295) (split : array.intervals = before ++ interval :: rest)
    (at_start : interval.start = start) :
    Deleted array.intervals (fun id => Within start size id ∧ id < upper interval)
      (array.delIntervalWithin start size (depth + 1)).intervals := by
  have formedToo := split ▸ formed
  have inside := formedToo.bounded interval (List.mem_append_right _ (List.mem_cons_self ..))
  obtain ⟨_, right, across⟩ := separated_append.mp formedToo.separated
  obtain ⟨spans, gaps, _⟩ := separated_cons.mp right
  have begins : lower interval = start.toNat := congrArg UInt32.toNat at_start
  have early : ∀ other ∈ before, upper other ≤ start.toNat := fun other member =>
    begins ▸ Nat.le_of_lt (across other member interval (List.mem_cons_self ..))
  have meets : start < interval.start + interval.size := by
    rw [UInt32.lt_iff_toNat_lt, add_toNat inside, ← begins]
    exact spans
  have found : cut start size 0 array.intervals = cut start size (0 + before.length) (interval :: rest) := by
    rw [split]
    refine cut_passed start size 0 (fun other member => ?_) _
    have bounded := formedToo.bounded other (List.mem_append_left _ member)
    rw [UInt32.lt_iff_toNat_lt, UInt32.lt_iff_toNat_lt, add_toNat bounded, Nat.not_lt, Nat.not_lt]
    exact ⟨Nat.le_trans (Nat.le_add_right ..) (early other member), early other member⟩
  rw [delIntervalWithin, found, Nat.zero_add, cut_at_start at_start meets]
  split_ifs with covered
  · refine ⟨wellFormed_safeDelete split formed, fun _ id => ?_⟩
    dsimp only
    rw [safeDelete_intervals split, split, covers_middle]
    rw [UInt32.le_iff_toNat_le, add_toNat inside, add_toNat room] at covered
    constructor
    · exact fun present => ⟨Or.inr present,
        fun gone => formedToo.separated.not_spanned present ⟨begins ▸ gone.1.1, gone.2⟩⟩
    · rintro ⟨⟨above, below⟩ | present, free⟩
      · exact absurd ⟨⟨begins ▸ above, Nat.lt_of_lt_of_le below covered⟩, below⟩ free
      · exact present
  · have more := UInt32.not_le.mp covered
    have removed := deleted_behind formed positive room split early
      (UInt32.le_iff_toNat_le.mpr (Nat.le_of_eq begins.symm))
      (fun less => absurd (at_start ▸ less) (UInt32.lt_irrefl _)) more
    rw [UInt32.lt_iff_toNat_lt, add_toNat room, add_toNat inside] at more
    refine ⟨removed.formed, fun few id => (removed.covers few id).trans (and_congr_right fun _ => not_congr ?_)⟩
    exact ⟨fun gone => ⟨gone, Nat.lt_trans gone.2 more⟩, And.left⟩

end Deletions

theorem deleted_fresh {array : IntervalArray} {start size : UInt32} (formed : WellFormed array.intervals)
    (positive : 0 < size.toNat) (room : start.toNat + size.toNat ≤ 4294967295)
    (fresh : ∀ interval ∈ array.intervals, interval.start ≠ start) : Deleted array.intervals (Within start size)
      (array.delIntervalWithin start size (array.intervals.length + 1)).intervals :=
  deleted_within formed positive room fresh (Nat.lt_succ_of_le List.countP_le_length)

theorem wellFormed_delIntervalWithin {array : IntervalArray} {start size : UInt32}
    (formed : WellFormed array.intervals) (positive : 0 < size.toNat)
    (room : start.toNat + size.toNat ≤ 4294967295) :
    WellFormed (array.delIntervalWithin start size (array.intervals.length + 1)).intervals := by
  by_cases fresh : ∀ interval ∈ array.intervals, interval.start ≠ start
  · exact (deleted_fresh formed positive room fresh).formed
  · simp only [not_forall, not_not] at fresh
    obtain ⟨interval, member, at_start⟩ := fresh
    obtain ⟨before, rest, split⟩ := List.append_of_mem member
    exact (deleted_first formed positive room split at_start).formed

theorem delInterval_wellFormed {array : IntervalArray} {start size : UInt32} (formed : WellFormed array.intervals)
    (positive : 0 < size.toNat) (room : start.toNat + size.toNat ≤ 4294967295) :
    ∃ after, array.delInterval start size = some after ∧ WellFormed after.intervals := by
  have sized : size ≠ 0 := by
    rintro rfl
    exact absurd positive (by decide)
  exact ⟨_, if_neg sized, wellFormed_delIntervalWithin formed positive room⟩

end RabbitStreamer.Core.IntervalInvariant
