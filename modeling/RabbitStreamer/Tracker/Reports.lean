import RabbitStreamer.Core.IntervalSets
import RabbitStreamer.Tracker.Isolation

/-! Reports with ranges that go beyond the last id. -/

namespace RabbitStreamer.Tracker.Reports
open RabbitStreamer.Lib RabbitStreamer.Core.Struct RabbitStreamer.Core.StructDefine
open RabbitStreamer.Core.Interval RabbitStreamer.Core.Interval.IntervalArray RabbitStreamer.Core.IntervalInvariant
open RabbitStreamer.Core.IntervalSets RabbitStreamer.Core.Message
open RabbitStreamer.Tracker.Uuid RabbitStreamer.Tracker.NpManager
open RabbitStreamer.Tracker.State RabbitStreamer.Tracker.NpConnector RabbitStreamer.Tracker.Isolation

/-- The range goes beyond the last id, as `Verify` tests it, and is not refused for its start. -/
def Overruns (range : BlockInterval) : Prop := range.start ≠ UINT_MAX ∧ UINT_MAX - range.start < range.size

instance (range : BlockInterval) : Decidable (Overruns range) :=
  inferInstanceAs (Decidable (range.start ≠ UINT_MAX ∧ UINT_MAX - range.start < range.size))

def Touches (array : IntervalArray) (id : UInt32) : Prop :=
  ∃ interval ∈ array.intervals, interval.start ≤ id ∧ id ≤ interval.start + interval.size

instance (array : IntervalArray) (id : UInt32) : Decidable (Touches array id) :=
  inferInstanceAs
    (Decidable (∃ interval ∈ array.intervals, interval.start ≤ id ∧ id ≤ interval.start + interval.size))

def Reached (ranges : List BlockInterval) (id : Nat) : Prop :=
  ∃ range ∈ ranges, ¬Overruns range ∧ range.start.toNat < id ∧ id ≤ range.start.toNat + range.size.toNat

/-- A range that goes beyond the last id is not put in, or a later one takes it out again. -/
def Harmless : IntervalArray → List BlockInterval → Prop
  | _, [] => True
  | array, range :: later =>
      (Overruns range →
        array.intervals.length = 65535 ∨ Touches array range.start ∨ Reached later range.start.toNat) ∧
        Harmless (array.addInterval range.start range.size) later

theorem overruns_iff {range : BlockInterval} :
    Overruns range ↔ range.start.toNat < 4294967295 ∧ 4294967295 < upper range := by
  have below := range.start.toNat_lt
  have shift : (UINT_MAX - range.start).toNat = 4294967295 - range.start.toNat := sub_toNat (Nat.le_of_lt_succ below)
  unfold Overruns upper
  rw [UInt32.lt_iff_toNat_lt, shift, Ne, ← UInt32.toNat_inj]
  show ¬_ = 4294967295 ∧ _ ↔ _
  omega

theorem addInterval_last (array : IntervalArray) (size : UInt32) : array.addInterval UINT_MAX size = array := by
  unfold addInterval addIntervalWithin
  rw [if_pos rfl]

section Overrun
variable {array : IntervalArray} {range : BlockInterval}

theorem end_lt_start (overruns : Overruns range) : range.start + range.size < range.start := by
  obtain ⟨_, wraps⟩ := overruns_iff.mp overruns
  have below := range.size.toNat_lt
  unfold upper at wraps
  rw [UInt32.lt_iff_toNat_lt, UInt32.toNat_add]
  omega

theorem scan_overrun (mixed : Mixed array.intervals) (overruns : Overruns range) :
    (Touches array range.start ∧ scan range.start range.size 0 array.intervals = .covered) ∨
    ∃ before after, array.intervals = before ++ after ∧ ¬Touches array range.start ∧
      (∀ other ∈ before, Passed range.start other) ∧ (∀ other ∈ after, range.start.toNat < lower other) ∧
      scan range.start range.size 0 array.intervals = .insert before.length := by
  have backwards := end_lt_start overruns
  have found := scanned range.start range.size array.intervals
  generalize scan range.start range.size 0 array.intervals = result at found ⊢
  cases found with
  | @insert before after split passed gap =>
    have behind : ∀ other ∈ after, range.start.toNat < lower other :=
      (split ▸ mixed).beyond_head fun next head => UInt32.lt_iff_toNat_lt.mp (gap next head).1
    refine Or.inr ⟨before, after, split, ?_, passed, behind, rfl⟩
    rintro ⟨interval, member, first, meets⟩
    rw [split] at member
    rcases List.mem_append.mp member with early | late
    · exact (passed interval early).2 meets
    · exact Nat.not_lt_of_le (UInt32.le_iff_toNat_le.mp first) (behind interval late)
  | front split passed later reaches inside =>
    exact absurd (UInt32.lt_trans later (UInt32.lt_of_le_of_lt reaches backwards)) (UInt32.lt_irrefl _)
  | swallow split passed later reaches beyond =>
    exact absurd (UInt32.lt_trans later (UInt32.lt_of_le_of_lt reaches backwards)) (UInt32.lt_irrefl _)
  | @covered before rest interval split first meets inside =>
    exact Or.inl ⟨⟨interval, split ▸ List.mem_append_right _ (List.mem_cons_self ..), first, meets⟩, rfl⟩
  | back split first meets beyond gap =>
    exact absurd (UInt32.lt_of_le_of_lt meets (UInt32.lt_trans beyond backwards)) (UInt32.lt_irrefl _)
  | merge split first meets beyond =>
    exact absurd (UInt32.lt_of_le_of_lt meets (UInt32.lt_trans beyond backwards)) (UInt32.lt_irrefl _)

theorem not_refused (overruns : Overruns range) : range.start ≠ UINT_MAX ∧ range.size ≠ 0 := by
  refine ⟨overruns.1, fun empty => ?_⟩
  have wraps := overruns.2
  rw [empty] at wraps
  exact absurd wraps UInt32.not_lt_zero

theorem addInterval_kept (mixed : Mixed array.intervals) (overruns : Overruns range)
    (kept : array.intervals.length = 65535 ∨ Touches array range.start) :
    array.addInterval range.start range.size = array := by
  obtain ⟨notLast, sized⟩ := not_refused overruns
  unfold addInterval addIntervalWithin
  rw [if_neg notLast, if_neg sized]
  rcases scan_overrun mixed overruns with ⟨_, found⟩ | ⟨before, after, _, apart, _, _, found⟩
  · rw [found]
  · rw [found]
    dsimp only
    rw [safeInsert, dif_pos (kept.resolve_right apart)]

theorem addInterval_put (mixed : Mixed array.intervals) (overruns : Overruns range)
    (notFull : array.intervals.length ≠ 65535) (apart : ¬Touches array range.start) :
    Mixed (array.addInterval range.start range.size).intervals ∧
      ∀ first, Wrapped (array.addInterval range.start range.size).intervals first ↔
        first = range.start.toNat ∨ Wrapped array.intervals first := by
  obtain ⟨notLast, sized⟩ := not_refused overruns
  have wraps := (overruns_iff.mp overruns).2
  rcases scan_overrun mixed overruns with ⟨touches, _⟩ | ⟨before, after, split, _, passed, behind, found⟩
  · exact absurd touches apart
  · have made : (array.addInterval range.start range.size).intervals = before ++ range :: after := by
      unfold addInterval addIntervalWithin
      rw [if_neg notLast, if_neg sized, found]
      exact (safeInsert_intervals split _).trans (if_neg notFull)
    rw [made]
    rw [split] at mixed
    constructor
    · refine mixed.splice ?_ (fun other member => passed_ahead (passed other member) range.size) ?_
      · exact Nat.pos_of_ne_zero fun zero => sized (UInt32.toNat_inj.mp zero)
      · intro other member
        refine ⟨Nat.le_of_lt (behind other member), fun bounded => ?_⟩
        exact absurd bounded (Nat.not_le_of_lt wraps)
    · intro first
      rw [split]
      unfold Wrapped
      rw [exists_middle]
      refine or_congr_left ?_
      rw [and_iff_right wraps]
      exact eq_comm

theorem addInterval_within (mixed : Mixed array.intervals) (within : ¬Overruns range) :
    Mixed (array.addInterval range.start range.size).intervals ∧
      ∀ first, Wrapped (array.addInterval range.start range.size).intervals first ↔ Wrapped array.intervals first ∧
        ¬(range.start.toNat < first ∧ first ≤ range.start.toNat + range.size.toNat) := by
  rw [overruns_iff, not_and, Nat.not_lt] at within
  by_cases last : range.start = UINT_MAX
  · rw [last, addInterval_last]
    refine ⟨mixed, fun first => (and_iff_left_of_imp fun ⟨interval, _, _, begins⟩ reached => ?_).symm⟩
    have most : first ≤ 4294967295 := begins ▸ Nat.le_of_lt_succ interval.start.toNat_lt
    exact Nat.not_lt_of_le most reached.1
  · have below : range.start.toNat < 4294967295 := by
      have less := range.start.toNat_lt
      have other : range.start.toNat ≠ 4294967295 := fun same => last (UInt32.toNat_inj.mp same)
      omega
    have added := added_addInterval mixed (within below)
    exact ⟨added.mixed, added.wrapped⟩

end Overrun

theorem reached_cons {range : BlockInterval} {later : List BlockInterval} {id : Nat} :
    Reached (range :: later) id ↔
      (¬Overruns range ∧ range.start.toNat < id ∧ id ≤ range.start.toNat + range.size.toNat) ∨ Reached later id :=
  List.exists_mem_cons_iff ..

theorem wellFormed_addAll_iff {array : IntervalArray} (mixed : Mixed array.intervals) (ranges : List BlockInterval) :
    WellFormed (addAll array ranges).intervals ↔
      (∀ first, Wrapped array.intervals first → Reached ranges first) ∧ Harmless array ranges := by
  induction ranges generalizing array with
  | nil =>
    rw [show addAll array [] = array from rfl, wellFormed_iff_mixed, and_iff_right mixed, Harmless, and_true]
    refine forall_congr' fun first => ⟨fun none wraps => absurd wraps none, fun reached wraps => ?_⟩
    obtain ⟨_, member, _⟩ := reached wraps
    cases member
  | cons range later ih =>
    show WellFormed (addAll (array.addInterval range.start range.size) later).intervals ↔ _
    rw [Harmless]
    by_cases overruns : Overruns range
    · have skipped : ∀ first, Reached (range :: later) first ↔ Reached later first := fun first => by
        rw [reached_cons]
        exact or_iff_right fun current => current.1 overruns
      simp only [skipped, overruns, true_implies]
      by_cases kept : array.intervals.length = 65535 ∨ Touches array range.start
      · rw [addInterval_kept mixed overruns kept, ih mixed, and_iff_right (kept.imp_right Or.inl)]
      · obtain ⟨notFull, apart⟩ := not_or.mp kept
        obtain ⟨next, wrapped⟩ := addInterval_put mixed overruns notFull apart
        rw [ih next, or_iff_right notFull, or_iff_right apart]
        simp only [wrapped, or_imp, forall_and, forall_eq]
        rw [and_assoc, and_left_comm]
    · obtain ⟨next, wrapped⟩ := addInterval_within mixed overruns
      rw [ih next]
      simp only [overruns, false_implies, true_and]
      refine and_congr_left fun _ => forall_congr' fun first => ?_
      rw [wrapped, reached_cons, and_iff_right overruns, and_imp]
      exact imp_congr_right fun _ => or_iff_not_imp_left.symm

/-- What a peer reports leaves its intervals such that `Verify` passes just when no range that goes
beyond the last id stays in. -/
theorem addAll_verify_iff {array : IntervalArray} (verified : array.verify = true) (ranges : List BlockInterval) :
    (addAll array ranges).verify = true ↔ Harmless array ranges := by
  obtain ⟨mixed, unwrapped⟩ := wellFormed_iff_mixed.mp (verify_iff.mp verified)
  rw [verify_iff, wellFormed_addAll_iff mixed]
  exact and_iff_right fun first wraps => absurd wraps (unwrapped first)

variable {R : Rand}

/-- What is stored for the peer after a report that is taken passes `Verify`. -/
def Verified (tracker : TrackerState R) (report : Np2TsReport) (lastReceiveAddr : NetAddress) (env : Env) : Prop :=
  ∃ after sent node, getReport report tracker lastReceiveAddr env = .ok (after, sent) ∧
    after.npnodeMap.getNode (.ofUuid report.uuid) = some node ∧ node.intervalArray.verify = true

theorem verified_iff {tracker : TrackerState R} {report : Np2TsReport} {stored : NPNode}
    (known : tracker.npnodeMap.getNode (.ofUuid report.uuid) = some stored)
    (counted : report.blockinterval.length = report.intervalCount.toNat) (lastReceiveAddr : NetAddress) (env : Env) :
    Verified tracker report lastReceiveAddr env ↔
      (addAll stored.intervalArray report.blockinterval).verify = true := by
  have acted := getReport_known known lastReceiveAddr env
  by_cases nothing : report.intervalCount = 0
  · have empty : report.blockinterval = [] :=
      List.length_eq_zero_iff.mp (counted.trans (congrArg UInt8.toNat nothing))
    rw [if_pos nothing] at acted
    rw [empty]
    constructor
    · rintro ⟨after, sent, node, done, kept, verified⟩
      cases acted.symm.trans done
      cases known.symm.trans kept
      exact verified
    · exact fun verified => ⟨tracker, [], stored, acted, known, verified⟩
  · rw [if_neg nothing] at acted
    have changed := getNode_insertNode tracker.npnodeMap (.ofUuid report.uuid) (reported stored report)
    constructor
    · rintro ⟨after, sent, node, done, kept, verified⟩
      cases acted.symm.trans done
      cases changed.symm.trans kept
      exact verified
    · exact fun verified => ⟨_, _, _, acted, changed, verified⟩

/-- A report leaves the intervals of its peer such that they pass `Verify` if and only if each range
in it that goes beyond the last id is not put in or is taken out by a later one. -/
theorem report_keeps_verify_iff (tracker : TrackerState R) (report : Np2TsReport) (stored : NPNode)
    (known : tracker.npnodeMap.getNode (.ofUuid report.uuid) = some stored)
    (verified : stored.intervalArray.verify = true)
    (counted : report.blockinterval.length = report.intervalCount.toNat) (lastReceiveAddr : NetAddress) (env : Env) :
    Verified tracker report lastReceiveAddr env ↔ Harmless stored.intervalArray report.blockinterval :=
  (verified_iff known counted lastReceiveAddr env).trans (addAll_verify_iff verified report.blockinterval)

def onePeer : TrackerState .counting :=
  { TrackerState.start .counting (1 : Nat) 0 with
    npnodeMap := NpnodeMap.insertNode .empty (.ofUuid (.fill _ 97)) (.init 100) }

def reportOf (ranges : List BlockInterval) : Np2TsReport :=
  ⟨.fill _ 97, .zero, UInt8.ofNat ranges.length, ranges, .zero, 0, 0, 0, 0, 0, 0, 0, 0, 0, 0⟩

theorem overrun_taken_out :
    Verified onePeer (reportOf [⟨10, 4294967291⟩, ⟨5, 6⟩]) .zero ⟨100, fun _ => 0, 0, 0, 5, 255⟩ ↔
      Harmless .init [⟨10, 4294967291⟩, ⟨5, 6⟩] :=
  report_keeps_verify_iff onePeer (reportOf [⟨10, 4294967291⟩, ⟨5, 6⟩]) (NPNode.init 100).assign rfl rfl rfl .zero _

/-- Alone it stays in. -/
theorem overrun_stays : ¬∀ (tracker : TrackerState .counting) (report : Np2TsReport) (stored : NPNode)
    (lastReceiveAddr : NetAddress) (env : Env), tracker.npnodeMap.getNode (.ofUuid report.uuid) = some stored →
    stored.intervalArray.verify = true → report.blockinterval.length = report.intervalCount.toNat →
    Verified tracker report lastReceiveAddr env := by
  intro keeps
  have known : onePeer.npnodeMap.getNode (.ofUuid (reportOf [⟨10, 4294967291⟩]).uuid) =
      some (NPNode.init 100).assign.assign := rfl
  have verified := keeps onePeer (reportOf [⟨10, 4294967291⟩]) _ .zero ⟨100, fun _ => 0, 0, 0, 5, 255⟩ known rfl rfl
  exact absurd ((verified_iff known rfl _ _).mp verified) (by decide)

end RabbitStreamer.Tracker.Reports
