import RabbitStreamer.Tracker.PeerSearch

/-! The blocks for which a peer is found, against the reports that it sent. -/

namespace RabbitStreamer.Tracker.Advertised
open RabbitStreamer.Lib RabbitStreamer.Lib.Transition RabbitStreamer.Core.Struct RabbitStreamer.Core.StructDefine
open RabbitStreamer.Core.Interval RabbitStreamer.Core.Interval.IntervalArray RabbitStreamer.Core.Streamer
open RabbitStreamer.Core.Message RabbitStreamer.Tracker.Uuid RabbitStreamer.Tracker.NpManager
open RabbitStreamer.Tracker.NpManager.NpnodeMap RabbitStreamer.Tracker.State RabbitStreamer.Tracker.Server
open RabbitStreamer.Tracker.NpConnector RabbitStreamer.Tracker.SpConnector RabbitStreamer.Tracker.PeerSearch

variable {R : Rand}

def Lists (intervals : List BlockInterval) (blockID : UInt32) : Prop :=
  ∃ interval ∈ intervals, interval.start.toNat ≤ blockID.toNat ∧
    blockID.toNat < interval.start.toNat + interval.size.toNat

abbrev Latest := List Nat → List BlockInterval

/-- The report that an event brings, if it is for a peer that is known and has intervals, and there
is room for them. -/
def accepted (tracker : TrackerState R) : Event → Option Np2TsReport
  | .timerCheck _ => none
  | .datagram datagram =>
      match datagram.request with
      | .ok (some (.report report)) =>
          if (tracker.npnodeMap.getNode (.ofUuid report.uuid)).isSome ∧ report.intervalCount ≠ 0 ∧
              HasRoom datagram.env report then some report
          else none
      | _ => none

def record (latest : Latest) : Option Np2TsReport → Latest
  | none => latest
  | some report => Function.update latest (MapStr.ofUuid report.uuid).rank report.blockinterval

structure Recorded (R : Rand) where
  tracker : TrackerState R
  latest : Latest

def Recorded.start (rng : R.State) (unset : UInt32) : Recorded R := ⟨.start R rng unset, fun _ => []⟩

def stepRecorded (recorded : Recorded R) (event : Event) : Option (Recorded R) :=
  (step recorded.tracker event).map fun after => ⟨after, record recorded.latest (accepted recorded.tracker event)⟩

/-- A report that is taken lists every block that the tracker still holds for its peer. -/
def Covers (recorded : Recorded R) (event : Event) : Prop :=
  ∀ report node, accepted recorded.tracker event = some report →
    recorded.tracker.npnodeMap.getNode (.ofUuid report.uuid) = some node →
    ∀ blockID, Has node.intervalArray blockID → Lists report.blockinterval blockID

def Backed (npnodeMap : NpnodeMap) (latest : Latest) : Prop :=
  ∀ entry ∈ npnodeMap.entries, ∀ blockID, Has entry.2.intervalArray blockID → Lists (latest entry.1.rank) blockID

theorem lists_of_holds {intervals : List BlockInterval} {interval : BlockInterval} (member : interval ∈ intervals)
    {blockID : UInt32} (holds : Holds interval blockID) : Lists intervals blockID := by
  obtain ⟨first, last⟩ := (holds_iff interval blockID).mp holds
  exact ⟨interval, member, first, Nat.lt_of_lt_of_le last (Nat.mod_le _ _)⟩

theorem has_foldl {intervals : List BlockInterval} {array : IntervalArray} {blockID : UInt32}
    (has : Has (intervals.foldl (fun array interval => array.addInterval interval.start interval.size) array)
      blockID) : Has array blockID ∨ Lists intervals blockID := by
  induction intervals generalizing array with
  | nil => exact Or.inl has
  | cons head tail ih =>
    rcases ih has with first | ⟨interval, member, inside⟩
    · rcases has_addInterval first with old | holds
      · exact Or.inl old
      · exact Or.inr (lists_of_holds (List.mem_cons_self ..) holds)
    · exact Or.inr ⟨interval, List.mem_cons_of_mem _ member, inside⟩

theorem Backed.insertNode {npnodeMap : NpnodeMap} {latest : Latest} (backed : Backed npnodeMap latest)
    {digits : MapStr} {node : NPNode}
    (listed : ∀ blockID, Has node.intervalArray blockID → Lists (latest digits.rank) blockID) :
    Backed (npnodeMap.insertNode digits node) latest := by
  intro entry member blockID has
  rcases mem_insertNode member with ⟨self, changed⟩ | ⟨_, old⟩
  · rw [changed] at has
    rw [self]
    exact listed blockID has
  · exact backed entry old blockID has

theorem Backed.of_mem {npnodeMap fewer : NpnodeMap} {latest : Latest} (backed : Backed npnodeMap latest)
    (kept : ∀ entry ∈ fewer.entries, entry ∈ npnodeMap.entries) : Backed fewer latest :=
  fun entry member => backed entry (kept entry member)

theorem Backed.getNode {npnodeMap : NpnodeMap} {latest : Latest} (backed : Backed npnodeMap latest)
    {digits : MapStr} {node : NPNode} (found : npnodeMap.getNode digits = some node) {blockID : UInt32}
    (has : Has node.intervalArray blockID) : Lists (latest digits.rank) blockID := by
  obtain ⟨entry, listed, rfl⟩ := getNode_eq_some.mp found
  obtain ⟨member, same⟩ := OrderedMap.find_eq_some.mp listed
  rw [← same]
  exact backed entry member blockID has

theorem Backed.report {npnodeMap : NpnodeMap} {latest : Latest} (backed : Backed npnodeMap latest)
    {report : Np2TsReport} {stored : NPNode}
    (covers : ∀ blockID, Has stored.intervalArray blockID → Lists report.blockinterval blockID) :
    Backed (npnodeMap.insertNode (.ofUuid report.uuid) (reported stored report)) (record latest (some report)) := by
  intro entry member blockID has
  rcases mem_insertNode member with ⟨self, changed⟩ | ⟨other, old⟩
  · rw [changed] at has
    rw [record, self, Function.update_self]
    rcases has_foldl (show Has (reported stored report).intervalArray blockID from has) with before | listed
    · exact covers blockID before
    · exact listed
  · rw [record, Function.update_of_ne other]
    exact backed entry old blockID has

theorem backed_report {report : Np2TsReport} {tracker after : TrackerState R} {latest : Latest}
    {sent : List Sent} {datagram : Datagram}
    (backed : Backed tracker.npnodeMap latest) (covers : Covers ⟨tracker, latest⟩ (.datagram datagram))
    (found : datagram.request = .ok (some (.report report)))
    (received : receiveReport report tracker datagram.lastReceiveAddr datagram.env = .ok (after, sent)) :
    Backed after.npnodeMap (record latest (accepted tracker (.datagram datagram))) := by
  obtain ⟨room, acted⟩ := receiveReport_eq_ok received
  cases known : tracker.npnodeMap.getNode (.ofUuid report.uuid) with
  | none =>
    have passed : accepted tracker (.datagram datagram) = none := by
      simp only [accepted, found, known]
      rfl
    rw [passed]
    cases (getReport_unknown known _ _).symm.trans acted
    exact backed
  | some stored =>
    have ended := (getReport_known known _ _).symm.trans acted
    by_cases intervals : report.intervalCount = 0
    · have passed : accepted tracker (.datagram datagram) = none := by
        simp only [accepted, found, known, intervals]
        rfl
      rw [if_pos intervals] at ended
      rw [passed]
      cases ended
      exact backed
    · have taken : accepted tracker (.datagram datagram) = some report := by
        simp only [accepted, found, known, Option.isSome_some, true_and]
        exact if_pos ⟨intervals, room⟩
      rw [if_neg intervals] at ended
      rw [taken]
      cases ended
      exact backed.report (covers report stored taken known)

theorem backed_step {recorded after : Recorded R} {event : Event}
    (backed : Backed recorded.tracker.npnodeMap recorded.latest) (covers : Covers recorded event)
    (taken : stepRecorded recorded event = some after) : Backed after.tracker.npnodeMap after.latest := by
  obtain ⟨tracker, latest⟩ := recorded
  obtain ⟨next, stepped, rfl⟩ := Option.map_eq_some_iff.mp taken
  obtain ⟨datagram, rfl, nothing, rfl⟩ | ⟨datagram, request, sent, rfl, found, acted⟩ | ⟨currTime, rfl, rfl⟩ :=
    step_cases stepped
  · have passed : accepted next (.datagram datagram) = none := by
      simp only [accepted, nothing]
    simp only [passed]
    exact backed
  · have passed : (∀ report, request ≠ .report report) → accepted tracker (.datagram datagram) = none := by
      intro other
      simp only [accepted, found]
      cases request <;> first | rfl | exact absurd rfl (other _)
    by_cases isReport : ∃ report, request = .report report
    · obtain ⟨report, rfl⟩ := isReport
      exact backed_report backed covers found acted
    · simp only [passed fun report same => isReport ⟨report, same⟩]
      obtain same | ⟨_, _, _, _, _, changed⟩ | ⟨uuid, stored, node, known, ⟨_, _, rfl⟩ | ⟨report, same, _⟩, changed⟩ |
        ⟨_, _, changed⟩ := changesNodes_act acted
      · rw [same]
        exact backed
      · rw [changed]
        exact backed.insertNode fun _ ⟨_, member, _⟩ => absurd member (List.not_mem_nil)
      · rw [changed]
        exact backed.insertNode fun _ has => backed.getNode known has
      · exact absurd ⟨report, same⟩ isReport
      · rw [changed]
        exact backed.of_mem fun _ member => (OrderedMap.mem_filter.mp member).1
  · exact backed.of_mem fun _ member => (OrderedMap.mem_filter.mp member).1

/-- In a run whose reports never leave out a block that is still held, each peer found for a block
listed it in its latest report. -/
theorem found_peers_listed {rng : R.State} {unset : UInt32} {events : List Event} {final : Recorded R}
    (reached : run stepRecorded (.start rng unset) events = some final)
    (covers : Along stepRecorded (.start rng unset) events Covers) (S : Rand) (query : Query) (passes : Nat)
    (state rest : S.State) (found : List PeerInfoWithAddr)
    (searched : final.tracker.npnodeMap.getNpAddress S query passes state = .ok (found, rest)) :
    ∀ peer ∈ found, ∃ entry ∈ final.tracker.npnodeMap.entries,
      peer = ⟨entry.2.coreInfo, entry.2.clientAddress⟩ ∧
      Lists (final.latest entry.1.rank) query.currentblockID := by
  have backed : Backed final.tracker.npnodeMap final.latest :=
    run_along (fun recorded => Backed recorded.tracker.npnodeMap recorded.latest) Covers
      (fun _ _ _ backed covers taken => backed_step backed covers taken)
      (fun _ member => absurd member (List.not_mem_nil)) covers reached
  intro peer member
  obtain endless | ⟨_, _, ended, sound⟩ := getNpAddress_spec S final.tracker.npnodeMap query passes state
  · cases endless.symm.trans searched
  · cases ended.symm.trans searched
    obtain ⟨entry, stored, wanted, same⟩ := sound peer member
    simp only [Query.wants, Bool.and_eq_true] at wanted
    exact ⟨entry, stored, same, backed entry stored _ (holds_of_findBlock wanted.2)⟩

def block5 : Query := ⟨⟨.fill _ 0, ⟨0, 0⟩⟩, uuidOf ⟨1, 2, 3, 4⟩, 20, 5⟩

def finds (final : Recorded .counting) : Bool :=
  match final.tracker.npnodeMap.getNpAddress .counting block5 5 (1 : Nat) with
  | .ok (found, _) => found ≠ []
  | .error _ => false

theorem finds_spec {final : Recorded .counting} (somebody : finds final = true) :
    ∃ found rest, final.tracker.npnodeMap.getNpAddress .counting block5 5 (1 : Nat) = .ok (found, rest) ∧
      found ≠ [] := by
  unfold finds at somebody
  split at somebody
  · exact ⟨_, _, by assumption, by simpa using somebody⟩
  · cases somebody

def widening (recorded : Recorded .counting) (event : Event) : Bool :=
  match accepted recorded.tracker event with
  | none => true
  | some report => (recorded.tracker.npnodeMap.getNode (.ofUuid report.uuid)).all fun node =>
      node.intervalArray.intervals.all fun held => report.blockinterval.any fun listed =>
        listed.start.toNat ≤ held.start.toNat &&
          held.start.toNat + held.size.toNat ≤ listed.start.toNat + listed.size.toNat

theorem covers_of_widening (recorded : Recorded .counting) (event : Event) (wide : widening recorded event = true) :
    Covers recorded event := by
  rintro report node taken known blockID ⟨held, member, holds⟩
  simp only [widening, taken, known, Option.all_some, List.all_eq_true, List.any_eq_true, Bool.and_eq_true,
    decide_eq_true_eq] at wide
  obtain ⟨listed, inside, first, last⟩ := wide held member
  obtain ⟨start, below⟩ := (holds_iff held blockID).mp holds
  exact ⟨listed, inside, Nat.le_trans first start,
    Nat.lt_of_lt_of_le (Nat.lt_of_lt_of_le below (Nat.mod_le _ _)) last⟩

def widerReport : List Event :=
  let report : Request :=
    .report ⟨(uuidOf ⟨5, 6, 7, 8⟩).uuid, .zero, 1, [⟨0, 20⟩], .zero, 0, 0, 0, 0, 0, 0, 0, 0, 0, 0⟩
  twoPeers ++ [.datagram (report.datagram .init ⟨100, fun _ => 0, 0, 0, 5, 255⟩)]

theorem wider_report_listed : ∃ final : Recorded .counting,
    run stepRecorded (.start (1 : Nat) 0) widerReport = some final ∧
    ∃ found rest, final.tracker.npnodeMap.getNpAddress .counting block5 5 (1 : Nat) = .ok (found, rest) ∧
      found ≠ [] ∧ ∀ peer ∈ found, ∃ entry ∈ final.tracker.npnodeMap.entries,
        peer = ⟨entry.2.coreInfo, entry.2.clientAddress⟩ ∧ Lists (final.latest entry.1.rank) 5 := by
  obtain ⟨final, reached, somebody⟩ := (Option.any_eq_true _ _).mp
    (show (run stepRecorded (.start (1 : Nat) 0) widerReport).any finds = true by decide +kernel)
  have wide : check stepRecorded widening (.start (1 : Nat) 0) widerReport = true := by decide +kernel
  obtain ⟨found, rest, searched, nonempty⟩ := finds_spec somebody
  exact ⟨final, reached, found, rest, searched, nonempty,
    found_peers_listed reached
      (along_of_check covers_of_widening wide) .counting block5 5 (1 : Nat) rest found searched⟩

def twoReports : List Event :=
  let report : Request :=
    .report ⟨(uuidOf ⟨5, 6, 7, 8⟩).uuid, .zero, 1, [⟨20, 10⟩], .zero, 0, 0, 0, 0, 0, 0, 0, 0, 0, 0⟩
  twoPeers ++ [.datagram (report.datagram .init ⟨100, fun _ => 0, 0, 0, 5, 255⟩)]

instance (intervals : List BlockInterval) (blockID : UInt32) : Decidable (Lists intervals blockID) :=
  inferInstanceAs (Decidable (∃ interval ∈ intervals, _))

/-- It is still found for a block of its first report, which nobody lists any more. -/
theorem stale_block_advertised : ∃ final : Recorded .counting,
    run stepRecorded (.start (1 : Nat) 0) twoReports = some final ∧
    (∃ found rest, final.tracker.npnodeMap.getNpAddress .counting block5 5 (1 : Nat) = .ok (found, rest) ∧
      found ≠ []) ∧
    ∀ entry ∈ final.tracker.npnodeMap.entries, ¬Lists (final.latest entry.1.rank) 5 := by
  obtain ⟨final, reached, facts⟩ := (Option.any_eq_true _ _).mp
    (show (run stepRecorded (.start (1 : Nat) 0) twoReports).any (fun final => finds final &&
      decide (∀ entry ∈ final.tracker.npnodeMap.entries, ¬Lists (final.latest entry.1.rank) 5)) = true by
      decide +kernel)
  simp only [Bool.and_eq_true, decide_eq_true_eq] at facts
  exact ⟨final, reached, finds_spec facts.1, facts.2⟩

end RabbitStreamer.Tracker.Advertised
