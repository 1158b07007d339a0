import RabbitStreamer.Tracker.Advertised

/-! The peers that the timer takes away, against the times of their reports. -/

namespace RabbitStreamer.Tracker.Expiry
open RabbitStreamer.Lib RabbitStreamer.Lib.Transition RabbitStreamer.Core.StructDefine RabbitStreamer.Core.Streamer
open RabbitStreamer.Core.Message RabbitStreamer.Tracker.Uuid RabbitStreamer.Tracker.NpManager
open RabbitStreamer.Tracker.NpManager.NpnodeMap RabbitStreamer.Tracker.State RabbitStreamer.Tracker.NpConnector
open RabbitStreamer.Tracker.Server RabbitStreamer.Tracker.PeerSearch RabbitStreamer.Tracker.Advertised

variable {R : Rand}

def clock : Event → Int
  | .datagram datagram => datagram.env.now
  | .timerCheck currTime => currTime

abbrev ReportedAt := List Nat → Option Int

def mark (reportedAt : ReportedAt) (now : Int) : Option Np2TsReport → ReportedAt
  | none => reportedAt
  | some report => Function.update reportedAt (MapStr.ofUuid report.uuid).rank (some now)

/-- The tracker with the times of reports and the time of its last event. -/
structure Timed (R : Rand) where
  tracker : TrackerState R
  reportedAt : ReportedAt
  clock : Int

def Timed.start (rng : R.State) (unset : UInt32) (now : Int) : Timed R := ⟨.start R rng unset, fun _ => none, now⟩

def stepTimed (timed : Timed R) (event : Event) : Option (Timed R) :=
  if clock event < timed.clock then none
  else (step timed.tracker event).map fun after =>
    ⟨after, mark timed.reportedAt (clock event) (accepted timed.tracker event), clock event⟩

def KeptFrom (npnodeMap : NpnodeMap) (uuid : MapStr) (since : Int) : Prop :=
  ∃ node, npnodeMap.getNode uuid = some node ∧ since ≤ node.lastRecvReportTime ∧
    ∀ currTime, currTime ≤ since + MAX_IDLE_TIME_SEC → (npnodeMap.timerCheck currTime).getNode uuid = some node

/-- A peer is kept from its report on, and a round of the timer takes away those that have been idle
for too long and none whose report is recent. -/
structure Attended (timed : Timed R) (event : Event) : Prop where
  kept : ∀ report after, accepted timed.tracker event = some report → stepTimed timed event = some after →
    KeptFrom after.tracker.npnodeMap (.ofUuid report.uuid) (clock event)
  idle : ∀ currTime after, event = .timerCheck currTime → stepTimed timed event = some after →
    ∀ entry ∈ timed.tracker.npnodeMap.entries, MAX_IDLE_TIME_SEC < currTime - entry.2.lastRecvReportTime →
      after.tracker.npnodeMap.find entry.1 = none
  recent : ∀ currTime after, event = .timerCheck currTime → stepTimed timed event = some after →
    ∀ entry ∈ timed.tracker.npnodeMap.entries, ∀ since, timed.reportedAt entry.1.rank = some since →
      currTime ≤ since + MAX_IDLE_TIME_SEC → entry ∈ after.tracker.npnodeMap.entries

/-- A report is taken in the second in which its peer logged in or was last sent peers. -/
def Fresh (timed : Timed R) (event : Event) : Prop :=
  timed.clock ≤ clock event → ∀ report stored, accepted timed.tracker event = some report →
    timed.tracker.npnodeMap.getNode (.ofUuid report.uuid) = some stored → clock event ≤ stored.lastRecvReportTime

/-- No node is older than the report of its peer, and no report later than the last event. -/
structure Dated (timed : Timed R) : Prop where
  nodes : ∀ entry ∈ timed.tracker.npnodeMap.entries, ∀ since, timed.reportedAt entry.1.rank = some since →
    since ≤ entry.2.lastRecvReportTime
  past : ∀ rank since, timed.reportedAt rank = some since → since ≤ timed.clock

theorem dated_start (rng : R.State) (unset : UInt32) (now : Int) : Dated (.start rng unset now : Timed R) where
  nodes := fun _ member => absurd member List.not_mem_nil
  past := fun _ _ marked => nomatch marked

theorem stepTimed_eq_some {timed after : Timed R} {event : Event} :
    stepTimed timed event = some after ↔ timed.clock ≤ clock event ∧ ∃ next, step timed.tracker event = some next ∧
      after = ⟨next, mark timed.reportedAt (clock event) (accepted timed.tracker event), clock event⟩ := by
  unfold stepTimed
  split_ifs with backwards
  · simp [Int.not_le.mpr backwards]
  · simp [Int.not_lt.mp backwards, eq_comm]

theorem mem_timerCheck {npnodeMap : NpnodeMap} {currTime : Int} {entry : MapStr × NPNode} :
    entry ∈ (npnodeMap.timerCheck currTime).entries ↔
      entry ∈ npnodeMap.entries ∧ currTime ≤ entry.2.lastRecvReportTime + MAX_IDLE_TIME_SEC := by
  unfold timerCheck
  rw [OrderedMap.mem_filter, decide_eq_true_eq]
  constructor
  · rintro ⟨member, young⟩
    exact ⟨member, by omega⟩
  · rintro ⟨member, young⟩
    exact ⟨member, by omega⟩

theorem getNode_timerCheck {npnodeMap : NpnodeMap} {uuid : MapStr} {node : NPNode} {currTime : Int}
    (known : npnodeMap.getNode uuid = some node)
    (young : currTime ≤ node.lastRecvReportTime + MAX_IDLE_TIME_SEC) :
    (npnodeMap.timerCheck currTime).getNode uuid = some node := by
  obtain ⟨entry, found, rfl⟩ := getNode_eq_some.mp known
  obtain ⟨member, same⟩ := OrderedMap.find_eq_some.mp found
  exact getNode_eq_some.mpr ⟨entry, OrderedMap.find_eq_some.mpr ⟨mem_timerCheck.mpr ⟨member, young⟩, same⟩, rfl⟩

theorem keptFrom_iff {npnodeMap : NpnodeMap} {uuid : MapStr} {since : Int} :
    KeptFrom npnodeMap uuid since ↔ ∃ node, npnodeMap.getNode uuid = some node ∧ since ≤ node.lastRecvReportTime := by
  constructor
  · rintro ⟨node, known, late, _⟩
    exact ⟨node, known, late⟩
  · rintro ⟨node, known, late⟩
    exact ⟨node, known, late, fun currTime young => getNode_timerCheck known (by omega)⟩

theorem step_accepted {tracker : TrackerState R} {event : Event} {report : Np2TsReport}
    (taken : accepted tracker event = some report) :
    ∃ stored, tracker.npnodeMap.getNode (.ofUuid report.uuid) = some stored ∧
      step tracker event = some { tracker with
        npnodeMap := tracker.npnodeMap.insertNode (.ofUuid report.uuid) (reported stored report) } := by
  cases event with
  | timerCheck currTime => cases taken
  | datagram datagram =>
    simp only [accepted] at taken
    split at taken
    case h_2 => cases taken
    case h_1 found =>
      split_ifs at taken with wanted
      cases taken
      obtain ⟨stored, known⟩ := Option.isSome_iff_exists.mp wanted.1
      refine ⟨stored, known, ?_⟩
      have acted := getReport_known known datagram.lastReceiveAddr datagram.env
      rw [if_neg wanted.2.1] at acted
      simp only [step, receive_of_request found, Request.act, receiveReport_of_room wanted.2.2, acted]
      rfl

def OldOrNow (npnodeMap : NpnodeMap) (now : Int) (entry : MapStr × NPNode) : Prop :=
  entry ∈ npnodeMap.entries ∨ entry.2.lastRecvReportTime = now

theorem oldOrNow_insertNode {npnodeMap : NpnodeMap} {uuid : MapStr} {node : NPNode} {entry : MapStr × NPNode}
    {now : Int} (new : node.lastRecvReportTime = now) (member : entry ∈ (npnodeMap.insertNode uuid node).entries) :
    OldOrNow npnodeMap now entry := by
  rcases mem_insertNode member with ⟨_, changed⟩ | ⟨_, old⟩
  · rw [OldOrNow, changed]
    exact Or.inr new
  · exact Or.inl old

theorem oldOrNow_asksAt {uuid : MapStr} {tracker after : TrackerState R} {env : Env} {sent : List Sent}
    {result : Except Halt (TrackerState R × List Sent)} (serves : Serves uuid (AsksAt env.now) tracker result)
    (ended : result = .ok (after, sent)) {entry : MapStr × NPNode} (member : entry ∈ after.npnodeMap.entries) :
    OldOrNow tracker.npnodeMap env.now entry := by
  obtain endless | ⟨_, _, served, _, same | ⟨stored, node, _, ⟨resHash, rfl⟩, changed⟩⟩ := serves
  · cases endless.symm.trans ended
  · cases served.symm.trans ended
    rw [same] at member
    exact Or.inl member
  · cases served.symm.trans ended
    rw [changed] at member
    exact oldOrNow_insertNode rfl member

theorem getReport_passed {datagram : Datagram} {report : Np2TsReport} {tracker after : TrackerState R}
    {sent : List Sent} (found : datagram.request = .ok (some (.report report)))
    (passed : accepted tracker (.datagram datagram) = none)
    (received : receiveReport report tracker datagram.lastReceiveAddr datagram.env = .ok (after, sent)) :
    after = tracker := by
  obtain ⟨room, acted⟩ := receiveReport_eq_ok received
  cases known : tracker.npnodeMap.getNode (.ofUuid report.uuid) with
  | none =>
    cases (getReport_unknown known datagram.lastReceiveAddr datagram.env).symm.trans acted
    rfl
  | some stored =>
    have nothing : report.intervalCount = 0 := by
      by_contra intervals
      simp [accepted, found, known, intervals, room] at passed
    have ended := (getReport_known known datagram.lastReceiveAddr datagram.env).symm.trans acted
    rw [if_pos nothing] at ended
    cases ended
    rfl

theorem oldOrNow_step {tracker after : TrackerState R} {event : Event} (taken : step tracker event = some after)
    (passed : accepted tracker event = none) {entry : MapStr × NPNode} (member : entry ∈ after.npnodeMap.entries) :
    OldOrNow tracker.npnodeMap (clock event) entry := by
  obtain ⟨datagram, rfl, _, rfl⟩ | ⟨datagram, request, sent, rfl, found, acted⟩ | ⟨currTime, rfl, rfl⟩ :=
    step_cases taken
  · exact Or.inl member
  · have kept : after.npnodeMap = tracker.npnodeMap → OldOrNow tracker.npnodeMap datagram.env.now entry :=
      fun same => Or.inl (same ▸ member)
    cases request with
    | login message =>
      by_cases addresses : message.localIpListSize = 0
      · cases (getLogin_none addresses tracker datagram.lastReceiveAddr datagram.env).symm.trans acted
        exact kept rfl
      · cases (getLogin_some addresses rfl datagram.lastReceiveAddr datagram.env).symm.trans acted
        exact oldOrNow_insertNode rfl member
    | reqRes message => exact oldOrNow_asksAt (asksAt_getReqRes message ..) acted member
    | report message => exact kept (by rw [getReport_passed found passed acted])
    | needPeers message => exact oldOrNow_asksAt (asksAt_getNeedPeers message ..) acted member
    | resInterval message =>
      obtain ⟨_, _, ended⟩ := getResInterval_cases message tracker datagram.lastReceiveAddr datagram.env
      cases ended.symm.trans acted
      exact kept rfl
    | logout message =>
      cases acted
      exact Or.inl (OrderedMap.mem_filter.mp member).1
    | register message => exact kept (SpConnector.keeps_getRegister acted).1
    | status message => exact kept (SpConnector.keeps_getStatus acted).1
    | resList message => exact kept (SpConnector.keeps_getResList acted).1
    | getSp message =>
      obtain ⟨rfl, _⟩ := SpConnector.getSpList_eq_ok acted
      exact kept rfl
  · exact Or.inl (mem_timerCheck.mp member).1

theorem dated_step {timed after : Timed R} {event : Event} (dated : Dated timed) (fresh : Fresh timed event)
    (taken : stepTimed timed event = some after) : Dated after := by
  obtain ⟨forwards, next, stepped, rfl⟩ := stepTimed_eq_some.mp taken
  cases reports : accepted timed.tracker event with
  | none =>
    refine ⟨fun entry member since marked => ?_, fun rank since marked => ?_⟩
    · rcases oldOrNow_step stepped reports member with old | now
      · exact dated.nodes entry old since marked
      · rw [now]
        exact Int.le_trans (dated.past _ since marked) forwards
    · exact Int.le_trans (dated.past rank since marked) forwards
  | some report =>
    obtain ⟨stored, known, written⟩ := step_accepted reports
    cases written.symm.trans stepped
    refine ⟨fun entry member since marked => ?_, fun rank since marked => ?_⟩
    · rcases mem_insertNode member with ⟨self, changed⟩ | ⟨other, old⟩
      · simp only [mark, self, Function.update_self, Option.some.injEq] at marked
        rw [changed, ← marked]
        exact fresh forwards report stored reports known
      · simp only [mark, Function.update_of_ne other] at marked
        exact dated.nodes entry old since marked
    · by_cases self : rank = (MapStr.ofUuid report.uuid).rank
      · simp only [mark, self, Function.update_self, Option.some.injEq] at marked
        exact Int.le_of_eq marked.symm
      · simp only [mark, Function.update_of_ne self] at marked
        exact Int.le_trans (dated.past rank since marked) forwards

theorem kept_iff_fresh {timed after : Timed R} {event : Event} {report : Np2TsReport} {stored : NPNode}
    (reports : accepted timed.tracker event = some report)
    (known : timed.tracker.npnodeMap.getNode (.ofUuid report.uuid) = some stored)
    (taken : stepTimed timed event = some after) :
    KeptFrom after.tracker.npnodeMap (.ofUuid report.uuid) (clock event) ↔
      clock event ≤ stored.lastRecvReportTime := by
  obtain ⟨_, next, stepped, rfl⟩ := stepTimed_eq_some.mp taken
  obtain ⟨_, same, written⟩ := step_accepted reports
  cases known.symm.trans same
  cases written.symm.trans stepped
  rw [keptFrom_iff, getNode_insertNode]
  simp only [Option.some.injEq, exists_eq_left']
  rfl

theorem attended_iff_fresh {timed : Timed R} {event : Event} (dated : Dated timed) :
    Attended timed event ↔ Fresh timed event := by
  constructor
  · intro attended forwards report stored reports known
    obtain ⟨_, _, written⟩ := step_accepted reports
    have taken := stepTimed_eq_some.mpr ⟨forwards, _, written, rfl⟩
    exact (kept_iff_fresh reports known taken).mp (attended.kept report _ reports taken)
  · intro fresh
    refine ⟨fun report after reports taken => ?_, fun currTime after same taken entry member old => ?_,
      fun currTime after same taken entry member since marked young => ?_⟩
    · obtain ⟨stored, known, _⟩ := step_accepted reports
      obtain ⟨forwards, _⟩ := stepTimed_eq_some.mp taken
      exact (kept_iff_fresh reports known taken).mpr (fresh forwards report stored reports known)
    · subst same
      obtain ⟨_, next, stepped, rfl⟩ := stepTimed_eq_some.mp taken
      cases stepped
      refine OrderedMap.find_eq_none.mpr fun other left equal => ?_
      obtain ⟨present, young⟩ := mem_timerCheck.mp left
      cases OrderedMap.entry_unique _ present member equal
      omega
    · subst same
      obtain ⟨_, next, stepped, rfl⟩ := stepTimed_eq_some.mp taken
      cases stepped
      have late := dated.nodes entry member since marked
      exact mem_timerCheck.mpr ⟨member, by omega⟩

/-- Along a run no peer that reports is taken away too early if and only if each of them reports in
the second in which it logged in or was sent peers. -/
theorem attended_iff (rng : R.State) (unset : UInt32) (now : Int) (events : List Event) :
    Along stepTimed (.start rng unset now : Timed R) events Attended ↔
      Along stepTimed (.start rng unset now : Timed R) events Fresh :=
  along_iff_of_invariant Dated (dated_start rng unset now) (fun _ _ dated => attended_iff_fresh dated)
    fun _ _ _ dated attended taken => dated_step dated ((attended_iff_fresh dated).mp attended) taken

def laterReport : Event :=
  let report : Request :=
    .report ⟨(uuidOf ⟨5, 6, 7, 8⟩).uuid, .zero, 1, [⟨20, 10⟩], .zero, 0, 0, 0, 0, 0, 0, 0, 0, 0, 0⟩
  .datagram (report.datagram .init ⟨400, fun _ => 0, 0, 0, 5, 255⟩)

def expires (timed : Timed .counting) : Bool :=
  (accepted timed.tracker laterReport).any fun report =>
    (stepTimed timed laterReport).any fun after =>
      ((after.tracker.npnodeMap.timerCheck 701).getNode (.ofUuid report.uuid)).isNone

/-- Eleven minutes after its login the peer is taken away, though it has reported meanwhile. -/
theorem reporter_expired : ¬∀ events, Along stepTimed (.start (1 : Nat) 0 0 : Timed .counting) events Attended := by
  intro attended
  obtain ⟨timed, reached, expired⟩ := (Option.any_eq_true _ _).mp
    (show (run stepTimed (.start (1 : Nat) 0 0 : Timed .counting) twoPeers).any expires = true by decide +kernel)
  obtain ⟨report, reports, gone⟩ := (Option.any_eq_true _ _).mp expired
  obtain ⟨after, taken, gone⟩ := (Option.any_eq_true _ _).mp gone
  obtain ⟨node, _, _, young⟩ :=
    (attended (twoPeers ++ [laterReport]) twoPeers laterReport [] timed rfl reached).kept report after reports taken
  rw [young 701 (by decide)] at gone
  cases gone

end RabbitStreamer.Tracker.Expiry
