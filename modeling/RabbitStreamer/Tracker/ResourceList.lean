import RabbitStreamer.Tracker.ShortDatagrams

/-! The count of a channel's hashes and the array of them, over every run of the tracker. -/

namespace RabbitStreamer.Tracker.ResourceList
open RabbitStreamer.Lib RabbitStreamer.Lib.Transition RabbitStreamer.Core.Struct RabbitStreamer.Core.StructDefine
open RabbitStreamer.Core.Streamer RabbitStreamer.Core.Message
open RabbitStreamer.Tracker.Uuid RabbitStreamer.Tracker.StreamerManager RabbitStreamer.Tracker.State
open RabbitStreamer.Tracker.Server RabbitStreamer.Tracker.NpConnector RabbitStreamer.Tracker.SpConnector
open RabbitStreamer.Tracker.ShortDatagrams

variable {R : Rand}

/-- Every stored node has an array of exactly `resourceCount` hashes. -/
def Consistent (channelMap : ChannelMap) : Prop := ∀ entry ∈ channelMap.entries, entry.2.Consistent

theorem Consistent.find {channelMap : ChannelMap} (consistent : Consistent channelMap) {uuid : MapStr}
    {entry : MapStr × ChannelNode} (known : channelMap.find uuid = some entry) : entry.2.Consistent :=
  consistent entry (OrderedMap.find_eq_some.mp known).1

theorem Consistent.adjust {channelMap : ChannelMap} (consistent : Consistent channelMap) (uuid : MapStr)
    {node : ChannelNode} (whole : node.Consistent) : Consistent (channelMap.adjust uuid fun _ => node) := by
  intro entry member
  obtain ⟨value, old, changed⟩ := OrderedMap.mem_adjust member
  split_ifs at changed
  · rw [changed]
    exact whole
  · rw [changed]
    exact consistent _ old

theorem consistent_act {request : Request} {tracker after : TrackerState R} {lastReceiveAddr : NetAddress} {env : Env}
    {sent : List Sent} (consistent : Consistent tracker.channelMap)
    (acted : request.act tracker lastReceiveAddr env = .ok (after, sent)) : Consistent after.channelMap := by
  obtain same | ⟨register, uuid, _, _, inserted⟩ | ⟨uuid, entry, changed, node, _, _, copied, same⟩ :=
    changesChannels_act acted
  · rw [same]
    exact consistent
  · intro entry member
    rcases mem_insertChannel inserted member with ⟨_, copied⟩ | ⟨_, old⟩
    · exact ChannelNode.assign_consistent copied
    · exact consistent entry old
  · rw [same]
    exact consistent.adjust uuid (ChannelNode.assign_consistent copied)

theorem consistent_step {tracker after : TrackerState R} {event : Event} (consistent : Consistent tracker.channelMap)
    (taken : step tracker event = some after) : Consistent after.channelMap := by
  obtain ⟨_, _, _, rfl⟩ | ⟨_, _, _, _, _, acted⟩ | ⟨_, _, rfl⟩ := step_cases taken
  · exact consistent
  · exact consistent_act consistent acted
  · exact consistent

theorem consistent_run {rng : R.State} {unset : UInt32} {events : List Event} {tracker : TrackerState R}
    (reached : run step (.start R rng unset) events = some tracker) : Consistent tracker.channelMap :=
  run_invariant (fun tracker => Consistent tracker.channelMap)
    (fun _ _ _ consistent taken => consistent_step consistent taken) (by simp [Consistent, TrackerState.start,
      OrderedMap.empty]) reached

def Copies : Request → Prop
  | .register _ | .status _ | .resList _ => True
  | _ => False

/-- A status that gives a channel more resources than it has. -/
def Overstates (tracker : TrackerState R) : Request → Prop
  | .status status => ∃ entry, tracker.channelMap.find (.ofUuid status.spUuid) = some entry ∧
      entry.2.resourceCount.toNat < status.resourceCount.toNat
  | _ => False

theorem insertChannel_fits {channelMap : ChannelMap} (consistent : Consistent channelMap) (now : Int) (uuid : MapStr)
    {chnl : ChannelNode} (fits : chnl.resourceCount.toNat ≤ chnl.pHash.length) :
    ∃ after, channelMap.insertChannel now uuid chnl = .ok after := by
  obtain ⟨pNode, copied⟩ : ∃ pNode, chnl.assign now = .ok pNode := ⟨_, ChannelNode.assign_eq_ok.mpr ⟨fits, rfl⟩⟩
  cases found : channelMap.find uuid with
  | none =>
    rw [insertChannel_unknown found, copied]
    exact ⟨_, rfl⟩
  | some entry =>
    rw [insertChannel_known found, (consistent.find found).assign, copied]
    exact ⟨_, rfl⟩

theorem updateChannel_faults_iff {tracker : TrackerState R} (consistent : Consistent tracker.channelMap)
    (uuid : MapStr) (change : ChannelNode → ChannelNode) (lastReceiveAddr : NetAddress) (env : Env) :
    updateChannel uuid change tracker lastReceiveAddr env = .error .fault ↔
      ∃ entry, tracker.channelMap.find uuid = some entry ∧
        let changed := change { entry.2 with lastRecvReportTime := env.now }
        changed.pHash.length < changed.resourceCount.toNat := by
  cases found : tracker.channelMap.find uuid with
  | none => simp [updateChannel_unknown found]
  | some entry =>
    rw [updateChannel_known found, (consistent.find found).assign]
    generalize same : change { entry.2 with lastRecvReportTime := env.now } = changed
    simp only [Except.bind, same]
    by_cases fits : changed.resourceCount.toNat ≤ changed.pHash.length
    · obtain ⟨after, inserted⟩ := insertChannel_fits consistent env.now uuid fits
      rw [inserted]
      constructor
      · intro failed
        cases failed
      · rintro ⟨_, same, short⟩
        cases same
        rw [‹change _ = changed›] at short
        omega
    · have failed : changed.assign env.now = .error .fault := if_neg fits
      rw [insertChannel_known found, (consistent.find found).assign, failed]
      refine ⟨fun _ => ⟨entry, rfl, ?_⟩, fun _ => rfl⟩
      rw [same]
      omega

theorem copy_faults_iff {tracker : TrackerState R} (consistent : Consistent tracker.channelMap) {request : Request}
    (counted : request.Counted) (copies : Copies request) (lastReceiveAddr : NetAddress) (env : Env) :
    request.act tracker lastReceiveAddr env = .error .fault ↔ Overstates tracker request := by
  cases request with
  | register register =>
    obtain ⟨uuid, rng, drawn⟩ : ∃ uuid rng, generateUuid R tracker.rng = (uuid, rng) := ⟨_, _, rfl⟩
    obtain ⟨after, inserted⟩ := insertChannel_fits consistent env.now uuid
      (show (registerNode register lastReceiveAddr env.now).resourceCount.toNat ≤ _ from Nat.zero_le _)
    simp only [Request.act, getRegister_eq drawn, inserted, Overstates]
    simp [Except.map]
  | status status =>
    have faults := updateChannel_faults_iff consistent (.ofUuid status.spUuid)
      (fun pNode => { pNode with
        resourceCount := status.resourceCount
        conNum := status.connectionNum
        bandwidth := status.bandwidth
        exceedMaxConn := status.exceedMaxConnection ≠ 0 }) lastReceiveAddr env
    refine faults.trans (exists_congr fun entry => and_congr_right fun known => ?_)
    rw [← consistent.find known]
  | resList resList =>
    have faults := updateChannel_faults_iff consistent (.ofUuid resList.spUuid)
      (fun pNode => { pNode with
        resourceCount := resList.resourceCount
        pHash := resList.resInfo.map resourceHash }) lastReceiveAddr env
    refine faults.trans ⟨?_, False.elim⟩
    rintro ⟨entry, _, short⟩
    have fewer : resList.resInfo.length < resList.resourceCount.toNat := by simpa only [List.length_map] using short
    exact absurd counted (Nat.ne_of_lt fewer)
  | _ => exact copies.elim

/-- What is promised of a state and the datagram that comes next. -/
def Inside (tracker : TrackerState R) (event : Event) : Prop :=
  Consistent tracker.channelMap ∧ ∀ datagram request, event = .datagram datagram →
    datagram.request = .ok (some request) → Copies request → receive tracker datagram ≠ .error .fault

/-- No run of the tracker stores a node with another number of hashes; and no copy in it runs past
its array exactly if none of its status messages overstates the resources of a channel. -/
theorem copies_inside_iff (rng : R.State) (unset : UInt32) (events : List Event) :
    (∀ tracker, run step (.start R rng unset) events = some tracker → Consistent tracker.channelMap) ∧
    (Along step (.start R rng unset) events Inside ↔
      Along step (.start R rng unset) events fun tracker event => ∀ datagram request, event = .datagram datagram →
        datagram.request = .ok (some request) → ¬Overstates tracker request) := by
  refine ⟨fun tracker reached => consistent_run reached, along_congr fun past tracker event reached => ?_⟩
  have consistent := consistent_run reached
  constructor
  · rintro ⟨_, inside⟩ datagram request same found overstates
    have copies : Copies request := by
      cases request <;> trivial
    apply inside datagram request same found copies
    rw [receive_of_request found]
    exact (copy_faults_iff consistent (counted_of_request found) copies _ _).mpr overstates
  · refine fun modest => ⟨consistent, fun datagram request same found copies failed => ?_⟩
    rw [receive_of_request found] at failed
    exact modest datagram request same found
      ((copy_faults_iff consistent (counted_of_request found) copies _ _).mp failed)

def oneRegister : List Event :=
  [.datagram ((Request.register ⟨1, .fill _ 0, 0⟩).datagram .init ⟨100, fun _ => 0, 0, 0, 0, 255⟩)]

/-- A status with one resource for the channel registered so. -/
def statusOfOne : Datagram :=
  (Request.status ⟨(uuidOf ⟨1, 2, 3, 4⟩).uuid, 1, 0, 0, 0⟩).datagram .init ⟨100, fun _ => 0, 0, 0, 0, 255⟩

/-- The copy of the node runs past an array that is not there. -/
theorem status_before_list_faults : ∃ tracker, run step (.start .counting (1 : Nat) 0) oneRegister = some tracker ∧
    receive tracker statusOfOne = .error .fault := by
  obtain ⟨tracker, reached⟩ := Option.isSome_iff_exists.mp
    (show (run step (.start .counting (1 : Nat) 0) oneRegister).isSome by decide +kernel)
  have faults : (run step (.start .counting (1 : Nat) 0) oneRegister).all (fun tracker =>
      match receive tracker statusOfOne with
      | .error .fault => true
      | _ => false) = true := by
    decide +kernel
  rw [reached, Option.all_some] at faults
  refine ⟨tracker, reached, ?_⟩
  split at faults
  · assumption
  · cases faults

end RabbitStreamer.Tracker.ResourceList
