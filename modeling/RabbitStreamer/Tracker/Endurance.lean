import RabbitStreamer.Tracker.PeerRounds
import RabbitStreamer.Tracker.ResourceList
import RabbitStreamer.Tracker.SpLists

/-! Whether the tracker survives a datagram, and drops one that holds less than its type calls for. -/

namespace RabbitStreamer.Tracker.Endurance
open RabbitStreamer.Lib RabbitStreamer.Lib.Transition RabbitStreamer.Core.Streamer
open RabbitStreamer.Core.Interval RabbitStreamer.Core.Struct RabbitStreamer.Core.StructDefine
open RabbitStreamer.Core.Message RabbitStreamer.Core.Message.P2PMESSAGE RabbitStreamer.Core.MessageCodec
open RabbitStreamer.Tracker.Uuid RabbitStreamer.Tracker.NpManager RabbitStreamer.Tracker.StreamerManager
open RabbitStreamer.Tracker.State RabbitStreamer.Tracker.Server RabbitStreamer.Tracker.NpConnector
open RabbitStreamer.Tracker.SpConnector RabbitStreamer.Tracker.ShortDatagrams RabbitStreamer.Tracker.ResourceList
open RabbitStreamer.Tracker.PeerRounds RabbitStreamer.Tracker.SpAddresses

variable {R : Rand}

def granted (datagram : Datagram) (passes : Nat) : Datagram :=
  { datagram with env := { datagram.env with passes } }

def Quiet (tracker after : TrackerState R) (sent : List Sent) : Prop :=
  sent = [] ∧ after.npnodeMap = tracker.npnodeMap ∧ after.channelMap = tracker.channelMap

/-- The handler returns, and a message that is too short is dropped. -/
def Endures (tracker : TrackerState R) (datagram : Datagram) : Prop :=
  ∃ passes after sent, receive tracker (granted datagram passes) = .ok (after, sent) ∧
    (Short datagram (held datagram) → Quiet tracker after sent)

/-- A request that is handled within the arrays: there is room for the intervals of a report, a status
counts no more hashes than there are, and who asks for the other super peers is one of them, or there
is at most one. -/
def Contained (tracker : TrackerState R) (env : Env) : Request → Prop
  | .report report => HasRoom env report
  | .status status => ∀ entry, tracker.channelMap.find (.ofUuid status.spUuid) = some entry →
      status.resourceCount.toNat ≤ entry.2.resourceCount.toNat
  | .getSp spList => (tracker.channelMap.find (.ofUuid spList.spUuid)).isSome ∨ tracker.channelMap.size ≤ 1
  | _ => True

/-- A report says what is stored for its peer; `operator=` has put the average elapsed time of incoming
connections in the place of their count. -/
structure Repeats (node : NPNode) (report : Np2TsReport) : Prop where
  coreInfo : node.coreInfo = report.coreinfo
  transInfo : node.transInfo = report.transferinfo
  playingBlock : node.playingBlock = report.playingBlock
  currentBufferingTime : node.currentBufferingTime = report.currentBufferingTime
  bufferedCount : node.bufferedCount = report.bufferedCount
  bufferedTime : node.bufferedTime = report.bufferedTime
  connectFailCount : node.connectFailCount = report.connectFailCount
  incomingConnectionCount : node.incomingConnectionCount = report.avgIncomingConnectionElapsedTime
  outgoingConnectionCount : node.outgoingConnectionCount = report.outgoingConnectionCount
  avgincoming : node.avgincomingConnectionElapsedTime = report.avgIncomingConnectionElapsedTime
  avgoutgoing : node.avgoutgoingConnectionElapsedTime = report.avgOutgoingConnectionElapsedTime
  msgPercent : node.msgPercent = report.messagePercent
  countInterval : node.countInterval = report.intervalCount
  nothingAdded : (report.blockinterval.foldl (fun array interval => array.addInterval interval.start interval.size)
    node.intervalArray.assign).intervals = node.intervalArray.intervals
  noRoomLeft : node.intervalArray.totalSize = node.intervalArray.intervals.length

/-- A request that there is nothing to do for: it comes from somebody unknown who is not told so, or
asks for what there is not, or says what is stored already. -/
def Idle (tracker : TrackerState R) (env : Env) : Request → Prop
  | .login login => login.localIpListSize = 0
  | .reqRes reqRes => tracker.channelMap.getSpAddress (.ofMd5 reqRes.resourceMd5 (.init env.unsetSize)) 1 = []
  | .report report => ∃ entry, tracker.npnodeMap.find (.ofUuid report.uuid) = some entry ∧
      (report.intervalCount = 0 ∨ Repeats entry.2 report)
  | .needPeers needPeers => ∀ node, tracker.npnodeMap.getNode (.ofUuid needPeers.uuid) = some node →
      tracker.channelMap.getSpAddress node.channelIDMd5 1 = []
  | .resInterval resInterval => ∃ node, tracker.npnodeMap.getNode (.ofUuid resInterval.uuid) = some node ∧
      ∀ blockInterval, tracker.channelMap.getChannelInterval node.channelIDMd5 = some blockInterval →
        tracker.lastSendBlockinterval = blockInterval
  | .logout logout => tracker.npnodeMap.find (.ofUuid logout.uuid) = none
  | .register _ => False
  | .status status => ∀ entry, tracker.channelMap.find (.ofUuid status.spUuid) = some entry →
      entry.2.lastRecvReportTime = env.now ∧ entry.2.resourceCount = status.resourceCount ∧
        entry.2.conNum = status.connectionNum ∧ entry.2.bandwidth = status.bandwidth ∧
        entry.2.exceedMaxConn = decide (status.exceedMaxConnection ≠ 0)
  | .resList resList => ∀ entry, tracker.channelMap.find (.ofUuid resList.spUuid) = some entry →
      entry.2.lastRecvReportTime = env.now ∧ entry.2.resourceCount = resList.resourceCount ∧
        entry.2.pHash = resList.resInfo.map resourceHash
  | .getSp spList => tracker.channelMap.size ≤ 1 ∨ SpLists.others tracker.channelMap (.ofUuid spList.spUuid) = []

/-- The size in the packet is enough for the type and the request is handled within the arrays; if the
datagram falls short of it, there is nothing to do for the request. -/
def Endurable (tracker : TrackerState R) (datagram : Datagram) : Prop :=
  ¬Short datagram (declared datagram.buf) ∧ ∀ request, datagram.request = .ok (some request) →
    Contained tracker datagram.env request ∧ (Short datagram (held datagram) → Idle tracker datagram.env request)

/-- What is to be shown of a handler: where it comes to an end, and where it then has done nothing. -/
structure Settles (tracker : TrackerState R) (act : Nat → Except Halt (TrackerState R × List Sent))
    (contained idle : Prop) : Prop where
  ends : contained → ∃ passes after sent, act passes = .ok (after, sent)
  only : ∀ {passes after sent}, act passes = .ok (after, sent) → contained ∧ (Quiet tracker after sent ↔ idle)

theorem settles_of_eq {tracker after : TrackerState R} {act : Nat → Except Halt (TrackerState R × List Sent)}
    {result : Except Halt (TrackerState R × List Sent)} {sent : List Sent} {idle : Prop}
    (same : ∀ passes, act passes = result) (ended : result = .ok (after, sent))
    (quiet : Quiet tracker after sent ↔ idle) : Settles tracker act True idle where
  ends _ := ⟨0, after, sent, (same 0).trans ended⟩
  only {passes _ _} acted := by
    cases ((same passes).trans ended).symm.trans acted
    exact ⟨trivial, quiet⟩

theorem not_quiet_of_sent (tracker after : TrackerState R) (message : Sent) (more : List Sent) :
    ¬Quiet tracker after (message :: more) := fun quiet => nomatch quiet.1

theorem quiet_refl (tracker : TrackerState R) : Quiet tracker tracker [] := ⟨rfl, rfl, rfl⟩

theorem settles_login (login : Np2TsLogin) (tracker : TrackerState R) (lastReceiveAddr : NetAddress) (env : Env) :
    Settles tracker (fun passes => getLogin login tracker lastReceiveAddr { env with passes }) True
      (login.localIpListSize = 0) := by
  by_cases addresses : login.localIpListSize = 0
  · refine settles_of_eq (fun _ => rfl) (getLogin_none addresses tracker lastReceiveAddr env) ?_
    exact iff_of_true ⟨rfl, rfl, rfl⟩ addresses
  · refine settles_of_eq (fun _ => rfl) (getLogin_some addresses rfl lastReceiveAddr env) ?_
    exact iff_of_false (not_quiet_of_sent tracker _ _ _) addresses

theorem answerPeers_sends (uuid : MapStr) (resHash : MD5HashStr) (peers : List PeerInfoWithAddr)
    (cps : List NetAddress) (sp : NetAddress) (tracker : TrackerState R) (lastReceiveAddr : NetAddress) (env : Env) :
    ∃ after message, answerPeers uuid resHash peers cps sp tracker lastReceiveAddr env = .ok (after, [message]) := by
  cases known : tracker.npnodeMap.getNode uuid with
  | none => exact ⟨_, _, answerPeers_unknown known resHash peers cps sp lastReceiveAddr env⟩
  | some stored =>
    obtain ⟨payload, _, answered⟩ := answerPeers_known known resHash peers cps sp lastReceiveAddr env
    exact ⟨_, _, answered⟩

theorem settles_sendPeers (uuid : MapStr) (resHash : MD5HashStr) (id : UInt32) {tracker : TrackerState R}
    (recurs : Recurs R tracker.rng) (lastReceiveAddr : NetAddress) (env : Env) :
    Settles tracker (fun passes => sendPeers uuid resHash id tracker lastReceiveAddr { env with passes }) True
      (tracker.channelMap.getSpAddress resHash 1 = []) where
  ends _ := by
    obtain ⟨passes, peers, rest, found⟩ := getNpAddress_ends recurs tracker.npnodeMap ⟨resHash, uuid, 20, id⟩
    refine ⟨passes, ?_⟩
    simp only [sendPeers, found]
    split
    · exact ⟨_, _, rfl⟩
    · exact ⟨_, _, rfl⟩
    · obtain ⟨after, message, answered⟩ := answerPeers_sends (R := R) uuid resHash peers _ _ _ lastReceiveAddr _
      exact ⟨after, _, answered⟩
  only {passes after sent} acted := by
    refine ⟨trivial, ?_⟩
    rcases sendPeers_cases uuid resHash id tracker lastReceiveAddr { env with passes } with
      endless | ⟨cps, rng, peers, _, drawn, _, ⟨nobody, nothing⟩ | ⟨sp, more, _, carried, answered⟩⟩
    · cases endless.symm.trans acted
    · cases nothing.symm.trans acted
      exact iff_of_true ⟨rfl, rfl, rfl⟩ (nowhere_of_nobody drawn nobody)
    · obtain ⟨_, message, told⟩ :=
        answerPeers_sends uuid resHash peers cps sp { tracker with rng } lastReceiveAddr { env with passes }
      cases (answered.trans told).symm.trans acted
      exact iff_of_false (not_quiet_of_sent tracker _ _ _) (by simp [carried])

theorem settles_needPeers (needPeers : Np2TsNeedPeers) {tracker : TrackerState R} (recurs : Recurs R tracker.rng)
    (lastReceiveAddr : NetAddress) (env : Env) :
    Settles tracker (fun passes => getNeedPeers needPeers tracker lastReceiveAddr { env with passes }) True
      (∀ node, tracker.npnodeMap.getNode (.ofUuid needPeers.uuid) = some node →
        tracker.channelMap.getSpAddress node.channelIDMd5 1 = []) := by
  unfold getNeedPeers
  cases known : tracker.npnodeMap.getNode (.ofUuid needPeers.uuid) with
  | none => exact settles_of_eq (fun _ => rfl) rfl (iff_of_true (quiet_refl tracker) fun _ other => nomatch other)
  | some node =>
    simpa using settles_sendPeers (.ofUuid needPeers.uuid) node.channelIDMd5 needPeers.currentBlock recurs
      lastReceiveAddr env

theorem insertNode_eq_self_iff {npnodeMap : NpnodeMap} {uuid : MapStr} {entry : MapStr × NPNode}
    (known : npnodeMap.find uuid = some entry) (node : NPNode) :
    npnodeMap.insertNode uuid node = npnodeMap ↔ node.assign = entry.2 := by
  simp only [NpnodeMap.insertNode, known]
  exact OrderedMap.adjust_eq_self_iff known node.assign

theorem assign_eq_iff {array another : IntervalArray} : another.assign = array ↔
    another.intervals = array.intervals ∧ array.totalSize = array.intervals.length := by
  obtain ⟨intervals, totalSize, fits, small⟩ := array
  simp only [IntervalArray.assign, IntervalArray.mk.injEq]
  constructor
  · rintro ⟨rfl, rfl⟩
    exact ⟨rfl, rfl⟩
  · rintro ⟨rfl, rfl⟩
    exact ⟨rfl, rfl⟩

theorem reported_eq_iff {node : NPNode} {report : Np2TsReport} :
    (reported node.assign report).assign = node ↔ Repeats node report := by
  cases node
  simp only [reported, NPNode.assign, NPNode.mk.injEq, assign_eq_iff, true_and, and_true]
  constructor
  · rintro ⟨rfl, rfl, rfl, rfl, rfl, rfl, rfl, rfl, rfl, rfl, rfl, rfl, rfl, added, full⟩
    exact ⟨rfl, rfl, rfl, rfl, rfl, rfl, rfl, rfl, rfl, rfl, rfl, rfl, rfl, added, full⟩
  · rintro ⟨core, transfer, playing, buffering, count, time, failed, incoming, outgoing, avgincoming, avgoutgoing,
      percent, intervals, added, full⟩
    exact ⟨core.symm, transfer.symm, playing.symm, buffering.symm, count.symm, time.symm, failed.symm,
      incoming.symm, outgoing.symm, avgincoming.symm, avgoutgoing.symm, percent.symm, intervals.symm, added, full⟩

theorem settles_report (report : Np2TsReport) (tracker : TrackerState R) (lastReceiveAddr : NetAddress) (env : Env) :
    Settles tracker (fun passes => receiveReport report tracker lastReceiveAddr { env with passes })
      (HasRoom env report)
      (∃ entry, tracker.npnodeMap.find (.ofUuid report.uuid) = some entry ∧
        (report.intervalCount = 0 ∨ Repeats entry.2 report)) where
  ends room := by
    refine ⟨0, ?_⟩
    rw [receiveReport_of_room (show HasRoom { env with passes := 0 } report from room)]
    cases known : tracker.npnodeMap.getNode (.ofUuid report.uuid) with
    | none => exact ⟨_, _, getReport_unknown known _ _⟩
    | some stored => exact ⟨_, _, getReport_known known _ _⟩
  only {passes after sent} received := by
    obtain ⟨room, acted⟩ := receiveReport_eq_ok received
    refine ⟨room, ?_⟩
    cases found : tracker.npnodeMap.find (.ofUuid report.uuid) with
    | none =>
      cases (getReport_unknown (getNode_eq_none.mpr found) _ _).symm.trans acted
      exact iff_of_false (not_quiet_of_sent tracker _ _ _) (by simp)
    | some entry =>
      have known := getNode_eq_some.mpr ⟨entry, found, rfl⟩
      cases (getReport_known known _ _).symm.trans acted
      simp only [Option.some.injEq, exists_eq_left']
      split_ifs with nothing
      · exact iff_of_true (quiet_refl tracker) (Or.inl nothing)
      · simp only [nothing, false_or]
        rw [← reported_eq_iff, ← insertNode_eq_self_iff found]
        exact ⟨fun quiet => quiet.2.1, fun same => ⟨rfl, same, rfl⟩⟩

theorem settles_resInterval (resInterval : Np2TsReqInterval) (tracker : TrackerState R)
    (lastReceiveAddr : NetAddress) (env : Env) :
    Settles tracker (fun passes => getResInterval resInterval tracker lastReceiveAddr { env with passes }) True
      (∃ node, tracker.npnodeMap.getNode (.ofUuid resInterval.uuid) = some node ∧
        ∀ blockInterval, tracker.channelMap.getChannelInterval node.channelIDMd5 = some blockInterval →
          tracker.lastSendBlockinterval = blockInterval) := by
  cases known : tracker.npnodeMap.getNode (.ofUuid resInterval.uuid) with
  | none =>
    refine settles_of_eq (fun _ => rfl) (getResInterval_unknown known lastReceiveAddr env) ?_
    exact iff_of_false (not_quiet_of_sent tracker _ _ _) (by simp)
  | some node =>
    have answered : getResInterval resInterval tracker lastReceiveAddr env =
        sendResInterval node.channelIDMd5 tracker lastReceiveAddr env := by
      simp only [getResInterval, known]
    simp only [Option.some.injEq, exists_eq_left']
    cases interval : tracker.channelMap.getChannelInterval node.channelIDMd5 with
    | none =>
      have silent : sendResInterval node.channelIDMd5 tracker lastReceiveAddr env = .ok (tracker, []) := by
        simp only [sendResInterval, interval]
      exact settles_of_eq (fun _ => rfl) (answered.trans silent) (iff_of_true (quiet_refl tracker) (by simp))
    | some blockInterval =>
      refine settles_of_eq (fun _ => rfl) (answered.trans (sendResInterval_known interval lastReceiveAddr env)) ?_
      simp only [Option.some.injEq, forall_eq']
      split_ifs with last
      · exact iff_of_true ⟨rfl, rfl, rfl⟩ last
      · exact iff_of_false (not_quiet_of_sent tracker _ _ _) last

theorem settles_logout (logout : Np2TsLogout) (tracker : TrackerState R) (lastReceiveAddr : NetAddress) (env : Env) :
    Settles tracker (fun passes => NpConnector.getLogout logout tracker lastReceiveAddr { env with passes }) True
      (tracker.npnodeMap.find (.ofUuid logout.uuid) = none) := by
  refine settles_of_eq (fun _ => rfl) rfl
    ⟨fun quiet => ?_, fun absent => ⟨rfl, OrderedMap.erase_of_absent absent, rfl⟩⟩
  have gone := OrderedMap.find_erase_self tracker.npnodeMap (.ofUuid logout.uuid)
  rwa [show tracker.npnodeMap.erase (.ofUuid logout.uuid) = tracker.npnodeMap from quiet.2.1] at gone

theorem fault_of_copies {request : Request} (copies : Copies request) {tracker : TrackerState R}
    {lastReceiveAddr : NetAddress} {env : Env} {reason : Halt}
    (failed : request.act tracker lastReceiveAddr env = .error reason) : reason = .fault := by
  cases request with
  | register register => exact getRegister_eq_error failed
  | status status =>
    unfold Request.act getStatus at failed
    exact updateChannel_eq_error failed
  | resList resList =>
    unfold Request.act getResList at failed
    exact updateChannel_eq_error failed
  | _ => exact copies.elim

theorem copies_end {tracker : TrackerState R} (consistent : Consistent tracker.channelMap) {request : Request}
    (counted : request.Counted) (copies : Copies request) (modest : ¬Overstates tracker request)
    (lastReceiveAddr : NetAddress) (env : Env) :
    ∃ after sent, request.act tracker lastReceiveAddr env = .ok (after, sent) := by
  cases acted : request.act tracker lastReceiveAddr env with
  | ok result => exact ⟨result.1, result.2, rfl⟩
  | error reason =>
    cases fault_of_copies copies acted
    exact absurd ((copy_faults_iff consistent counted copies lastReceiveAddr env).mp acted) modest

theorem settles_register (register : Sp2TsRegister) {tracker : TrackerState R}
    (consistent : Consistent tracker.channelMap) (lastReceiveAddr : NetAddress) (env : Env) :
    Settles tracker (fun passes => getRegister register tracker lastReceiveAddr { env with passes }) True False where
  ends _ := ⟨0, copies_end (show ResourceList.Consistent tracker.channelMap from consistent)
    (show (Request.register register).Counted from trivial) trivial id lastReceiveAddr _⟩
  only acted := by
    obtain ⟨_, _, _, _, _, _, rfl⟩ := getRegister_eq_ok acted
    exact ⟨trivial, iff_of_false (not_quiet_of_sent tracker _ _ _) id⟩

theorem quiet_updateChannel {tracker after : TrackerState R} (consistent : Consistent tracker.channelMap)
    {uuid : MapStr} {change : ChannelNode → ChannelNode} {lastReceiveAddr : NetAddress} {env : Env}
    {sent : List Sent} (updated : updateChannel uuid change tracker lastReceiveAddr env = .ok (after, sent)) :
    Quiet tracker after sent ↔ ∀ entry, tracker.channelMap.find uuid = some entry →
      (change { entry.2 with lastRecvReportTime := env.now }).assign env.now = .ok entry.2 := by
  obtain ⟨rfl, ⟨unknown, rfl⟩ | ⟨entry, pNode, node, known, copied, changed, rfl⟩⟩ := updateChannel_eq_ok updated
  · exact iff_of_true (quiet_refl after) fun _ known => nomatch unknown.symm.trans known
  · cases ((consistent.find known).assign env.now).symm.trans copied
    simp only [known, Option.some.injEq, forall_eq', changed, Except.ok.injEq]
    rw [← OrderedMap.adjust_eq_self_iff known]
    exact ⟨fun quiet => quiet.2.2, fun same => ⟨rfl, rfl, same⟩⟩

theorem settles_status (status : Sp2TsStatus) {tracker : TrackerState R} (consistent : Consistent tracker.channelMap)
    (lastReceiveAddr : NetAddress) (env : Env) :
    Settles tracker (fun passes => getStatus status tracker lastReceiveAddr { env with passes })
      (Contained tracker env (.status status)) (Idle tracker env (.status status)) := by
  have counted : (Request.status status).Counted := trivial
  have copies : Copies (.status status) := trivial
  have modest : Contained tracker env (.status status) ↔ ¬Overstates tracker (.status status) := by
    simp only [Contained, Overstates, not_exists, not_and, Nat.not_lt]
  refine ⟨fun contained => ⟨0, copies_end consistent counted copies (modest.mp contained) lastReceiveAddr _⟩,
    fun {passes after sent} acted => ?_⟩
  have contained : Contained tracker env (.status status) := by
    refine modest.mpr fun overstates => ?_
    have failed := (copy_faults_iff consistent counted copies lastReceiveAddr { env with passes }).mpr overstates
    cases failed.symm.trans acted
  refine ⟨contained, ?_⟩
  unfold getStatus at acted
  rw [quiet_updateChannel consistent acted]
  refine forall₂_congr fun entry known => ?_
  have fits := contained entry known
  have whole := consistent.find known
  obtain ⟨key, node⟩ := entry
  cases node
  simp only [ChannelNode.Consistent] at whole fits
  simp only [ChannelNode.assign_eq_ok, ChannelNode.mk.injEq, whole, fits, true_and]
  constructor
  · rintro ⟨rfl, rfl, rfl, rfl, rfl, _⟩
    exact ⟨rfl, rfl, rfl, rfl, rfl⟩
  · rintro ⟨rfl, rfl, rfl, rfl, rfl⟩
    exact ⟨rfl, rfl, rfl, rfl, rfl, (List.take_of_length_le (Nat.le_of_eq whole)).symm⟩

theorem settles_resList (resList : Sp2TsResList) (counted : (Request.resList resList).Counted)
    {tracker : TrackerState R} (consistent : Consistent tracker.channelMap) (lastReceiveAddr : NetAddress)
    (env : Env) :
    Settles tracker (fun passes => getResList resList tracker lastReceiveAddr { env with passes }) True
      (Idle tracker env (.resList resList)) where
  ends _ := ⟨0, copies_end consistent counted trivial id lastReceiveAddr _⟩
  only {passes after sent} acted := by
    refine ⟨trivial, ?_⟩
    unfold getResList at acted
    rw [quiet_updateChannel consistent acted]
    refine forall₂_congr fun entry known => ?_
    have length : (resList.resInfo.map resourceHash).length = resList.resourceCount.toNat := by
      rw [List.length_map]
      exact counted
    have whole := List.take_of_length_le (Nat.le_of_eq length)
    obtain ⟨key, node⟩ := entry
    cases node
    simp only [ChannelNode.assign_eq_ok, ChannelNode.mk.injEq, length, whole, le_refl, true_and]

theorem getCpAddressExcept_ne_none {channelMap : ChannelMap} {uuid : MapStr} :
    channelMap.getCpAddressExcept uuid ≠ none ↔ (channelMap.find uuid).isSome ∨ channelMap.size ≤ 1 := by
  cases registered : channelMap.find uuid with
  | none => simp [getCpAddressExcept_unknown registered]
  | some own => simp [show channelMap.getCpAddressExcept uuid = _ from listsOthers_registered registered]

theorem getCpAddressExcept_eq_nil {channelMap : ChannelMap} {uuid : MapStr} :
    channelMap.getCpAddressExcept uuid = some [] ↔ channelMap.size ≤ 1 ∨ SpLists.others channelMap uuid = [] := by
  have size : channelMap.size = channelMap.entries.length := rfl
  unfold SpLists.others
  cases registered : channelMap.find uuid with
  | none =>
    have few : channelMap.entries = [] → channelMap.size ≤ 1 := fun nobody => by simp [size, nobody]
    rw [getCpAddressExcept_unknown registered, filter_elsewhere_unknown registered, List.map_eq_nil_iff]
    simpa using few
  | some own =>
    have nobody : channelMap.size ≤ 1 → channelMap.entries.filter (elsewhere channelMap uuid) = [] := fun few =>
      List.length_eq_zero_iff.mp (Nat.lt_one_iff.mp (Nat.lt_of_lt_of_le (elsewhere_fewer registered) few))
    rw [show channelMap.getCpAddressExcept uuid = _ from listsOthers_registered registered, Option.some.injEq,
      List.map_eq_nil_iff]
    exact ⟨Or.inr, fun idle => idle.elim nobody id⟩

theorem settles_getSp (spList : Sp2TsSpList) (tracker : TrackerState R) (lastReceiveAddr : NetAddress) (env : Env) :
    Settles tracker (fun passes => getSpList spList tracker lastReceiveAddr { env with passes })
      (Contained tracker env (.getSp spList)) (Idle tracker env (.getSp spList)) := by
  have contained : Contained tracker env (.getSp spList) ↔ _ := getCpAddressExcept_ne_none.symm
  have idle : Idle tracker env (.getSp spList) ↔ _ := getCpAddressExcept_eq_nil.symm
  have same : ∀ passes, getSpList spList tracker lastReceiveAddr { env with passes } =
      getSpList spList tracker lastReceiveAddr env := fun _ => rfl
  rw [contained, idle]
  rcases getSpList_cases spList tracker lastReceiveAddr env with ⟨full, failed⟩ | ⟨nobody, ended⟩ | ⟨payload, ended⟩
  · refine ⟨fun listed => absurd full listed, fun {passes _ _} acted => ?_⟩
    cases ((same passes).trans failed).symm.trans acted
  · have settles := settles_of_eq same ended (iff_of_true (quiet_refl tracker) nobody)
    exact ⟨fun _ => settles.ends trivial, fun acted => ⟨by simp [nobody], (settles.only acted).2⟩⟩
  · have somebody : tracker.channelMap.getCpAddressExcept (.ofUuid spList.spUuid) ≠ some [] := by
      intro nobody
      simp [getSpList, sendSpList, nobody] at ended
    have listed : tracker.channelMap.getCpAddressExcept (.ofUuid spList.spUuid) ≠ none := by
      intro full
      simp [getSpList, sendSpList, full] at ended
    have settles := settles_of_eq same ended (iff_of_false (not_quiet_of_sent tracker _ _ _) somebody)
    exact ⟨fun _ => settles.ends trivial, fun acted => ⟨listed, (settles.only acted).2⟩⟩

theorem settles_act {request : Request} (counted : request.Counted) {tracker : TrackerState R}
    (recurs : Recurs R tracker.rng) (consistent : Consistent tracker.channelMap) (lastReceiveAddr : NetAddress)
    (env : Env) :
    Settles tracker (fun passes => request.act tracker lastReceiveAddr { env with passes })
      (Contained tracker env request) (Idle tracker env request) := by
  cases request with
  | login login => exact settles_login login tracker lastReceiveAddr env
  | reqRes reqRes =>
    exact settles_sendPeers (.ofUuid reqRes.uuid) (.ofMd5 reqRes.resourceMd5 (.init env.unsetSize)) 0 recurs
      lastReceiveAddr env
  | report report => exact settles_report report tracker lastReceiveAddr env
  | needPeers needPeers => exact settles_needPeers needPeers recurs lastReceiveAddr env
  | resInterval resInterval => exact settles_resInterval resInterval tracker lastReceiveAddr env
  | logout logout => exact settles_logout logout tracker lastReceiveAddr env
  | register register => exact settles_register register consistent lastReceiveAddr env
  | status status => exact settles_status status consistent lastReceiveAddr env
  | resList resList => exact settles_resList resList counted consistent lastReceiveAddr env
  | getSp spList => exact settles_getSp spList tracker lastReceiveAddr env

def headerOnly : Datagram := ⟨.np, .init, .ofBytes (frame NP2TS_LOGOUT []), 5, ⟨0, fun _ => 0, 0, 0, 0, 255⟩⟩

/-- A status that takes the resources of the channel away. -/
def noResources : Sp2TsStatus := ⟨(uuidOf ⟨1, 2, 3, 4⟩).uuid, 0, 3, 0, 0⟩

def statusOfNone : Datagram := (Request.status noResources).datagram .init ⟨100, fun _ => 0, 0, 0, 0, 255⟩

end RabbitStreamer.Tracker.Endurance
