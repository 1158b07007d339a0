import RabbitStreamer.Tracker.NpManager

/-! What is read back for a peer against what was stored. -/

namespace RabbitStreamer.Tracker.NodeStore
open RabbitStreamer.Core.Interval RabbitStreamer.Core.StructDefine RabbitStreamer.Tracker.NpManager

/-- The nodes are equal field by field, the intervals by their own `operator==`. -/
structure Agrees (first second : NPNode) : Prop where
  digits : first.digits = second.digits
  lastRecvReportTime : first.lastRecvReportTime = second.lastRecvReportTime
  fVersion : first.fVersion = second.fVersion
  port : first.port = second.port
  clientAddress : first.clientAddress = second.clientAddress
  coreInfo : first.coreInfo = second.coreInfo
  transInfo : first.transInfo = second.transInfo
  playingBlock : first.playingBlock = second.playingBlock
  currentBufferingTime : first.currentBufferingTime = second.currentBufferingTime
  bufferedCount : first.bufferedCount = second.bufferedCount
  bufferedTime : first.bufferedTime = second.bufferedTime
  connectFailCount : first.connectFailCount = second.connectFailCount
  incomingConnectionCount : first.incomingConnectionCount = second.incomingConnectionCount
  outgoingConnectionCount : first.outgoingConnectionCount = second.outgoingConnectionCount
  avgincomingConnectionElapsedTime :
    first.avgincomingConnectionElapsedTime = second.avgincomingConnectionElapsedTime
  avgoutgoingConnectionElapsedTime :
    first.avgoutgoingConnectionElapsedTime = second.avgoutgoingConnectionElapsedTime
  msgPercent : first.msgPercent = second.msgPercent
  countInterval : first.countInterval = second.countInterval
  intervalArray : first.intervalArray.same second.intervalArray = true
  channelIDMd5 : first.channelIDMd5 = second.channelIDMd5

def ReadsBack (npnodeMap : NpnodeMap) (digits : MapStr) (node : NPNode) : Prop :=
  ∃ read, (npnodeMap.insertNode digits node).getNode digits = some read ∧ Agrees read node

theorem agrees_assign_iff (node : NPNode) :
    Agrees node.assign.assign node ↔ node.incomingConnectionCount = node.avgincomingConnectionElapsedTime := by
  constructor
  · exact fun agrees => agrees.incomingConnectionCount.symm
  · intro equal
    constructor
    case incomingConnectionCount => exact equal.symm
    case intervalArray => simp [NPNode.assign, IntervalArray.assign, IntervalArray.same, IntervalArray.image]
    all_goals rfl

/-- A node is read back as it was stored if and only if its number of incoming connections is the
average time that they take. -/
theorem reads_back_iff (npnodeMap : NpnodeMap) (digits : MapStr) (node : NPNode) :
    ReadsBack npnodeMap digits node ↔ node.incomingConnectionCount = node.avgincomingConnectionElapsedTime := by
  rw [← agrees_assign_iff, ReadsBack, getNode_insertNode]
  simp

/-- One incoming connection that took no time. -/
theorem count_lost :
    ¬∀ npnodeMap digits node, node.intervalArray.verify = true → ReadsBack npnodeMap digits node := by
  intro reads
  obtain ⟨read, fetched, agrees⟩ :=
    reads .empty (.ofUuid (.fill _ 97)) { NPNode.init 100 with incomingConnectionCount := 1 } rfl
  cases (getNode_insertNode ..).symm.trans fetched
  exact absurd agrees.incomingConnectionCount (by decide)

end RabbitStreamer.Tracker.NodeStore
