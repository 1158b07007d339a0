import RabbitStreamer.Core.Interval
import RabbitStreamer.Core.Streamer
import RabbitStreamer.Core.Struct

/-! What the tracker keeps: the text that names a peer and the nodes of both maps. -/

namespace RabbitStreamer.Core.StructDefine
open RabbitStreamer.Lib.Bytes RabbitStreamer.Lib.CString
open RabbitStreamer.Core.Struct RabbitStreamer.Core.Interval RabbitStreamer.Core.Streamer

/-- `map_str`: the text that names a peer, with room for a terminator. -/
structure MapStr where
  str : ByteArr (UUID_LENGTH + 1)
  deriving DecidableEq

namespace MapStr

/-- The uuid of a message, with the terminator set behind it. -/
def ofUuid (uuid : ByteArr UUID_LENGTH) : MapStr := ⟨⟨uuid.data ++ [0], by simp⟩⟩

def uuid (digits : MapStr) : ByteArr UUID_LENGTH := ByteArr.ofList UUID_LENGTH (digits.str.data.take UUID_LENGTH)

def less (first second : MapStr) : Bool := strncasecmp UUID_LENGTH first.str.data second.str.data < 0

def differs (first second : MapStr) : Bool := strncasecmp UUID_LENGTH first.str.data second.str.data ≠ 0

def rank (digits : MapStr) : List Nat := text tolower UUID_LENGTH digits.str.data

theorem less_iff (first second : MapStr) : first.less second ↔ first.rank < second.rank := by
  simp [less, rank, strncasecmp, strncmpBy_neg]

theorem differs_iff (first second : MapStr) : first.differs second ↔ first.rank ≠ second.rank := by
  simp [differs, rank, strncasecmp, strncmpBy_eq_zero]

theorem uuid_data (digits : MapStr) : digits.uuid.data = digits.str.data.take UUID_LENGTH :=
  ByteArr.ofList_of_length _ (by simp)

theorem rank_ofUuid (uuid : ByteArr UUID_LENGTH) : (ofUuid uuid).rank = text tolower UUID_LENGTH uuid.data := by
  apply text_congr
  show (uuid.data ++ [0]).take UUID_LENGTH = uuid.data.take UUID_LENGTH
  rw [List.take_append_of_le_length (Nat.le_of_eq uuid.size.symm)]

theorem rank_ofUuid_uuid (digits : MapStr) : (ofUuid digits.uuid).rank = digits.rank := by
  rw [rank_ofUuid, uuid_data, rank]
  apply text_congr
  rw [List.take_take, Nat.min_self]

end MapStr

structure ChannelNode where
  lastRecvReportTime : Int
  userID : UInt32
  pswd : ByteArr 33
  servicePort : UInt16
  resourceCount : UInt32
  conNum : UInt16
  exceedMaxConn : Bool
  bandwidth : FloatBits
  spAddress : NetAddress
  /-- Whether the pointer is set. -/
  spService : Bool
  pHash : List MD5HashStr
  deriving DecidableEq

namespace ChannelNode

/-- The constructor. Of `pswd` it sets the first byte only; the others are written before they
are read. -/
def init (now : Int) : ChannelNode where
  lastRecvReportTime := now
  userID := 0
  pswd := .fill 33 0
  servicePort := 0
  resourceCount := 0
  conNum := 0
  exceedMaxConn := false
  bandwidth := 0
  spAddress := .zero
  spService := false
  pHash := []

/-- `operator=`: the clock is read and `resourceCount` hashes are copied; an array that has fewer,
or is not there at all, is read past its end. -/
def assign (now : Int) (pNode : ChannelNode) : Except Halt ChannelNode :=
  if pNode.resourceCount.toNat ≤ pNode.pHash.length then
    .ok { pNode with
      lastRecvReportTime := now
      pHash := pNode.pHash.take pNode.resourceCount.toNat }
  else .error .fault

theorem assign_eq_ok {now : Int} {pNode node : ChannelNode} :
    pNode.assign now = .ok node ↔ pNode.resourceCount.toNat ≤ pNode.pHash.length ∧
      node = { pNode with lastRecvReportTime := now, pHash := pNode.pHash.take pNode.resourceCount.toNat } := by
  unfold assign
  split_ifs with inside
  · simp [inside, eq_comm]
  · simp [inside]

theorem assign_eq_error {now : Int} {pNode : ChannelNode} {reason : Halt}
    (failed : pNode.assign now = .error reason) :
    reason = .fault := by
  unfold assign at failed
  split_ifs at failed
  cases failed
  rfl

def Consistent (pNode : ChannelNode) : Prop := pNode.pHash.length = pNode.resourceCount.toNat

theorem assign_consistent {now : Int} {pNode node : ChannelNode} (copied : pNode.assign now = .ok node) :
    node.Consistent := by
  obtain ⟨inside, rfl⟩ := assign_eq_ok.mp copied
  exact List.length_take_of_le inside

theorem Consistent.assign {pNode : ChannelNode} (consistent : pNode.Consistent) (now : Int) :
    pNode.assign now = .ok { pNode with lastRecvReportTime := now } := by
  refine assign_eq_ok.mpr ⟨Nat.le_of_eq consistent.symm, ?_⟩
  rw [List.take_of_length_le (Nat.le_of_eq consistent)]

end ChannelNode

structure NPNode where
  digits : MapStr
  lastRecvReportTime : Int
  fVersion : FloatBits
  port : UInt16
  clientAddress : P2PAddress
  coreInfo : CorePeerInfo
  transInfo : TransferInfo
  playingBlock : UInt32
  currentBufferingTime : UInt16
  bufferedCount : UInt16
  bufferedTime : UInt16
  connectFailCount : UInt16
  incomingConnectionCount : UInt16
  outgoingConnectionCount : UInt16
  avgincomingConnectionElapsedTime : UInt16
  avgoutgoingConnectionElapsedTime : UInt16
  msgPercent : FloatBits
  countInterval : UInt8
  intervalArray : IntervalArray
  channelIDMd5 : MD5HashStr
  deriving DecidableEq

namespace NPNode

/-- The constructor: `memset` over the whole node, then the clock. -/
def init (now : Int) : NPNode where
  digits := ⟨.fill _ 0⟩
  lastRecvReportTime := now
  fVersion := 0
  port := 0
  clientAddress := .zero
  coreInfo := .zero
  transInfo := .zero
  playingBlock := 0
  currentBufferingTime := 0
  bufferedCount := 0
  bufferedTime := 0
  connectFailCount := 0
  incomingConnectionCount := 0
  outgoingConnectionCount := 0
  avgincomingConnectionElapsedTime := 0
  avgoutgoingConnectionElapsedTime := 0
  msgPercent := 0
  countInterval := 0
  intervalArray := .init
  channelIDMd5 := ⟨.fill _ 0, ⟨0, 0⟩⟩

/-- `operator=`: every field of the other node, but for the incoming connection count it takes
the average elapsed time of incoming connections. -/
def assign (node : NPNode) : NPNode :=
  { node with
    incomingConnectionCount := node.avgincomingConnectionElapsedTime
    intervalArray := node.intervalArray.assign }

@[simp] theorem assign_digits (node : NPNode) : node.assign.digits = node.digits := rfl

end NPNode

end RabbitStreamer.Core.StructDefine
