import RabbitStreamer.Core.MediaLayout
import RabbitStreamer.Sp.SourceManager

/-! `RsNpSpProtocol`: what a super peer sends to the normal peers that ask it for blocks. -/

namespace RabbitStreamer.Sp.NpConnector
open RabbitStreamer.Lib.Bytes RabbitStreamer.Lib.Codec RabbitStreamer.Core.Struct RabbitStreamer.Core.Streamer
open RabbitStreamer.Core.Message RabbitStreamer.Core.Message.P2PMESSAGE RabbitStreamer.Core.MessageCodec
open RabbitStreamer.Core.MediaLayout RabbitStreamer.Protocol.BufferQueue RabbitStreamer.Sp.SourceManager

/-- The response that `send_one_block` builds for a slot: the size and the bytes of the slot,
under the id that was asked for. -/
def blockResponse (resourceHash : ByteArr MD5_LEN) (id : UInt32) (buf : MediaBuffer) : Sp2SpResponse where
  resourceMd5 := resourceHash
  blockId := id
  blockSize := ofInt32 buf.blockSize
  blockData := buf.buffer.data

/-- The payload written to the socket, if the block is found. -/
def sendOneBlock (sources : SourceMap) (heap : Heap) (resourceHash : ByteArr MD5_LEN) (id : UInt32) :
    Except Halt (Option (List UInt8)) :=
  let hash : MD5HashStr := .ofMd5 resourceHash (.init 0)
  match sources.dequeueBlock hash (toInt32 id) with
  | none => .error .fault
  | some (_, none) => .ok none
  | some (_, some (_, buf)) => (pack heap (blockResponse resourceHash id buf)).map some

/-- What `send_media_type` finds in memory that nothing has set: the header of a queue that was
given none, the fields of the message, and whether pointers among these can be read. -/
structure Unset where
  header : List UInt8
  fields : Sp2SpMediatype
  readable : Bool

/-- The names are cut to two characters. Where no channel has exactly this hash, what follows the
header is not set. -/
def mediatypeMsg (unset : Unset) (resourceHash : ByteArr MD5_LEN) (header : List UInt8)
    (source : Option SourceStatus) : Sp2SpMediatype :=
  match source with
  | some source => {
      resourceMd5 := resourceHash
      blockStartId := 0
      blockNum := 0xffffffff
      mediaTypeSize := UInt32.ofNat header.length
      mediaType := header
      programNameSize := 2
      programName := source.chnlName ++ [0]
      programTime := 0
      channelNameSize := 2
      channelName := source.chnlName ++ [0] }
  | none => { unset.fields with
      resourceMd5 := resourceHash
      mediaTypeSize := UInt32.ofNat header.length
      mediaType := header }

def sendMediaType (sources : SourceMap) (heap : Heap) (unset : Unset) (resourceHash : ByteArr MD5_LEN) :
    Except Halt (Option (Sp2SpMediatype × List UInt8)) :=
  let (code, header) := sources.getHeader (.ofMd5 resourceHash (.init 0))
  if code ≠ ERROR_SUCCESS then .ok none
  else
    let source := sources.getSourceList.find? fun source =>
      source.chnlHash.hash.data.take MD5_LEN = resourceHash.data
    if (header = none ∨ source = none) ∧ unset.readable = false then .error .fault
    else
      let message := mediatypeMsg unset resourceHash (header.getD unset.header) source
      (pack heap message).map fun payload => some (message, payload)

def sortedBlocks (pushList : Sp2SpPushList) : List UInt32 :=
  if 1 < pushList.blockCount then pushList.blockArray.mergeSort fun first second => first ≤ second
  else pushList.blockArray

/-- The loop of `send_push_list` up to its first write, during which other threads may run: the
payload and the ids that are left. -/
def sendPushList (sources : SourceMap) (heap : Heap) (resourceHash : ByteArr MD5_LEN) :
    List UInt32 → Except Halt (Option (List UInt8) × List UInt32)
  | [] => .ok (none, [])
  | id :: rest =>
      match sendOneBlock sources heap resourceHash id with
      | .error reason => .error reason
      | .ok none => sendPushList sources heap resourceHash rest
      | .ok (some payload) => .ok (some payload, rest)

inductive Sent where
  | mediatype (message : Sp2SpMediatype) (payload : List UInt8)
  | response (resourceMd5 : ByteArr MD5_LEN) (payload : List UInt8)
  deriving DecidableEq

structure RsNpSpProtocol where
  mediaTypeFlag : Bool
  pushing : Option (ByteArr MD5_LEN × List UInt32)
  deriving DecidableEq

def RsNpSpProtocol.init : RsNpSpProtocol := ⟨false, none⟩

def pushOn (proto : RsNpSpProtocol) (sources : SourceMap) (heap : Heap) (resourceHash : ByteArr MD5_LEN)
    (ids : List UInt32) : Except Halt (RsNpSpProtocol × Option Sent) :=
  (sendPushList sources heap resourceHash ids).map fun (payload, rest) =>
    match payload with
    | none => ({ proto with pushing := none }, none)
    | some payload => ({ proto with pushing := some (resourceHash, rest) }, some (.response resourceHash payload))

theorem pushOn_eq_ok {proto after : RsNpSpProtocol} {sources : SourceMap} {heap : Heap}
    {resourceHash : ByteArr MD5_LEN} {ids : List UInt32} {out : Option Sent}
    (pushed : pushOn proto sources heap resourceHash ids = .ok (after, out)) :
    ∃ payload rest, sendPushList sources heap resourceHash ids = .ok (payload, rest) ∧
      (payload = none ∧ after = { proto with pushing := none } ∧ out = none ∨
        ∃ bytes, payload = some bytes ∧ after = { proto with pushing := some (resourceHash, rest) } ∧
          out = some (.response resourceHash bytes)) := by
  unfold pushOn at pushed
  cases looked : sendPushList sources heap resourceHash ids with
  | error reason =>
    rw [looked] at pushed
    cases pushed
  | ok result =>
    obtain ⟨payload, rest⟩ := result
    rw [looked] at pushed
    refine ⟨payload, rest, rfl, ?_⟩
    cases payload with
    | none =>
      cases pushed
      exact Or.inl ⟨rfl, rfl, rfl⟩
    | some bytes =>
      cases pushed
      exact Or.inr ⟨bytes, rfl, rfl, rfl⟩

/-- `get_push_list` up to its first write. The media type is sent once on a connection, with
whichever resource is asked for first. -/
def getPushList (proto : RsNpSpProtocol) (sources : SourceMap) (heap : Heap) (unset : Unset)
    (pushList : Sp2SpPushList) : Except Halt (RsNpSpProtocol × Option Sent) :=
  let resourceHash := pushList.resourceMd5
  if proto.mediaTypeFlag then pushOn proto sources heap resourceHash (sortedBlocks pushList)
  else
    match sendMediaType sources heap unset resourceHash with
    | .error reason => .error reason
    | .ok none => pushOn proto sources heap resourceHash (sortedBlocks pushList)
    | .ok (some (message, payload)) =>
        .ok (⟨true, some (resourceHash, sortedBlocks pushList)⟩, some (.mediatype message payload))

/-- The frame that carries exactly these bytes as the block of an id. -/
def responseFrame (resourceHash : ByteArr MD5_LEN) (id : UInt32) (data : List UInt8) : List UInt8 :=
  le32 (UInt32.ofNat (45 + data.length)) ++ ([SP2SP_RESPONSE] ++ (resourceHash.data ++
    (le32 id ++ (le32 (UInt32.ofNat data.length) ++ data))))

theorem responseFrame_length (resourceHash : ByteArr MD5_LEN) (id : UInt32) (data : List UInt8) :
    (responseFrame resourceHash id data).length = 45 + data.length := by
  simp only [responseFrame, List.length_append, le32_length, List.length_singleton, ByteArr.length_data, MD5_LEN]
  omega

theorem responseFrame_inj {resourceHash : ByteArr MD5_LEN} {id : UInt32} {first second : List UInt8}
    (same : responseFrame resourceHash id first = responseFrame resourceHash id second) : first = second := by
  have lengths := congrArg List.length same
  rw [responseFrame_length, responseFrame_length] at lengths
  have size : first.length = second.length := by omega
  simp only [responseFrame, size] at same
  exact List.append_cancel_left (List.append_cancel_left (List.append_cancel_left (List.append_cancel_left
    (List.append_cancel_left same))))

theorem pack_response (heap : Heap) (msg : Sp2SpResponse) (sized : msg.blockSize ≠ 0)
    (counted : msg.blockData.length = msg.blockSize.toNat) (few : msg.blockData.length < 2147483000) :
    pack heap msg = .ok (responseFrame msg.resourceMd5 msg.blockId msg.blockData) := by
  have data : UInt32.ofNat msg.blockData.length = msg.blockSize := by rw [counted, UInt32.ofNat_toNat]
  have size : RsMessage.reservePackSize msg =
      (responseFrame msg.resourceMd5 msg.blockId msg.blockData).length := by
    rw [responseFrame_length]
    simp only [RsMessage.reservePackSize, basePackSize, MD5_LEN, counted]
  have block := writes_buffer msg.blockData
  rw [counted] at block
  have writes : Writes (do writeInt (UInt32.ofNat (45 + msg.blockData.length)); RsMessage.packSubmsg msg)
      (responseFrame msg.resourceMd5 msg.blockId msg.blockData) := by
    refine (writes_int _).bind ((writes_char _).bind ((writes_nbytes _).bind ((writes_int _).bind ?_)))
    rw [data]
    refine (writes_int _).bind ?_
    rw [if_pos sized]
    exact block
  rw [← responseFrame_length msg.resourceMd5 msg.blockId] at writes
  exact pack_of_full (packSink_full heap writes size (by rw [size, responseFrame_length]; omega))

theorem pack_blockResponse (heap : Heap) (resourceHash : ByteArr MD5_LEN) (id : UInt32) {buf : MediaBuffer}
    (size : buf.blockSize = MEDIA_BLOCK_SIZE) :
    pack heap (blockResponse resourceHash id buf) = .ok (responseFrame resourceHash id buf.buffer.data) := by
  have word : (blockResponse resourceHash id buf).blockSize = UInt32.ofNat MEDIA_BLOCK_SIZE := by
    rw [← ofInt32_natCast, ← size]
    rfl
  have length : (blockResponse resourceHash id buf).blockData.length = MEDIA_BLOCK_SIZE := buf.buffer.size
  refine pack_response heap (blockResponse resourceHash id buf) ?_ ?_ ?_
  · rw [word]
    decide
  · rw [word, length]
    decide
  · rw [length]
    decide

end RabbitStreamer.Sp.NpConnector
