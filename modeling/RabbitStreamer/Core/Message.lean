import RabbitStreamer.Core.Streamer
import RabbitStreamer.Core.Struct

/-! The messages of the protocol: their fields, and for each the three functions the
code writes by hand (its size, the order it is written in and the order it is read in). -/

namespace RabbitStreamer.Core.Message
open RabbitStreamer.Lib.Bytes RabbitStreamer.Lib.Codec
open RabbitStreamer.Core.Streamer RabbitStreamer.Core.Struct

namespace P2PMESSAGE

abbrev CS2SP_REGISTER : UInt8 := 0x10
abbrev CS2SP_BLOCK : UInt8 := 0x12
abbrev CS2SP_MEDIA_TYPE : UInt8 := 0x13
abbrev SP2TS_REGISTER : UInt8 := 0x20
abbrev SP2TS_STATUS : UInt8 := 0x21
abbrev SP2TS_RES_LIST : UInt8 := 0x22
abbrev SP2TS_GET_SP : UInt8 := 0x23
abbrev TS2SP_WELCOME : UInt8 := 0x25
abbrev TS2SP_SP_LIST : UInt8 := 0x27
abbrev TS2SP_GET_RES_LIST : UInt8 := 0x28
abbrev NP2TS_LOGIN : UInt8 := 0x30
abbrev NP2TS_REQ_RES : UInt8 := 0x31
abbrev NP2TS_REPORT : UInt8 := 0x32
abbrev NP2TS_NEED_PEERS : UInt8 := 0x33
abbrev NP2TS_RES_INTERVAL : UInt8 := 0x34
abbrev NP2TS_LOGOUT : UInt8 := 0x35
abbrev TS2NP_WELCOME : UInt8 := 0x36
abbrev TS2NP_PEERS : UInt8 := 0x37
abbrev TS2NP_RES_INTERVAL : UInt8 := 0x38
abbrev TS2NP_MSG : UInt8 := 0x39
abbrev SP2SP_PUSHLIST : UInt8 := 0x50
abbrev SP2SP_RESPONSE : UInt8 := 0x51
abbrev SP2SP_MEDIATYPE : UInt8 := 0x52

end P2PMESSAGE

open P2PMESSAGE

/-- The virtual functions that `pack` calls. -/
class RsMessage (M : Type) where
  packSubmsg : M → RsWriter Unit
  reservePackSize : M → Nat

/-- A message whose `parse` overrides that of the base class, which reads nothing. -/
class RsParsed (M : Type) where
  parse : RsReader M

/-- `RsMessage::reserve_pack_size`: the size word and the type byte. -/
def basePackSize : Nat := 4 + 1

/-- The streamer after `pack`: the buffer is `new char[size]`, so it holds what the heap held. -/
def packSink {M : Type} [RsMessage M] (heap : Heap) (message : M) : Except Halt (Sink UInt8) :=
  let size := wrap32 (RsMessage.reservePackSize message)
  fill (do writeInt (ofInt32 size); RsMessage.packSubmsg message) ⟨[], size, heap⟩

/-- The payload that `pack` hands to the socket: the whole buffer. -/
def pack {M : Type} [RsMessage M] (heap : Heap) (message : M) : Except Halt (List UInt8) :=
  (packSink heap message).map Sink.contents

def readNetAddress : RsReader NetAddress := getAsType 8 NetAddress.ofBytes
def readP2PAddress : RsReader P2PAddress := getAsType 16 P2PAddress.ofBytes
def readBlockInterval : RsReader BlockInterval := getAsType 8 BlockInterval.ofBytes
def readCorePeerInfo : RsReader CorePeerInfo := getAsType 4 CorePeerInfo.ofBytes
def readTransferInfo : RsReader TransferInfo := getAsType 32 TransferInfo.ofBytes
def readPeerInfoWithAddr : RsReader PeerInfoWithAddr := getAsType 20 PeerInfoWithAddr.ofBytes

def readFloat : RsReader FloatBits := getAsType 4 ofLe32

structure Sp2TsRegister where
  userId : UInt32
  password : ByteArr MD5_LEN
  servicePort : UInt16
  deriving DecidableEq

instance : RsParsed Sp2TsRegister where
  parse := do
    let userId ← readInt
    let password ← readNbytes MD5_LEN
    let servicePort ← readShort
    pure { userId, password, servicePort }

instance : RsMessage Sp2TsRegister where
  packSubmsg msg := do
    writeChar SP2TS_REGISTER
    writeInt msg.userId
    writeNbytes msg.password.data
    writeShort msg.servicePort
  reservePackSize _ := basePackSize + (4 + MD5_LEN + 2)

structure Ts2SpWelcome where
  spUuid : ByteArr UUID_LENGTH
  deriving DecidableEq

instance : RsParsed Ts2SpWelcome where
  parse := do
    let spUuid ← readNbytes UUID_LENGTH
    pure { spUuid }

instance : RsMessage Ts2SpWelcome where
  packSubmsg msg := do
    writeChar TS2SP_WELCOME
    writeNbytes msg.spUuid.data
  reservePackSize _ := basePackSize + UUID_LENGTH

structure Ts2SpSpList where
  count : UInt8
  addr : List NetAddress
  deriving DecidableEq

instance : RsParsed Ts2SpSpList where
  parse := do
    let count ← readChar
    if count = 0 then pure { count, addr := [] }
    else
      let addr ← times readNetAddress count.toNat
      pure { count, addr }

instance : RsMessage Ts2SpSpList where
  packSubmsg msg := do
    writeChar TS2SP_SP_LIST
    writeChar msg.count
    writeArray 8 (fun address => writeNbytes address.toBytes) msg.count.toNat msg.addr
  reservePackSize msg := basePackSize + 1 + msg.count.toNat * 8

/-- The request for the super peer list, tag `SP2TS_GET_SP`. -/
structure Sp2TsSpList where
  spUuid : ByteArr UUID_LENGTH
  deriving DecidableEq

instance : RsParsed Sp2TsSpList where
  parse := do
    let spUuid ← readNbytes UUID_LENGTH
    pure { spUuid }

instance : RsMessage Sp2TsSpList where
  packSubmsg msg := do
    writeChar SP2TS_GET_SP
    writeNbytes msg.spUuid.data
  reservePackSize _ := basePackSize + UUID_LENGTH

structure Sp2TsLogout where
  spUuid : ByteArr UUID_LENGTH
  deriving DecidableEq

instance : RsParsed Sp2TsLogout where
  parse := do
    let spUuid ← readNbytes UUID_LENGTH
    pure { spUuid }

instance : RsMessage Sp2TsLogout where
  packSubmsg msg := do
    writeChar SP2TS_GET_SP
    writeNbytes msg.spUuid.data
  reservePackSize _ := basePackSize + UUID_LENGTH

structure ResourceInfo where
  resMd5 : ByteArr MD5_LEN
  blockInterval : BlockInterval
  deriving DecidableEq

def ResourceInfo.toBytes (info : ResourceInfo) : List UInt8 := info.resMd5.data ++ info.blockInterval.toBytes

def readResourceInfo : RsReader ResourceInfo := do
  let resMd5 ← readNbytes MD5_LEN
  let start ← readInt
  let size ← readInt
  pure { resMd5, blockInterval := ⟨start, size⟩ }

def writeResourceInfo (info : ResourceInfo) : RsWriter Unit := do
  writeNbytes info.resMd5.data
  writeInt info.blockInterval.start
  writeInt info.blockInterval.size

structure Sp2TsResList where
  spUuid : ByteArr UUID_LENGTH
  resourceCount : UInt32
  resInfo : List ResourceInfo
  deriving DecidableEq

instance : RsParsed Sp2TsResList where
  parse := do
    let spUuid ← readNbytes UUID_LENGTH
    let resourceCount ← readInt
    let resInfo ← times readResourceInfo resourceCount.toNat
    pure { spUuid, resourceCount, resInfo }

instance : RsMessage Sp2TsResList where
  packSubmsg msg := do
    writeChar SP2TS_RES_LIST
    writeNbytes msg.spUuid.data
    writeInt msg.resourceCount
    writeArray 40 writeResourceInfo msg.resourceCount.toNat msg.resInfo
  reservePackSize msg := basePackSize + UUID_LENGTH + 4 + msg.resourceCount.toNat * 40

structure Sp2TsStatus where
  spUuid : ByteArr UUID_LENGTH
  resourceCount : UInt32
  connectionNum : UInt16
  bandwidth : FloatBits
  exceedMaxConnection : UInt8
  deriving DecidableEq

instance : RsParsed Sp2TsStatus where
  parse := do
    let spUuid ← readNbytes UUID_LENGTH
    let resourceCount ← readInt
    let connectionNum ← readShort
    let bandwidth ← readFloat
    let exceedMaxConnection ← readChar
    pure { spUuid, resourceCount, connectionNum, bandwidth, exceedMaxConnection }

instance : RsMessage Sp2TsStatus where
  packSubmsg msg := do
    writeChar SP2TS_STATUS
    writeNbytes msg.spUuid.data
    writeInt msg.resourceCount
    writeShort msg.connectionNum
    writeNbytes (le32 msg.bandwidth)
    writeChar msg.exceedMaxConnection
  reservePackSize _ := basePackSize + UUID_LENGTH + 4 + 2 + 4 + 1

structure Np2TsLogin where
  loginId : UInt32
  password : ByteArr MD5_LEN
  clientVersion : FloatBits
  listeningPort : UInt16
  localIpListSize : UInt8
  ipAddr : List UInt32
  deriving DecidableEq

instance : RsParsed Np2TsLogin where
  parse := do
    let loginId ← readInt
    let password ← readNbytes MD5_LEN
    let clientVersion ← readFloat
    let listeningPort ← readShort
    let localIpListSize ← readChar
    let ipAddr ← times (getAsType 4 ofLe32) localIpListSize.toNat
    pure { loginId, password, clientVersion, listeningPort, localIpListSize, ipAddr }

instance : RsMessage Np2TsLogin where
  packSubmsg msg := do
    writeChar NP2TS_LOGIN
    writeInt msg.loginId
    writeNbytes msg.password.data
    writeNbytes (le32 msg.clientVersion)
    writeShort msg.listeningPort
    writeChar msg.localIpListSize
    writeArray 4 (fun ip => writeNbytes (le32 ip)) msg.localIpListSize.toNat msg.ipAddr
  reservePackSize msg := basePackSize + 4 + MD5_LEN + 4 + 2 + 1 + msg.localIpListSize.toNat * 4

structure Np2TsReqRes where
  uuid : ByteArr UUID_LENGTH
  resourceMd5 : ByteArr MD5_LEN
  deriving DecidableEq

instance : RsParsed Np2TsReqRes where
  parse := do
    let uuid ← readNbytes UUID_LENGTH
    let resourceMd5 ← readNbytes MD5_LEN
    pure { uuid, resourceMd5 }

instance : RsMessage Np2TsReqRes where
  packSubmsg msg := do
    writeChar NP2TS_REQ_RES
    writeNbytes msg.uuid.data
    writeNbytes msg.resourceMd5.data
  reservePackSize _ := basePackSize + UUID_LENGTH + MD5_LEN

structure Np2TsReport where
  uuid : ByteArr UUID_LENGTH
  coreinfo : CorePeerInfo
  intervalCount : UInt8
  blockinterval : List BlockInterval
  transferinfo : TransferInfo
  playingBlock : UInt32
  currentBufferingTime : UInt16
  bufferedCount : UInt16
  bufferedTime : UInt16
  connectFailCount : UInt16
  incomingConnectionCount : UInt16
  outgoingConnectionCount : UInt16
  avgIncomingConnectionElapsedTime : UInt16
  avgOutgoingConnectionElapsedTime : UInt16
  messagePercent : FloatBits
  deriving DecidableEq

/-- The constructor leaves `blockinterval` unset and `parse` stores through it. The model
keeps what is stored, as if the stray pointer led to memory that nothing else uses. -/
instance : RsParsed Np2TsReport where
  parse := do
    let uuid ← readNbytes UUID_LENGTH
    let coreinfo ← readCorePeerInfo
    let intervalCount ← readChar
    let blockinterval ← times readBlockInterval intervalCount.toNat
    let transferinfo ← readTransferInfo
    let playingBlock ← readInt
    let currentBufferingTime ← readShort
    let bufferedCount ← readShort
    let bufferedTime ← readShort
    let connectFailCount ← readShort
    let incomingConnectionCount ← readShort
    let outgoingConnectionCount ← readShort
    let avgIncomingConnectionElapsedTime ← readShort
    let avgOutgoingConnectionElapsedTime ← readShort
    let messagePercent ← readFloat
    pure { uuid, coreinfo, intervalCount, blockinterval, transferinfo, playingBlock, currentBufferingTime,
           bufferedCount, bufferedTime, connectFailCount, incomingConnectionCount, outgoingConnectionCount,
           avgIncomingConnectionElapsedTime, avgOutgoingConnectionElapsedTime, messagePercent }

instance : RsMessage Np2TsReport where
  packSubmsg msg := do
    writeChar NP2TS_REPORT
    writeNbytes msg.uuid.data
    writeNbytes msg.coreinfo.toBytes
    writeChar msg.intervalCount
    writeArray 8 (fun interval => writeNbytes interval.toBytes) msg.intervalCount.toNat msg.blockinterval
    writeNbytes msg.transferinfo.toBytes
    writeInt msg.playingBlock
    writeShort msg.currentBufferingTime
    writeShort msg.bufferedCount
    writeShort msg.bufferedTime
    writeShort msg.connectFailCount
    writeShort msg.incomingConnectionCount
    writeShort msg.outgoingConnectionCount
    writeShort msg.avgIncomingConnectionElapsedTime
    writeShort msg.avgOutgoingConnectionElapsedTime
  -- neither `coreinfo` nor `message_percent` is counted
  reservePackSize msg := basePackSize + UUID_LENGTH + 1 + msg.intervalCount.toNat * 8 + 32 + 4 + 8 * 2

structure Np2TsNeedPeers where
  uuid : ByteArr UUID_LENGTH
  currentBlock : UInt32
  deriving DecidableEq

instance : RsParsed Np2TsNeedPeers where
  parse := do
    let uuid ← readNbytes UUID_LENGTH
    let currentBlock ← readInt
    pure { uuid, currentBlock }

instance : RsMessage Np2TsNeedPeers where
  packSubmsg msg := do
    writeChar NP2TS_NEED_PEERS
    writeNbytes msg.uuid.data
    writeInt msg.currentBlock
  reservePackSize _ := basePackSize + UUID_LENGTH + 4

structure Np2TsReqInterval where
  uuid : ByteArr UUID_LENGTH
  deriving DecidableEq

instance : RsParsed Np2TsReqInterval where
  parse := do
    let uuid ← readNbytes UUID_LENGTH
    pure { uuid }

instance : RsMessage Np2TsReqInterval where
  packSubmsg msg := do
    writeChar NP2TS_RES_INTERVAL
    writeNbytes msg.uuid.data
  reservePackSize _ := basePackSize + UUID_LENGTH

structure Np2TsLogout where
  uuid : ByteArr UUID_LENGTH
  deriving DecidableEq

instance : RsParsed Np2TsLogout where
  parse := do
    let uuid ← readNbytes UUID_LENGTH
    pure { uuid }

instance : RsMessage Np2TsLogout where
  packSubmsg msg := do
    writeChar NP2TS_LOGOUT
    writeNbytes msg.uuid.data
  reservePackSize _ := basePackSize + UUID_LENGTH

structure Ts2NpWelcome where
  uuid : ByteArr UUID_LENGTH
  peerIp : P2PAddress
  deriving DecidableEq

instance : RsParsed Ts2NpWelcome where
  parse := do
    let uuid ← readNbytes UUID_LENGTH
    let peerIp ← readP2PAddress
    pure { uuid, peerIp }

instance : RsMessage Ts2NpWelcome where
  packSubmsg msg := do
    writeChar TS2NP_WELCOME
    writeNbytes msg.uuid.data
    writeNbytes msg.peerIp.toBytes
  reservePackSize _ := basePackSize + UUID_LENGTH + 16

structure Ts2NpPeers where
  spListSize : UInt8
  spAddr : List NetAddress
  peerListSize : UInt8
  peerAddr : List PeerInfoWithAddr
  npAddr : NetAddress
  deriving DecidableEq

instance : RsParsed Ts2NpPeers where
  parse := do
    let spListSize ← readChar
    let spAddr ← times readNetAddress spListSize.toNat
    let peerListSize ← readChar
    let peerAddr ← times readPeerInfoWithAddr peerListSize.toNat
    let npAddr ← readNetAddress
    pure { spListSize, spAddr, peerListSize, peerAddr, npAddr }

instance : RsMessage Ts2NpPeers where
  packSubmsg msg := do
    writeChar TS2NP_PEERS
    writeChar msg.spListSize
    writeArray 8 (fun address => writeNbytes address.toBytes) msg.spListSize.toNat msg.spAddr
    writeChar msg.peerListSize
    -- the second loop too counts to `sp_list_size`
    writeArray 20 (fun peer => writeNbytes peer.toBytes) msg.spListSize.toNat msg.peerAddr
    writeNbytes msg.npAddr.toBytes
  -- `sizeof(sizeof(NetAddress))` is the 8 bytes of a `size_t`
  reservePackSize msg :=
    basePackSize + 1 + msg.spListSize.toNat * 8 + 1 + msg.peerListSize.toNat * 20 + 8

structure Ts2NpResInterval where
  blockInterval : BlockInterval
  deriving DecidableEq

instance : RsParsed Ts2NpResInterval where
  parse := do
    let blockInterval ← readBlockInterval
    pure { blockInterval }

instance : RsMessage Ts2NpResInterval where
  packSubmsg msg := do
    writeChar TS2NP_RES_INTERVAL
    writeNbytes msg.blockInterval.toBytes
  reservePackSize _ := basePackSize + 8

structure Ts2NpMsg where
  errMsgType : UInt16
  shouldQuit : Bool
  deriving DecidableEq

def boolByte (flag : Bool) : UInt8 := if flag then 1 else 0

structure Ts2NpMsg.Unset where
  errMsgType : UInt16
  shouldQuit : UInt8
  deriving DecidableEq

instance : RsParsed Ts2NpMsg where
  parse := do
    let errMsgType ← readShort
    let shouldQuit ← readChar
    pure { errMsgType, shouldQuit := shouldQuit ≠ 0 }

instance : RsMessage Ts2NpMsg where
  packSubmsg msg := do
    writeChar TS2NP_MSG
    writeShort msg.errMsgType
    writeChar (boolByte msg.shouldQuit)
  reservePackSize _ := basePackSize + 2 + 1

instance : RsMessage Ts2NpMsg.Unset where
  packSubmsg msg := do
    writeChar TS2NP_MSG
    writeShort msg.errMsgType
    writeChar msg.shouldQuit
  reservePackSize _ := basePackSize + 2 + 1

structure Sp2SpPushList where
  resourceMd5 : ByteArr MD5_LEN
  sourceSpAddr : NetAddress
  blockCount : UInt8
  blockArray : List UInt32
  deriving DecidableEq

instance : RsParsed Sp2SpPushList where
  parse := do
    let resourceMd5 ← readNbytes MD5_LEN
    let sourceSpAddr ← readNetAddress
    let blockCount ← readChar
    let blockArray ← times readInt blockCount.toNat
    pure { resourceMd5, sourceSpAddr, blockCount, blockArray }

structure Sp2SpResponse where
  resourceMd5 : ByteArr MD5_LEN
  blockId : UInt32
  blockSize : UInt32
  blockData : List UInt8
  deriving DecidableEq

/-- A buffer read past its end yields whatever lies there. -/
def writeBuffer (count : Nat) (bytes : List UInt8) : RsWriter Unit :=
  writeArray 1 (fun byte => writeNbytes [byte]) count bytes

instance : RsMessage Sp2SpResponse where
  packSubmsg msg := do
    writeChar SP2SP_RESPONSE
    writeNbytes msg.resourceMd5.data
    writeInt msg.blockId
    writeInt msg.blockSize
    if msg.blockSize ≠ 0 then writeBuffer msg.blockSize.toNat msg.blockData else pure ()
  reservePackSize msg := basePackSize + MD5_LEN + 4 + 4 + msg.blockSize.toNat

structure Sp2SpMediatype where
  resourceMd5 : ByteArr MD5_LEN
  blockStartId : UInt32
  blockNum : UInt32
  mediaTypeSize : UInt32
  mediaType : List UInt8
  programNameSize : UInt8
  programName : List UInt8
  programTime : UInt32
  channelNameSize : UInt8
  channelName : List UInt8
  deriving DecidableEq

def writeSized (count : Nat) (bytes : List UInt8) : RsWriter Unit :=
  if count ≠ 0 then writeBuffer count bytes else pure ()

instance : RsMessage Sp2SpMediatype where
  packSubmsg msg := do
    writeChar SP2SP_MEDIATYPE
    writeNbytes msg.resourceMd5.data
    writeInt msg.blockStartId
    writeInt msg.blockNum
    writeInt msg.mediaTypeSize
    writeSized msg.mediaTypeSize.toNat msg.mediaType
    writeChar msg.programNameSize
    writeSized msg.programNameSize.toNat msg.programName
    writeInt msg.programTime
    writeChar msg.channelNameSize
    writeSized msg.channelNameSize.toNat msg.channelName
  reservePackSize msg :=
    basePackSize + MD5_LEN + 4 + 4 + 4 + msg.mediaTypeSize.toNat + 1 + msg.programNameSize.toNat + 4 + 1 +
      msg.channelNameSize.toNat

end RabbitStreamer.Core.Message
