import RabbitStreamer.Core.Message
import RabbitStreamer.Lib.Memory

/-! For each message class the hand-written size, write order and read order agree, and
from that agreement `pack` and `parse` are inverse to each other. -/

namespace RabbitStreamer.Core.MessageCodec
open RabbitStreamer.Lib RabbitStreamer.Lib.Bytes RabbitStreamer.Lib.Codec RabbitStreamer.Lib.Memory
open RabbitStreamer.Core.Streamer RabbitStreamer.Core.Struct RabbitStreamer.Core.Message
open RabbitStreamer.Core.Message.P2PMESSAGE

variable {M : Type} [RsMessage M]

theorem packSink_full {message : M} {bytes : List UInt8} (heap : Heap)
    (writes : Writes (do writeInt (UInt32.ofNat bytes.length); RsMessage.packSubmsg message) bytes)
    (size : RsMessage.reservePackSize message = bytes.length)
    (small : RsMessage.reservePackSize message < 2147483648) :
    packSink heap message = .ok ⟨bytes, bytes.length, heap⟩ := by
  have fits : wrap32 bytes.length = bytes.length :=
    wrap32_of_isInt32 (by unfold IsInt32; omega)
  simp only [packSink, size, fits, ofInt32_natCast]
  exact writes.fill _ _ (le_refl _)

theorem pack_of_full {heap : Heap} {message : M} {bytes : List UInt8}
    (packed : packSink heap message = .ok ⟨bytes, bytes.length, heap⟩) : pack heap message = .ok bytes := by
  have full := Sink.contents_of_full (⟨bytes, bytes.length, heap⟩ : Sink UInt8) rfl
  rw [pack, packed]
  exact congrArg Except.ok full

theorem pack_of_appends {message : M} (heap : Heap) (appends : Appends (RsMessage.packSubmsg message))
    (room : 4 ≤ RsMessage.reservePackSize message) (small : RsMessage.reservePackSize message < 2147483648) :
    ∃ payload, pack heap message = .ok payload := by
  have size : wrap32 (RsMessage.reservePackSize message) = RsMessage.reservePackSize message :=
    wrap32_of_isInt32 (by unfold IsInt32; omega)
  obtain ⟨more, filled⟩ := appends.fill (Writes.emitChecked Halt.assertion (le32 (ofInt32
    (RsMessage.reservePackSize message)))) (RsMessage.reservePackSize message) heap (by rw [le32_length]; omega)
  simp only [pack, packSink, size]
  exact ⟨_, congrArg (Except.map Sink.contents) filled⟩

theorem pack_peers (heap : Heap) (msg : Ts2NpPeers) : ∃ payload, pack heap msg = .ok payload := by
  have sps : msg.spListSize.toNat < 256 := msg.spListSize.toNat_lt
  have peers : msg.peerListSize.toNat < 256 := msg.peerListSize.toNat_lt
  refine pack_of_appends heap ?_ ?_ ?_
  · exact (appends_char _).bind ((appends_char _).bind ((appends_array 8 (fun _ => appends_nbytes _) _ _).bind
      ((appends_char _).bind ((appends_array 20 (fun _ => appends_nbytes _) _ _).bind (appends_nbytes _)))))
  · simp only [RsMessage.reservePackSize, basePackSize]
    omega
  · simp only [RsMessage.reservePackSize, basePackSize]
    omega

theorem pack_spList (heap : Heap) (msg : Ts2SpSpList) : ∃ payload, pack heap msg = .ok payload := by
  have few : msg.count.toNat < 256 := msg.count.toNat_lt
  refine pack_of_appends heap ?_ ?_ ?_
  · exact (appends_char _).bind ((appends_char _).bind (appends_array 8 (fun _ => appends_nbytes _) _ _))
  · simp only [RsMessage.reservePackSize, basePackSize]
    omega
  · simp only [RsMessage.reservePackSize, basePackSize]
    omega

variable [RsParsed M]

structure Encodes (message : M) (tag : UInt8) (body : List UInt8) : Prop where
  writes : Writes (RsMessage.packSubmsg message) ([tag] ++ body)
  reads : Reads RsParsed.parse body message
  size : RsMessage.reservePackSize message = basePackSize + body.length

/-- Packing and parsing a message. The cursor never moves back, so where it ends is the
farthest it gets; a receiver finds the payload in some larger memory. -/
structure RoundTrip (message : M) (tag : UInt8) (heap : Heap) (sink : Sink UInt8) : Prop where
  packed : packSink heap message = .ok sink
  area : sink.size = RsMessage.reservePackSize message
  cursor : sink.written.length = RsMessage.reservePackSize message
  payload : pack heap message = .ok sink.written
  total : sink.written.take 4 = le32 (UInt32.ofNat (RsMessage.reservePackSize message))
  tagged : sink.written[4]? = some tag
  parsed : ∀ memory : Nat → UInt8,
    (∀ i, i < sink.written.length → sink.written[i]? = some (memory i)) →
    RsParsed.parse (initStreamer (fun i => memory (5 + i)) (RsMessage.reservePackSize message - 5)) =
      .ok message []

def frame (tag : UInt8) (body : List UInt8) : List UInt8 := (le32 (UInt32.ofNat (5 + body.length)) ++ [tag]) ++ body

theorem frame_length (tag : UInt8) (body : List UInt8) : (frame tag body).length = 5 + body.length := by
  simp only [frame, List.length_append, le32_length, List.length_singleton]

theorem frame_inj {tag : UInt8} {first second : List UInt8} (same : frame tag first = frame tag second) :
    first = second := by
  unfold frame at same
  exact (List.append_inj same (by simp)).2

theorem frame_parts {memory : Memory} {start : Nat} {tag : UInt8} {body : List UInt8}
    (lies : view memory start (5 + body.length) = frame tag body) (small : 5 + body.length < 2147483648) :
    intAt memory start = 5 + body.length ∧ memory (start + 4) = tag ∧ view memory (start + 5) body.length = body := by
  rw [view_append, show 5 = 4 + 1 from rfl, view_append] at lies
  obtain ⟨header, content⟩ := List.append_inj lies (by simp)
  obtain ⟨total, type⟩ := List.append_inj header (by simp)
  refine ⟨?_, ?_, content⟩
  · rw [intAt, total, ofLe32_le32, ← ofInt32_natCast, toInt32_ofInt32 (by unfold IsInt32; omega)]
    omega
  · simpa [view] using type

omit [RsParsed M] in
theorem packSink_of_writes {message : M} {tag : UInt8} {body : List UInt8}
    (writes : Writes (RsMessage.packSubmsg message) ([tag] ++ body))
    (size : RsMessage.reservePackSize message = basePackSize + body.length)
    (small : RsMessage.reservePackSize message < 2147483648) (heap : Heap) :
    packSink heap message = .ok ⟨frame tag body, (frame tag body).length, heap⟩ := by
  have whole : Writes (do writeInt (UInt32.ofNat (frame tag body).length); RsMessage.packSubmsg message)
      (frame tag body) := by
    rw [frame_length, frame, List.append_assoc]
    exact (Writes.emitChecked _ _).bind writes
  exact packSink_full heap whole (size.trans (frame_length tag body).symm) small

theorem Encodes.packSink {message : M} {tag : UInt8} {body : List UInt8} (encodes : Encodes message tag body)
    (small : RsMessage.reservePackSize message < 2147483648) (heap : Heap) :
    packSink heap message = .ok ⟨frame tag body, (frame tag body).length, heap⟩ :=
  packSink_of_writes encodes.writes encodes.size small heap

theorem Encodes.pack {message : M} {tag : UInt8} {body : List UInt8} (encodes : Encodes message tag body)
    (small : RsMessage.reservePackSize message < 2147483648) (heap : Heap) :
    pack heap message = .ok (frame tag body) := pack_of_full (encodes.packSink small heap)

theorem initStreamer_body (header body : List UInt8) (memory : Nat → UInt8)
    (lies : ∀ i, i < (header ++ body).length → (header ++ body)[i]? = some (memory i)) :
    initStreamer (fun i => memory (header.length + i)) body.length = body := by
  apply List.ext_getElem
  · simp
  · intro i left right
    have inside := lies (header.length + i) (by simp; omega)
    rw [List.getElem?_append_right (by omega)] at inside
    simp only [Nat.add_sub_cancel_left, List.getElem?_eq_getElem right, Option.some.injEq] at inside
    simp [initStreamer, inside]

theorem Encodes.roundTrip {message : M} {tag : UInt8} {body : List UInt8}
    (encodes : Encodes message tag body) (small : RsMessage.reservePackSize message < 2147483648)
    (heap : Heap) : ∃ sink, RoundTrip message tag heap sink := by
  have size : RsMessage.reservePackSize message = 5 + body.length := encodes.size
  refine ⟨_, encodes.packSink small heap, ?_, ?_, encodes.pack small heap, ?_, ?_, fun memory lies => ?_⟩
  · simp only [frame_length, size]
  · simp only [frame_length, size]
  · simp [frame, size]
  · simp [frame]
  · have rest : (RsMessage.reservePackSize message : Int) - 5 = body.length := by omega
    have lands := initStreamer_body (le32 (UInt32.ofNat (5 + body.length)) ++ [tag]) body memory lies
    rw [List.length_append, le32_length, List.length_singleton] at lands
    rw [rest, lands]
    simpa using encodes.reads []

theorem writes_char (value : UInt8) : Writes (writeChar value) [value] := Writes.emit _
theorem writes_nbytes (bytes : List UInt8) : Writes (writeNbytes bytes) bytes := Writes.emit _
theorem writes_short (value : UInt16) : Writes (writeShort value) (le16 value) := Writes.emitChecked _ _
theorem writes_int (value : UInt32) : Writes (writeInt value) (le32 value) := Writes.emitChecked _ _

theorem reads_netAddress (address : NetAddress) : Reads readNetAddress address.toBytes address := by
  have read := reads_type NetAddress.ofBytes address.toBytes_length
  rwa [NetAddress.ofBytes_toBytes] at read

theorem reads_p2pAddress (address : P2PAddress) : Reads readP2PAddress address.toBytes address := by
  have read := reads_type P2PAddress.ofBytes address.toBytes_length
  rwa [P2PAddress.ofBytes_toBytes] at read

theorem reads_blockInterval (interval : BlockInterval) :
    Reads readBlockInterval interval.toBytes interval := by
  have read := reads_type BlockInterval.ofBytes interval.toBytes_length
  rwa [BlockInterval.ofBytes_toBytes] at read

theorem reads_float (value : FloatBits) : Reads readFloat (le32 value) value := reads_int value

theorem reads_corePeerInfo (info : CorePeerInfo) : Reads readCorePeerInfo info.toBytes info := by
  have read := reads_type CorePeerInfo.ofBytes info.toBytes_length
  rwa [CorePeerInfo.ofBytes_toBytes] at read

theorem reads_transferInfo (info : TransferInfo) : Reads readTransferInfo info.toBytes info := by
  have read := reads_type TransferInfo.ofBytes info.toBytes_length
  rwa [TransferInfo.ofBytes_toBytes] at read

theorem reads_peerInfoWithAddr (peer : PeerInfoWithAddr) : Reads readPeerInfoWithAddr peer.toBytes peer := by
  have read := reads_type PeerInfoWithAddr.ofBytes peer.toBytes_length
  rwa [PeerInfoWithAddr.ofBytes_toBytes] at read

theorem reads_resourceInfo (info : ResourceInfo) : Reads readResourceInfo info.toBytes info :=
  (reads_nbytes info.resMd5).bind ((reads_int info.blockInterval.start).bind
    ((reads_int info.blockInterval.size).map _))

theorem writes_resourceInfo (info : ResourceInfo) : Writes (writeResourceInfo info) info.toBytes :=
  (writes_nbytes _).bind ((writes_int _).bind (writes_int _))

theorem resourceInfo_length (info : ResourceInfo) : info.toBytes.length = 40 := by
  simp [ResourceInfo.toBytes]

theorem counted_length {α : Type} {width : Nat} {encode : α → List UInt8}
    (each : ∀ item, (encode item).length = width) (items : List α) :
    (items.flatMap encode).length = items.length * width := by
  induction items with
  | nil => simp
  | cons head tail ih => simp [each, ih, Nat.succ_mul, Nat.add_comm]

theorem encodes_register (msg : Sp2TsRegister) : Encodes msg SP2TS_REGISTER
    (le32 msg.userId ++ (msg.password.data ++ le16 msg.servicePort)) where
  writes := (writes_char _).bind ((writes_int _).bind ((writes_nbytes _).bind (writes_short _)))
  reads := (reads_int _).bind ((reads_nbytes _).bind ((reads_short _).map _))
  size := by simp [RsMessage.reservePackSize, Nat.add_assoc]

theorem encodes_spWelcome (msg : Ts2SpWelcome) : Encodes msg TS2SP_WELCOME msg.spUuid.data where
  writes := (writes_char _).bind (writes_nbytes _)
  reads := (reads_nbytes _).map _
  size := by simp [RsMessage.reservePackSize]

theorem encodes_spList (msg : Ts2SpSpList) (counted : msg.addr.length = msg.count.toNat) :
    Encodes msg TS2SP_SP_LIST ([msg.count] ++ msg.addr.flatMap NetAddress.toBytes) where
  writes := by
    have each := fun address => writes_nbytes (NetAddress.toBytes address)
    have list := writes_array 8 each msg.addr
    rw [counted] at list
    exact (writes_char _).bind ((writes_char _).bind list)
  reads := by
    refine (reads_char _).bind ?_
    have list := Reads.times reads_netAddress msg.addr
    rw [counted] at list
    split_ifs with zero
    · have nothing : msg.addr = [] := List.eq_nil_of_length_eq_zero (by simp [counted, zero])
      have same : (⟨msg.count, []⟩ : Ts2SpSpList) = msg := by rw [← nothing]
      rw [nothing, same]
      exact Reads.pure _
    · exact list.map _
  size := by
    simp [RsMessage.reservePackSize, counted_length NetAddress.toBytes_length, counted]
    omega

theorem encodes_getSp (msg : Sp2TsSpList) : Encodes msg SP2TS_GET_SP msg.spUuid.data where
  writes := (writes_char _).bind (writes_nbytes _)
  reads := (reads_nbytes _).map _
  size := by simp [RsMessage.reservePackSize]

theorem encodes_spLogout (msg : Sp2TsLogout) : Encodes msg SP2TS_GET_SP msg.spUuid.data where
  writes := (writes_char _).bind (writes_nbytes _)
  reads := (reads_nbytes _).map _
  size := by simp [RsMessage.reservePackSize]

theorem encodes_resList (msg : Sp2TsResList) (counted : msg.resInfo.length = msg.resourceCount.toNat) :
    Encodes msg SP2TS_RES_LIST
      (msg.spUuid.data ++ (le32 msg.resourceCount ++ msg.resInfo.flatMap ResourceInfo.toBytes)) where
  writes := by
    have list := writes_array 40 writes_resourceInfo msg.resInfo
    rw [counted] at list
    exact (writes_char _).bind ((writes_nbytes _).bind ((writes_int _).bind list))
  reads := by
    have list := Reads.times reads_resourceInfo msg.resInfo
    rw [counted] at list
    exact (reads_nbytes _).bind ((reads_int _).bind (list.map _))
  size := by
    simp [RsMessage.reservePackSize, counted_length resourceInfo_length, counted, Nat.add_assoc]

theorem encodes_status (msg : Sp2TsStatus) : Encodes msg SP2TS_STATUS
    (msg.spUuid.data ++ (le32 msg.resourceCount ++ (le16 msg.connectionNum ++
      (le32 msg.bandwidth ++ [msg.exceedMaxConnection])))) where
  writes := (writes_char _).bind ((writes_nbytes _).bind ((writes_int _).bind ((writes_short _).bind
    ((writes_nbytes _).bind (writes_char _)))))
  reads := (reads_nbytes _).bind ((reads_int _).bind ((reads_short _).bind ((reads_float _).bind
    ((reads_char _).map _))))
  size := by simp [RsMessage.reservePackSize, Nat.add_assoc]

theorem encodes_login (msg : Np2TsLogin) (counted : msg.ipAddr.length = msg.localIpListSize.toNat) :
    Encodes msg NP2TS_LOGIN
      (le32 msg.loginId ++ (msg.password.data ++ (le32 msg.clientVersion ++ (le16 msg.listeningPort ++
        ([msg.localIpListSize] ++ msg.ipAddr.flatMap le32))))) where
  writes := by
    have list := writes_array 4 (fun ip => writes_nbytes (le32 ip)) msg.ipAddr
    rw [counted] at list
    exact (writes_char _).bind ((writes_int _).bind ((writes_nbytes _).bind ((writes_nbytes _).bind
      ((writes_short _).bind ((writes_char _).bind list)))))
  reads := by
    have list := Reads.times reads_int msg.ipAddr
    rw [counted] at list
    exact (reads_int _).bind ((reads_nbytes _).bind ((reads_float _).bind ((reads_short _).bind
      ((reads_char _).bind (list.map _)))))
  size := by
    simp [RsMessage.reservePackSize, counted_length le32_length, counted]
    omega

theorem encodes_reqRes (msg : Np2TsReqRes) : Encodes msg NP2TS_REQ_RES
    (msg.uuid.data ++ msg.resourceMd5.data) where
  writes := (writes_char _).bind ((writes_nbytes _).bind (writes_nbytes _))
  reads := (reads_nbytes _).bind ((reads_nbytes _).map _)
  size := by simp [RsMessage.reservePackSize, Nat.add_assoc]

theorem encodes_needPeers (msg : Np2TsNeedPeers) : Encodes msg NP2TS_NEED_PEERS
    (msg.uuid.data ++ le32 msg.currentBlock) where
  writes := (writes_char _).bind ((writes_nbytes _).bind (writes_int _))
  reads := (reads_nbytes _).bind ((reads_int _).map _)
  size := by simp [RsMessage.reservePackSize, Nat.add_assoc]

theorem encodes_reqInterval (msg : Np2TsReqInterval) :
    Encodes msg NP2TS_RES_INTERVAL msg.uuid.data where
  writes := (writes_char _).bind (writes_nbytes _)
  reads := (reads_nbytes _).map _
  size := by simp [RsMessage.reservePackSize]

theorem encodes_logout (msg : Np2TsLogout) : Encodes msg NP2TS_LOGOUT msg.uuid.data where
  writes := (writes_char _).bind (writes_nbytes _)
  reads := (reads_nbytes _).map _
  size := by simp [RsMessage.reservePackSize]

theorem encodes_npWelcome (msg : Ts2NpWelcome) : Encodes msg TS2NP_WELCOME
    (msg.uuid.data ++ msg.peerIp.toBytes) where
  writes := (writes_char _).bind ((writes_nbytes _).bind (writes_nbytes _))
  reads := (reads_nbytes _).bind ((reads_p2pAddress _).map _)
  size := by simp [RsMessage.reservePackSize, Nat.add_assoc]

theorem encodes_peers (msg : Ts2NpPeers) (sps : msg.spAddr.length = msg.spListSize.toNat)
    (peers : msg.peerAddr.length = msg.peerListSize.toNat) (even : msg.spListSize = msg.peerListSize) :
    Encodes msg TS2NP_PEERS ([msg.spListSize] ++ (msg.spAddr.flatMap NetAddress.toBytes ++ ([msg.peerListSize] ++
      (msg.peerAddr.flatMap PeerInfoWithAddr.toBytes ++ msg.npAddr.toBytes)))) where
  writes := by
    have addresses := writes_array 8 (fun address => writes_nbytes (NetAddress.toBytes address)) msg.spAddr
    have infos := writes_array 20 (fun peer => writes_nbytes (PeerInfoWithAddr.toBytes peer)) msg.peerAddr
    rw [sps] at addresses
    rw [peers, ← even] at infos
    exact (writes_char _).bind ((writes_char _).bind (addresses.bind ((writes_char _).bind
      (infos.bind (writes_nbytes _)))))
  reads := by
    have addresses := Reads.times reads_netAddress msg.spAddr
    have infos := Reads.times reads_peerInfoWithAddr msg.peerAddr
    rw [sps] at addresses
    rw [peers] at infos
    exact (reads_char _).bind (addresses.bind ((reads_char _).bind (infos.bind ((reads_netAddress _).map _))))
  size := by
    simp [RsMessage.reservePackSize, counted_length NetAddress.toBytes_length,
      counted_length PeerInfoWithAddr.toBytes_length, sps, peers]
    omega

theorem encodes_resInterval (msg : Ts2NpResInterval) :
    Encodes msg TS2NP_RES_INTERVAL msg.blockInterval.toBytes where
  writes := (writes_char _).bind (writes_nbytes _)
  reads := (reads_blockInterval _).map _
  size := by simp [RsMessage.reservePackSize]

theorem encodes_npMsg (msg : Ts2NpMsg) : Encodes msg TS2NP_MSG
    (le16 msg.errMsgType ++ [boolByte msg.shouldQuit]) where
  writes := (writes_char _).bind ((writes_short _).bind (writes_char _))
  reads := by
    have flag : decide (boolByte msg.shouldQuit ≠ 0) = msg.shouldQuit := by
      cases msg.shouldQuit <;> rfl
    have last := (reads_char (boolByte msg.shouldQuit)).map
      fun byte => (⟨msg.errMsgType, byte ≠ 0⟩ : Ts2NpMsg)
    rw [flag] at last
    exact (reads_short _).bind last
  size := by simp [RsMessage.reservePackSize]

def reportBody (msg : Np2TsReport) : List UInt8 :=
  msg.uuid.data ++ (msg.coreinfo.toBytes ++ ([msg.intervalCount] ++
    (msg.blockinterval.flatMap BlockInterval.toBytes ++ (msg.transferinfo.toBytes ++ (le32 msg.playingBlock ++
    (le16 msg.currentBufferingTime ++ (le16 msg.bufferedCount ++ (le16 msg.bufferedTime ++
    (le16 msg.connectFailCount ++ (le16 msg.incomingConnectionCount ++ (le16 msg.outgoingConnectionCount ++
    (le16 msg.avgIncomingConnectionElapsedTime ++ (le16 msg.avgOutgoingConnectionElapsedTime ++
    le32 msg.messagePercent)))))))))))))

theorem reads_report (msg : Np2TsReport) (counted : msg.blockinterval.length = msg.intervalCount.toNat) :
    Reads RsParsed.parse (reportBody msg) msg := by
  have list := Reads.times reads_blockInterval msg.blockinterval
  rw [counted] at list
  exact (reads_nbytes _).bind ((reads_corePeerInfo _).bind ((reads_char _).bind (list.bind
    ((reads_transferInfo _).bind ((reads_int _).bind ((reads_short _).bind ((reads_short _).bind
    ((reads_short _).bind ((reads_short _).bind ((reads_short _).bind ((reads_short _).bind
    ((reads_short _).bind ((reads_short _).bind ((reads_float _).map _))))))))))))))

/-- The classes whose three functions agree, each with its own tag. -/
theorem codec_round_trip (heap : Heap) :
    (∀ msg : Sp2TsRegister, ∃ sink, RoundTrip msg SP2TS_REGISTER heap sink) ∧
    (∀ msg : Ts2SpWelcome, ∃ sink, RoundTrip msg TS2SP_WELCOME heap sink) ∧
    (∀ msg : Ts2SpSpList, msg.addr.length = msg.count.toNat →
      ∃ sink, RoundTrip msg TS2SP_SP_LIST heap sink) ∧
    (∀ msg : Sp2TsSpList, ∃ sink, RoundTrip msg SP2TS_GET_SP heap sink) ∧
    (∀ msg : Sp2TsResList, msg.resInfo.length = msg.resourceCount.toNat →
      RsMessage.reservePackSize msg < 2147483648 → ∃ sink, RoundTrip msg SP2TS_RES_LIST heap sink) ∧
    (∀ msg : Sp2TsStatus, ∃ sink, RoundTrip msg SP2TS_STATUS heap sink) ∧
    (∀ msg : Np2TsLogin, msg.ipAddr.length = msg.localIpListSize.toNat →
      ∃ sink, RoundTrip msg NP2TS_LOGIN heap sink) ∧
    (∀ msg : Np2TsReqRes, ∃ sink, RoundTrip msg NP2TS_REQ_RES heap sink) ∧
    (∀ msg : Np2TsNeedPeers, ∃ sink, RoundTrip msg NP2TS_NEED_PEERS heap sink) ∧
    (∀ msg : Np2TsReqInterval, ∃ sink, RoundTrip msg NP2TS_RES_INTERVAL heap sink) ∧
    (∀ msg : Np2TsLogout, ∃ sink, RoundTrip msg NP2TS_LOGOUT heap sink) ∧
    (∀ msg : Ts2NpWelcome, ∃ sink, RoundTrip msg TS2NP_WELCOME heap sink) ∧
    (∀ msg : Ts2NpResInterval, ∃ sink, RoundTrip msg TS2NP_RES_INTERVAL heap sink) ∧
    (∀ msg : Ts2NpMsg, ∃ sink, RoundTrip msg TS2NP_MSG heap sink) := by
  refine ⟨fun msg => ?_, fun msg => ?_, fun msg counted => ?_, fun msg => ?_, fun msg counted small => ?_,
    fun msg => ?_, fun msg counted => ?_, fun msg => ?_, fun msg => ?_, fun msg => ?_, fun msg => ?_,
    fun msg => ?_, fun msg => ?_, fun msg => ?_⟩
  · refine (encodes_register msg).roundTrip ?_ heap
    simp [RsMessage.reservePackSize, basePackSize, MD5_LEN]
  · refine (encodes_spWelcome msg).roundTrip ?_ heap
    simp [RsMessage.reservePackSize, basePackSize, UUID_LENGTH]
  · have few : msg.count.toNat < 256 := msg.count.toNat_lt
    refine (encodes_spList msg counted).roundTrip ?_ heap
    simp only [RsMessage.reservePackSize, basePackSize]
    omega
  · refine (encodes_getSp msg).roundTrip ?_ heap
    simp [RsMessage.reservePackSize, basePackSize, UUID_LENGTH]
  · exact (encodes_resList msg counted).roundTrip small heap
  · refine (encodes_status msg).roundTrip ?_ heap
    simp [RsMessage.reservePackSize, basePackSize, UUID_LENGTH]
  · have few : msg.localIpListSize.toNat < 256 := msg.localIpListSize.toNat_lt
    refine (encodes_login msg counted).roundTrip ?_ heap
    simp only [RsMessage.reservePackSize, basePackSize, MD5_LEN]
    omega
  · refine (encodes_reqRes msg).roundTrip ?_ heap
    simp [RsMessage.reservePackSize, basePackSize, MD5_LEN, UUID_LENGTH]
  · refine (encodes_needPeers msg).roundTrip ?_ heap
    simp [RsMessage.reservePackSize, basePackSize, UUID_LENGTH]
  · refine (encodes_reqInterval msg).roundTrip ?_ heap
    simp [RsMessage.reservePackSize, basePackSize, UUID_LENGTH]
  · refine (encodes_logout msg).roundTrip ?_ heap
    simp [RsMessage.reservePackSize, basePackSize, UUID_LENGTH]
  · refine (encodes_npWelcome msg).roundTrip ?_ heap
    simp [RsMessage.reservePackSize, basePackSize, UUID_LENGTH]
  · refine (encodes_resInterval msg).roundTrip ?_ heap
    simp [RsMessage.reservePackSize, basePackSize]
  · exact (encodes_npMsg msg).roundTrip (by simp [RsMessage.reservePackSize, basePackSize]) heap

theorem codec_round_trip_lists :
    (∃ sink, RoundTrip (⟨1, [NetAddress.init]⟩ : Ts2SpSpList) TS2SP_SP_LIST (fun _ => 7) sink) ∧
    (∃ sink, RoundTrip (⟨.fill _ 3, 1, [⟨.fill _ 65, ⟨0, 1⟩⟩]⟩ : Sp2TsResList) SP2TS_RES_LIST
      (fun _ => 7) sink) ∧
    (∃ sink, RoundTrip (⟨9, .fill _ 65, 0, 80, 1, [16777343]⟩ : Np2TsLogin) NP2TS_LOGIN
      (fun _ => 7) sink) := by
  obtain ⟨_, _, spList, _, resList, _, login, _⟩ := codec_round_trip fun _ => 7
  exact ⟨spList _ rfl, resList _ rfl (by decide), login _ rfl⟩

/-- Both loops of `pack_submsg` count to `sp_list_size`: the elements that they read exist. -/
def ReadsInside (msg : Ts2NpPeers) : Prop :=
  msg.spListSize.toNat ≤ msg.spAddr.length ∧ msg.spListSize.toNat ≤ msg.peerAddr.length

theorem packSubmsg_peers_emits (msg : Ts2NpPeers) :
    Emits (RsMessage.packSubmsg msg) (1 + (1 + (msg.spListSize.toNat * 8 + (1 + (msg.spListSize.toNat * 20 + 8))))) :=
  (Emits.emit [TS2NP_PEERS]).bind ((Emits.emit [msg.spListSize]).bind
    ((emits_array NetAddress.toBytes_length _ _).bind ((Emits.emit [msg.peerListSize]).bind
      ((emits_array PeerInfoWithAddr.toBytes_length _ _).bind
        (NetAddress.toBytes_length msg.npAddr ▸ Emits.emit msg.npAddr.toBytes)))))

theorem even_of_roundTrip {msg : Ts2NpPeers} {heap : Heap} {sink : Sink UInt8}
    (trip : RoundTrip msg TS2NP_PEERS heap sink) : msg.spListSize = msg.peerListSize := by
  have size : RsMessage.reservePackSize msg =
      5 + 1 + msg.spListSize.toNat * 8 + 1 + msg.peerListSize.toNat * 20 + 8 := rfl
  have sps : msg.spListSize.toNat < 256 := msg.spListSize.toNat_lt
  have peers : msg.peerListSize.toNat < 256 := msg.peerListSize.toNat_lt
  have fits : wrap32 (RsMessage.reservePackSize msg) = RsMessage.reservePackSize msg :=
    wrap32_of_isInt32 (by unfold IsInt32; omega)
  obtain ⟨more, width, filled⟩ := Emits.fill (Writes.emitChecked Halt.assertion (le32 (ofInt32
    (RsMessage.reservePackSize msg)))) (packSubmsg_peers_emits msg) (RsMessage.reservePackSize msg) heap
    (by rw [le32_length]; omega)
  have packed := trip.packed
  simp only [packSink, fits] at packed
  have same := Except.ok.inj (filled.symm.trans packed)
  have cursor := trip.cursor
  rw [← same, size] at cursor
  simp only [List.length_append, le32_length, width] at cursor
  apply UInt8.toNat_inj.mp
  omega

/-- A list of peers comes through just when it has as many super peers as peers: the loop over the
peers counts the super peers. -/
theorem peers_round_trip_iff (msg : Ts2NpPeers) (sps : msg.spAddr.length = msg.spListSize.toNat)
    (peers : msg.peerAddr.length = msg.peerListSize.toNat) :
    ((∀ heap, ∃ sink, RoundTrip msg TS2NP_PEERS heap sink) ∧ ReadsInside msg) ↔
      msg.spListSize = msg.peerListSize := by
  constructor
  · rintro ⟨trips, _⟩
    obtain ⟨sink, trip⟩ := trips fun _ => 0
    exact even_of_roundTrip trip
  · intro even
    have few : msg.spListSize.toNat < 256 := msg.spListSize.toNat_lt
    refine ⟨fun heap => (encodes_peers msg sps peers even).roundTrip ?_ heap, Nat.le_of_eq sps.symm, ?_⟩
    · simp only [RsMessage.reservePackSize, basePackSize, ← even]
      omega
    · rw [peers, even]

def oneOfEach : Ts2NpPeers := ⟨1, [.init], 1, [⟨.zero, .zero⟩], .init⟩

theorem one_of_each_round_trip : ((∀ heap, ∃ sink, RoundTrip oneOfEach TS2NP_PEERS heap sink) ∧
    ReadsInside oneOfEach) ↔ oneOfEach.spListSize = oneOfEach.peerListSize :=
  peers_round_trip_iff oneOfEach rfl rfl

/-- A super peer and no peers, as the tracker sends them where nobody has the block. -/
theorem peers_without_round_trip : ¬∀ msg : Ts2NpPeers, msg.spAddr.length = msg.spListSize.toNat →
    msg.peerAddr.length = msg.peerListSize.toNat →
    (∀ heap, ∃ sink, RoundTrip msg TS2NP_PEERS heap sink) ∧ ReadsInside msg := by
  intro trips
  obtain ⟨_, _, read⟩ := trips ⟨1, [.init], 0, [], .init⟩ rfl rfl
  exact absurd read (by decide)

section Stops
variable {next : RsWriter Unit} {count : Nat} (stops : Stops next Halt.assertion count)
include stops

theorem stops_char (value : UInt8) : Stops (writeChar value >>= fun _ => next) Halt.assertion (1 + count) :=
  Stops.emits (Emits.emit [value]) stops

theorem stops_nbytes (bytes : List UInt8) :
    Stops (writeNbytes bytes >>= fun _ => next) Halt.assertion (bytes.length + count) :=
  Stops.emits (Emits.emit bytes) stops

theorem stops_short (value : UInt16) : Stops (writeShort value >>= fun _ => next) Halt.assertion (2 + count) :=
  Stops.bind (writes_short value) (Stops.emitChecked _ _) stops

theorem stops_int (value : UInt32) : Stops (writeInt value >>= fun _ => next) Halt.assertion (4 + count) :=
  Stops.bind (writes_int value) (Stops.emitChecked _ _) stops

end Stops

theorem packSubmsg_report_stops (msg : Np2TsReport) :
    Stops (RsMessage.packSubmsg msg) Halt.assertion (74 + msg.intervalCount.toNat * 8) := by
  have shorts := stops_short (stops_short (stops_short (stops_short (stops_short (stops_short (stops_short
    (Stops.emitChecked Halt.assertion (le16 msg.avgOutgoingConnectionElapsedTime))
    msg.avgIncomingConnectionElapsedTime) msg.outgoingConnectionCount) msg.incomingConnectionCount)
    msg.connectFailCount) msg.bufferedTime) msg.bufferedCount) msg.currentBufferingTime
  have behind := stops_nbytes (stops_int shorts msg.playingBlock) msg.transferinfo.toBytes
  have intervals := Stops.emits
    (emits_array BlockInterval.toBytes_length msg.intervalCount.toNat msg.blockinterval) behind
  have whole := stops_char (stops_nbytes (stops_nbytes (stops_char intervals msg.intervalCount)
    msg.coreinfo.toBytes) msg.uuid.data) NP2TS_REPORT
  rw [show msg.uuid.data.length = 16 from msg.uuid.size, CorePeerInfo.toBytes_length,
    TransferInfo.toBytes_length, le16_length] at whole
  exact (congrArg (Stops _ Halt.assertion) (by omega)).mp whole

theorem packSink_report (msg : Np2TsReport) (heap : Heap) : packSink heap msg = .error .assertion := by
  have few : msg.intervalCount.toNat < 256 := msg.intervalCount.toNat_lt
  have size : RsMessage.reservePackSize msg = 74 + msg.intervalCount.toNat * 8 := by
    simp only [RsMessage.reservePackSize, basePackSize, UUID_LENGTH]
    omega
  have fits : wrap32 (RsMessage.reservePackSize msg) = RsMessage.reservePackSize msg :=
    wrap32_of_isInt32 (by unfold IsInt32; omega)
  unfold packSink
  rw [fits]
  refine Stops.fill (writes_int _) (packSubmsg_report_stops msg) _ heap ?_ ?_
  · rw [le32_length]
    omega
  · rw [le32_length]
    omega

/-- No report can be packed, and so none comes through. -/
theorem report_never_packed (msg : Np2TsReport) (heap : Heap) :
    packSink heap msg = .error .assertion ∧ ¬∃ sink, RoundTrip msg NP2TS_REPORT heap sink := by
  refine ⟨packSink_report msg heap, fun ⟨sink, trip⟩ => ?_⟩
  have packed := trip.packed
  rw [packSink_report] at packed
  cases packed

/-- A report of one interval. -/
theorem one_interval_not_packed : ¬∀ msg : Np2TsReport, msg.blockinterval.length = msg.intervalCount.toNat →
    ∀ heap, ∃ sink, RoundTrip msg NP2TS_REPORT heap sink := by
  intro trips
  obtain ⟨sink, trip⟩ := trips
    ⟨.fill _ 97, .zero, 1, [⟨0, 10⟩], .zero, 0, 0, 0, 0, 0, 0, 0, 0, 0, 0⟩ rfl fun _ => 0
  have packed := trip.packed
  rw [packSink_report] at packed
  cases packed

end RabbitStreamer.Core.MessageCodec
