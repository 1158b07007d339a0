import RabbitStreamer.Core.MessageCodec

/-! How many bytes the parsers of the tracker's messages take, and that they leave none of them
out of the message. -/

namespace RabbitStreamer.Core.MessageExtent
open RabbitStreamer.Lib.Bytes RabbitStreamer.Lib.Codec
open RabbitStreamer.Core.Streamer RabbitStreamer.Core.Struct RabbitStreamer.Core.Message
open RabbitStreamer.Core.MessageCodec

abbrev parser (M : Type) [RsParsed M] : RsReader M := RsParsed.parse

theorem needs_blockInterval : Needs readBlockInterval .assertion fun _ => 8 := needs_type _ _
theorem needs_corePeerInfo : Needs readCorePeerInfo .assertion fun _ => 4 := needs_type _ _
theorem needs_transferInfo : Needs readTransferInfo .assertion fun _ => 32 := needs_type _ _
theorem needs_float : Needs readFloat .assertion fun _ => 4 := needs_type _ _

theorem needs_resourceInfo : Needs readResourceInfo .assertion fun _ => 40 :=
  (needs_nbytes MD5_LEN).seq fun _ => needs_int.seq fun _ => needs_int.map _

theorem needs_register : Needs (parser Sp2TsRegister) .assertion fun _ => 38 :=
  needs_int.seq fun _ => (needs_nbytes MD5_LEN).seq fun _ => needs_short.map _

theorem needs_status : Needs (parser Sp2TsStatus) .assertion fun _ => 27 :=
  (needs_nbytes UUID_LENGTH).seq fun _ => needs_int.seq fun _ => needs_short.seq fun _ => needs_float.seq fun _ =>
    needs_char.map _

def byteAt (bytes : List UInt8) (offset : Nat) : Nat := (((bytes.drop offset).take 1).headD 0).toNat

def wordAt (bytes : List UInt8) (offset : Nat) : Nat := (ofLe32 ((bytes.drop offset).take 4)).toNat

theorem needs_resList : Needs (parser Sp2TsResList) .assertion fun bytes => 20 + 40 * wordAt bytes 16 := by
  have whole : Needs (parser Sp2TsResList) .assertion _ :=
    (needs_nbytes 16).seq fun _ => needs_int.counted (fun _ width => reads_type ofLe32 width)
      fun count => (needs_resourceInfo.times count.toNat).map _
  refine whole.congr fun bytes => ?_
  simp only [wordAt]
  omega

theorem needs_getSp : Needs (parser Sp2TsSpList) .assertion fun _ => 16 := (needs_nbytes 16).map _

theorem needs_login : Needs (parser Np2TsLogin) .assertion fun bytes => 43 + 4 * byteAt bytes 42 := by
  have whole : Needs (parser Np2TsLogin) .assertion _ :=
    needs_int.seq fun _ => (needs_nbytes 32).seq fun _ => needs_float.seq fun _ => needs_short.seq fun _ =>
      needs_char.counted (fun _ width => reads_type (fun bytes => bytes.headD 0) width)
        fun count => ((needs_type 4 ofLe32).times count.toNat).map _
  refine whole.congr fun bytes => ?_
  simp only [byteAt, List.drop_drop, Nat.reduceAdd]
  omega

theorem needs_reqRes : Needs (parser Np2TsReqRes) .assertion fun _ => 48 :=
  (needs_nbytes 16).seq fun _ => (needs_nbytes 32).map _

theorem needs_report : Needs (parser Np2TsReport) .assertion fun bytes => 77 + 8 * byteAt bytes 20 := by
  have whole : Needs (parser Np2TsReport) .assertion _ :=
    (needs_nbytes 16).seq fun _ => needs_corePeerInfo.seq fun _ =>
      needs_char.counted (fun _ width => reads_type (fun bytes => bytes.headD 0) width) fun count =>
        (needs_blockInterval.times count.toNat).seq fun _ => needs_transferInfo.seq fun _ => needs_int.seq fun _ =>
        needs_short.seq fun _ => needs_short.seq fun _ => needs_short.seq fun _ => needs_short.seq fun _ =>
        needs_short.seq fun _ => needs_short.seq fun _ => needs_short.seq fun _ => needs_short.seq fun _ =>
        needs_float.map _
  refine whole.congr fun bytes => ?_
  simp only [byteAt, List.drop_drop, Nat.reduceAdd]
  omega

theorem needs_needPeers : Needs (parser Np2TsNeedPeers) .assertion fun _ => 20 :=
  (needs_nbytes 16).seq fun _ => needs_int.map _

theorem needs_reqInterval : Needs (parser Np2TsReqInterval) .assertion fun _ => 16 := (needs_nbytes 16).map _

theorem needs_logout : Needs (parser Np2TsLogout) .assertion fun _ => 16 := (needs_nbytes 16).map _

theorem spells_float : Spells readFloat [] le32 := spells_type le32_ofLe32

theorem spells_blockInterval : Spells readBlockInterval [] BlockInterval.toBytes :=
  spells_type BlockInterval.toBytes_ofBytes

theorem spells_corePeerInfo : Spells readCorePeerInfo [] CorePeerInfo.toBytes :=
  spells_type CorePeerInfo.toBytes_ofBytes

theorem spells_transferInfo : Spells readTransferInfo [] TransferInfo.toBytes :=
  spells_type TransferInfo.toBytes_ofBytes

theorem spells_resourceInfo : Spells readResourceInfo [] ResourceInfo.toBytes :=
  (spells_nbytes _).bind fun _ => spells_int.bind fun _ => spells_int.bind fun _ => Spells.pure
    (by simp [ResourceInfo.toBytes, BlockInterval.toBytes])

theorem spells_register : Spells (parser Sp2TsRegister) [] fun msg =>
    le32 msg.userId ++ (msg.password.data ++ le16 msg.servicePort) :=
  spells_int.bind fun _ => (spells_nbytes _).bind fun _ => spells_short.bind fun _ => Spells.pure (by simp)

theorem spells_status : Spells (parser Sp2TsStatus) [] fun msg =>
    msg.spUuid.data ++ (le32 msg.resourceCount ++ (le16 msg.connectionNum ++
      (le32 msg.bandwidth ++ [msg.exceedMaxConnection]))) :=
  (spells_nbytes _).bind fun _ => spells_int.bind fun _ => spells_short.bind fun _ => spells_float.bind fun _ =>
    spells_char.bind fun _ => Spells.pure (by simp)

theorem spells_resList : Spells (parser Sp2TsResList) [] fun msg =>
    msg.spUuid.data ++ (le32 msg.resourceCount ++ msg.resInfo.flatMap ResourceInfo.toBytes) :=
  (spells_nbytes _).bind fun _ => spells_int.bind fun count => (spells_resourceInfo.times count.toNat).bind fun _ =>
    Spells.pure (by simp)

theorem spells_getSp : Spells (parser Sp2TsSpList) [] fun msg => msg.spUuid.data :=
  (spells_nbytes _).bind fun _ => Spells.pure (by simp)

theorem spells_login : Spells (parser Np2TsLogin) [] fun msg =>
    le32 msg.loginId ++ (msg.password.data ++ (le32 msg.clientVersion ++ (le16 msg.listeningPort ++
      ([msg.localIpListSize] ++ msg.ipAddr.flatMap le32)))) :=
  spells_int.bind fun _ => (spells_nbytes _).bind fun _ => spells_float.bind fun _ => spells_short.bind fun _ =>
    spells_char.bind fun count => ((spells_type le32_ofLe32).times count.toNat).bind fun _ => Spells.pure (by simp)

theorem spells_reqRes : Spells (parser Np2TsReqRes) [] fun msg => msg.uuid.data ++ msg.resourceMd5.data :=
  (spells_nbytes _).bind fun _ => (spells_nbytes _).bind fun _ => Spells.pure (by simp)

theorem spells_report : Spells (parser Np2TsReport) [] reportBody :=
  (spells_nbytes _).bind fun _ => spells_corePeerInfo.bind fun _ => spells_char.bind fun count =>
    (spells_blockInterval.times count.toNat).bind fun _ => spells_transferInfo.bind fun _ => spells_int.bind fun _ =>
    spells_short.bind fun _ => spells_short.bind fun _ => spells_short.bind fun _ => spells_short.bind fun _ =>
    spells_short.bind fun _ => spells_short.bind fun _ => spells_short.bind fun _ => spells_short.bind fun _ =>
    spells_float.bind fun _ => Spells.pure (by simp [reportBody])

theorem spells_needPeers : Spells (parser Np2TsNeedPeers) [] fun msg => msg.uuid.data ++ le32 msg.currentBlock :=
  (spells_nbytes _).bind fun _ => spells_int.bind fun _ => Spells.pure (by simp)

theorem spells_reqInterval : Spells (parser Np2TsReqInterval) [] fun msg => msg.uuid.data :=
  (spells_nbytes _).bind fun _ => Spells.pure (by simp)

theorem spells_logout : Spells (parser Np2TsLogout) [] fun msg => msg.uuid.data :=
  (spells_nbytes _).bind fun _ => Spells.pure (by simp)

theorem counted_login : Yields (parser Np2TsLogin) fun msg => msg.ipAddr.length = msg.localIpListSize.toNat :=
  (Yields.any _).bind fun _ _ => (Yields.any _).bind fun _ _ => (Yields.any _).bind fun _ _ =>
    (Yields.any _).bind fun _ _ => (Yields.any _).bind fun count _ =>
    (Yields.times _ count.toNat).bind fun _ length =>
    Yields.pure length

theorem counted_report : Yields (parser Np2TsReport) fun msg => msg.blockinterval.length = msg.intervalCount.toNat :=
  (Yields.any _).bind fun _ _ => (Yields.any _).bind fun _ _ => (Yields.any _).bind fun count _ =>
    (Yields.times _ count.toNat).bind fun _ length => (Yields.any _).bind fun _ _ => (Yields.any _).bind fun _ _ =>
    (Yields.any _).bind fun _ _ => (Yields.any _).bind fun _ _ => (Yields.any _).bind fun _ _ =>
    (Yields.any _).bind fun _ _ => (Yields.any _).bind fun _ _ => (Yields.any _).bind fun _ _ =>
    (Yields.any _).bind fun _ _ => (Yields.any _).bind fun _ _ => (Yields.any _).bind fun _ _ => Yields.pure length

theorem counted_resList : Yields (parser Sp2TsResList) fun msg => msg.resInfo.length = msg.resourceCount.toNat :=
  (Yields.any _).bind fun _ _ => (Yields.any _).bind fun count _ => (Yields.times _ count.toNat).bind fun _ length =>
    Yields.pure length

end RabbitStreamer.Core.MessageExtent
