import RabbitStreamer.Tracker.Server

/-! What becomes of the logout that a super peer sends. -/

namespace RabbitStreamer.Tracker.SuperPeerLogout
open RabbitStreamer.Lib RabbitStreamer.Lib.Bytes RabbitStreamer.Lib.Memory RabbitStreamer.Core.Struct
open RabbitStreamer.Core.StructDefine RabbitStreamer.Core.Streamer RabbitStreamer.Core.Message
open RabbitStreamer.Core.Message.P2PMESSAGE RabbitStreamer.Core.MessageCodec
open RabbitStreamer.Tracker.Uuid RabbitStreamer.Tracker.StreamerManager.ChannelMap RabbitStreamer.Tracker.State
open RabbitStreamer.Tracker.Server

variable {R : Rand}

/-- A datagram to the connector for super peers that consists of a packed logout. -/
structure Delivers (datagram : Datagram) (heap : Heap) (logout : Sp2TsLogout) : Prop where
  connector : datagram.connector = .sp
  packed : pack heap logout = .ok (view datagram.buf 0 datagram.nbBuf)

/-- Exactly this channel is gone, and no list of super peers was sent. -/
def LoggedOut (tracker : TrackerState R) (uuid : MapStr) (result : Except Halt (TrackerState R × List Sent)) : Prop :=
  ∃ after sent, result = .ok (after, sent) ∧ after.channelMap = tracker.channelMap.deleteChannel uuid ∧
    ∀ payload, Sent.write payload ∉ sent

theorem Delivers.carries {datagram : Datagram} {heap : Heap} {logout : Sp2TsLogout}
    (delivers : Delivers datagram heap logout) : datagram.Carries (.getSp ⟨logout.spUuid⟩) := by
  have packed := (encodes_spLogout logout).pack (by simp [RsMessage.reservePackSize, basePackSize, UUID_LENGTH]) heap
  have bytes := Except.ok.inj (delivers.packed.symm.trans packed)
  have length := congrArg List.length bytes
  rw [view_length, frame_length, ByteArr.length_data] at length
  refine ⟨delivers.connector, ⟨bytes, ?_⟩, trivial⟩
  simp only [UUID_LENGTH] at length
  omega

/-- It removes no channel, whatever the tracker. -/
theorem logout_never_removes {tracker : TrackerState R} {datagram : Datagram} {heap : Heap} {logout : Sp2TsLogout}
    (registered : (tracker.channelMap.find (.ofUuid logout.spUuid)).isSome)
    (delivers : Delivers datagram heap logout) :
    ¬LoggedOut tracker (.ofUuid logout.spUuid) (receive tracker datagram) := by
  rintro ⟨after, sent, received, gone, _⟩
  rw [receive_of_request delivers.carries.request] at received
  obtain ⟨rfl, _⟩ := SpConnector.getSpList_eq_ok received
  rw [gone, StreamerManager.ChannelMap.deleteChannel, OrderedMap.find_erase_self] at registered
  cases registered

def oneRegistered : TrackerState .counting :=
  { TrackerState.start .counting (0 : Nat) 0 with
    channelMap := OrderedMap.empty.insert (.ofUuid (.fill _ 97)) (.init 0) }

def packedLogout : Datagram :=
  ⟨.sp, .init, .ofBytes (frame SP2TS_GET_SP (List.replicate 16 97)), 21, ⟨0, fun _ => 0, 0, 0, 0, 255⟩⟩

theorem delivers_packedLogout : Delivers packedLogout (fun _ => 0) ⟨.fill _ 97⟩ := ⟨rfl, by rfl⟩

theorem logout_keeps_channel :
    ¬LoggedOut oneRegistered (.ofUuid (.fill _ 97)) (receive oneRegistered packedLogout) := by
  rintro ⟨after, sent, received, gone, _⟩
  have kept : (receive oneRegistered packedLogout).toOption.map (fun result => result.1.channelMap.size) =
      some 1 := by
    decide +kernel
  have removed : (oneRegistered.channelMap.deleteChannel (.ofUuid (.fill _ 97))).size = 0 := by decide +kernel
  rw [received] at kept
  simp [Except.toOption, gone, removed] at kept

theorem packed_logout_removes_nothing : (oneRegistered.channelMap.find (.ofUuid (.fill _ 97))).isSome ∧
    ¬LoggedOut oneRegistered (.ofUuid (.fill _ 97)) (receive oneRegistered packedLogout) :=
  have registered : (oneRegistered.channelMap.find (.ofUuid (.fill _ 97))).isSome := by decide +kernel
  ⟨registered, logout_never_removes registered delivers_packedLogout⟩

end RabbitStreamer.Tracker.SuperPeerLogout
