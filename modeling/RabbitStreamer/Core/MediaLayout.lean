import RabbitStreamer.Core.MessageCodec

/-! The two messages that carry media to other super peers and to players: what is written against
the layout that is documented for the receivers. -/

namespace RabbitStreamer.Core.MediaLayout
open RabbitStreamer.Lib.Bytes RabbitStreamer.Lib.Codec
open RabbitStreamer.Core.Streamer RabbitStreamer.Core.Struct RabbitStreamer.Core.Message
open RabbitStreamer.Core.Message.P2PMESSAGE RabbitStreamer.Core.MessageCodec

def sizedLayout {α : Type} (size : RsReader α) (count : α → Nat) : RsReader (α × List UInt8) := do
  let announced ← size
  let bytes ← take Halt.assertion (count announced)
  pure (announced, bytes)

/-- `|RESOURCE MD5(MD5_LEN)|block ID(UINT32))|block size(UINT32)|block data(...)|` -/
def responseLayout : RsReader Sp2SpResponse := do
  let resourceMd5 ← readNbytes MD5_LEN
  let blockId ← readInt
  let (blockSize, blockData) ← sizedLayout readInt UInt32.toNat
  pure { resourceMd5, blockId, blockSize, blockData }

/-- `|RESOURCE MD5(MD5_LEN)|startid(UINT32)|length(UINT32)|media data length(UINT32)|media data(...)|`
`|program name size(UINT8)|program name(...)|program time in seconds(UINT32)|channel name size(UINT8)|`
`|channel name(...)|` -/
def mediatypeLayout : RsReader Sp2SpMediatype := do
  let resourceMd5 ← readNbytes MD5_LEN
  let blockStartId ← readInt
  let blockNum ← readInt
  let (mediaTypeSize, mediaType) ← sizedLayout readInt UInt32.toNat
  let (programNameSize, programName) ← sizedLayout readChar UInt8.toNat
  let programTime ← readInt
  let (channelNameSize, channelName) ← sizedLayout readChar UInt8.toNat
  pure { resourceMd5, blockStartId, blockNum, mediaTypeSize, mediaType, programNameSize, programName,
         programTime, channelNameSize, channelName }

/-- A message packed into an area that it fills, and read back behind the header. -/
structure Follows {M : Type} [RsMessage M] (layout : RsReader M) (message : M) (tag : UInt8) (heap : Heap)
    (sink : Sink UInt8) : Prop where
  packed : packSink heap message = .ok sink
  area : sink.size = RsMessage.reservePackSize message
  cursor : sink.written.length = RsMessage.reservePackSize message
  payload : pack heap message = .ok sink.written
  total : sink.written.take 4 = le32 (UInt32.ofNat (RsMessage.reservePackSize message))
  tagged : sink.written[4]? = some tag
  decoded : layout (sink.written.drop 5) = .ok message []

theorem follows_of_body {M : Type} [RsMessage M] {layout : RsReader M} {message : M} {tag : UInt8}
    {body : List UInt8} (heap : Heap) (writes : Writes (RsMessage.packSubmsg message) ([tag] ++ body))
    (reads : Reads layout body message) (size : RsMessage.reservePackSize message = basePackSize + body.length)
    (small : RsMessage.reservePackSize message < 2147483648) : ∃ sink, Follows layout message tag heap sink := by
  have width : RsMessage.reservePackSize message = (frame tag body).length := size.trans (frame_length tag body).symm
  have whole : Writes (do writeInt (UInt32.ofNat (frame tag body).length); RsMessage.packSubmsg message)
      (frame tag body) := by
    rw [frame_length, frame, List.append_assoc]
    exact (writes_int _).bind writes
  have packed := packSink_full heap whole width small
  have header : (le32 (UInt32.ofNat (5 + body.length)) ++ [tag]).length = 5 := by
    rw [List.length_append, le32_length, List.length_singleton]
  have behind : (frame tag body).drop 5 = body := header ▸ List.drop_left
  refine ⟨_, packed, ?_, width.symm, pack_of_full packed, ?_, ?_, ?_⟩
  · exact congrArg Nat.cast width.symm
  · rw [size]
    rfl
  · rfl
  · show layout ((frame tag body).drop 5) = _
    rw [behind, ← List.append_nil body]
    exact reads []

theorem writes_buffer (bytes : List UInt8) : Writes (writeBuffer bytes.length bytes) bytes := by
  have written := writes_array 1 (fun byte => writes_nbytes [byte]) bytes
  rwa [List.flatMap_singleton'] at written

theorem writes_sized (bytes : List UInt8) : Writes (writeSized bytes.length bytes) bytes := by
  unfold writeSized
  split_ifs with sized
  · exact writes_buffer bytes
  · rw [List.eq_nil_of_length_eq_zero (not_not.mp sized)]
    exact Writes.skip

theorem reads_sized {α : Type} {size : RsReader α} {count : α → Nat} {announced : α} {field bytes : List UInt8}
    (read : Reads size field announced) (counted : bytes.length = count announced) :
    Reads (sizedLayout size count) (field ++ bytes) (announced, bytes) := by
  have taken := Reads.take Halt.assertion bytes
  rw [counted] at taken
  exact read.bind (taken.map _)

theorem reads_sized_then {α β : Type} {size : RsReader α} {count : α → Nat} {announced : α}
    {field bytes rest : List UInt8} {next : α × List UInt8 → RsReader β} {result : β}
    (read : Reads size field announced) (counted : bytes.length = count announced)
    (later : Reads (next (announced, bytes)) rest result) :
    Reads (sizedLayout size count >>= next) (field ++ (bytes ++ rest)) result := by
  rw [← List.append_assoc]
  exact (reads_sized read counted).bind later

theorem writes_block {msg : Sp2SpResponse} (counted : msg.blockData.length = msg.blockSize.toNat) :
    Writes (if msg.blockSize ≠ 0 then writeBuffer msg.blockSize.toNat msg.blockData else pure ()) msg.blockData := by
  have zero : msg.blockSize.toNat = (0 : UInt32).toNat ↔ msg.blockSize = 0 := UInt32.toNat_inj
  have block := writes_sized msg.blockData
  rw [counted, writeSized] at block
  simp only [ne_eq, ← zero]
  exact block

theorem response_follows (heap : Heap) (msg : Sp2SpResponse) (counted : msg.blockData.length = msg.blockSize.toNat)
    (small : RsMessage.reservePackSize msg < 2147483648) :
    ∃ sink, Follows responseLayout msg SP2SP_RESPONSE heap sink := by
  have block := reads_sized (reads_int msg.blockSize) counted
  refine follows_of_body heap ((writes_char _).bind ((writes_nbytes _).bind ((writes_int _).bind
    ((writes_int _).bind (writes_block counted))))) ?_ ?_ small
  · exact (reads_nbytes _).bind ((reads_int _).bind (block.map _))
  · simp only [RsMessage.reservePackSize, List.length_append, le32_length, ByteArr.length_data, counted]
    omega

theorem mediatype_follows (heap : Heap) (msg : Sp2SpMediatype)
    (media : msg.mediaType.length = msg.mediaTypeSize.toNat)
    (program : msg.programName.length = msg.programNameSize.toNat)
    (channel : msg.channelName.length = msg.channelNameSize.toNat)
    (small : RsMessage.reservePackSize msg < 2147483648) :
    ∃ sink, Follows mediatypeLayout msg SP2SP_MEDIATYPE heap sink := by
  have data := writes_sized msg.mediaType
  have name := writes_sized msg.programName
  have last := writes_sized msg.channelName
  rw [media] at data
  rw [program] at name
  rw [channel] at last
  refine follows_of_body heap ((writes_char _).bind ((writes_nbytes _).bind ((writes_int _).bind ((writes_int _).bind
    ((writes_int _).bind (data.bind ((writes_char _).bind (name.bind ((writes_int _).bind
    ((writes_char _).bind last)))))))))) ?_ ?_ small
  · have names := reads_sized (reads_char msg.channelNameSize) channel
    exact (reads_nbytes _).bind ((reads_int _).bind ((reads_int _).bind (reads_sized_then (reads_int _) media
      (reads_sized_then (reads_char _) program ((reads_int _).bind (names.map _))))))
  · simp only [RsMessage.reservePackSize, List.length_append, le32_length, ByteArr.length_data, media, program,
      channel, List.length_singleton]
    omega

/-- The frames of media types and of responses follow their layouts. -/
theorem media_frames_follow_layout (heap : Heap) :
    (∀ msg : Sp2SpMediatype, msg.mediaType.length = msg.mediaTypeSize.toNat →
      msg.programName.length = msg.programNameSize.toNat → msg.channelName.length = msg.channelNameSize.toNat →
      RsMessage.reservePackSize msg < 2147483648 → ∃ sink, Follows mediatypeLayout msg SP2SP_MEDIATYPE heap sink) ∧
    (∀ msg : Sp2SpResponse, msg.blockData.length = msg.blockSize.toNat →
      RsMessage.reservePackSize msg < 2147483648 → ∃ sink, Follows responseLayout msg SP2SP_RESPONSE heap sink) :=
  ⟨mediatype_follows heap, response_follows heap⟩

theorem parts_and_no_block :
    (∃ sink, Follows mediatypeLayout ⟨.fill _ 97, 1, 2, 3, [4, 5, 6], 2, [110, 111], 7, 1, [112]⟩ SP2SP_MEDIATYPE
      (fun _ => 7) sink) ∧
    (∃ sink, Follows responseLayout ⟨.fill _ 97, 1, 0, []⟩ SP2SP_RESPONSE (fun _ => 7) sink) := by
  obtain ⟨mediatype, response⟩ := media_frames_follow_layout fun _ => 7
  exact ⟨mediatype _ rfl rfl rfl (by decide), response _ rfl (by decide)⟩

end RabbitStreamer.Core.MediaLayout
