import RabbitStreamer.Sp.CaptureBounds

/-! The registration of a channel against the layout that is documented for it. -/

namespace RabbitStreamer.Sp.ChannelRegister
open RabbitStreamer.Lib RabbitStreamer.Lib.Bytes RabbitStreamer.Lib.Memory
open RabbitStreamer.Core.Struct RabbitStreamer.Protocol.BufferQueue RabbitStreamer.Protocol.BufferQueue.RsBufferQueue
open RabbitStreamer.Sp.SourceManager RabbitStreamer.Sp.CsConnector RabbitStreamer.Sp.BlockRelay
open RabbitStreamer.Sp.CaptureBounds

/-- What a capture server registers: a name that its size byte can count, and channel data that
their size word can. -/
structure Registration where
  name : List UInt8
  userId : UInt32
  password : ByteArr MD5_LEN
  maxBlockSize : UInt32
  maxFileSize : UInt32
  bitRate : ByteArr 4
  isSource : UInt8
  channelData : List UInt8
  counted : name.length ≤ 255
  text : 0 ∉ name
  sized : channelData.length < 4294967296

/-- `|userid(UINT32)|md5 password(MD5_LEN)|max blocksize(UINT32)|max filesize(UINT32)|`
`|channel bitRate(float)|isSource(bool)|` -/
def Registration.fields (registration : Registration) : List UInt8 :=
  le32 registration.userId ++ registration.password.data ++ le32 registration.maxBlockSize ++
    le32 registration.maxFileSize ++ registration.bitRate.data ++ [registration.isSource]

/-- `|size of channel name(UINT8)|channel name(...)|`, the fields and
`|size of CHANNEL DATA(UINT32)|CHANNEL DATA(...)|` -/
def Registration.encode (registration : Registration) : List UInt8 :=
  [UInt8.ofNat registration.name.length] ++ (registration.name ++ (registration.fields ++
    (le32 (UInt32.ofNat registration.channelData.length) ++ registration.channelData)))

/-- One source has been added: under the digest of the name, with the name, and with the channel
data as its header if there are any. -/
def Created (md5 : List UInt8 → ByteArr MD5_LEN) (registration : Registration) (sources after : SourceMap) : Prop :=
  ∃ before behind hash queue, sources.entries = before ++ behind ∧ after.entries = before ++ (hash, queue) :: behind ∧
    hash.hash.data = (md5 registration.name).data ++ [0] ∧ queue.sourceHash = hash ∧
    queue.sourceName = registration.name ∧
    (registration.channelData ≠ [] → queue.mediaHeader = some registration.channelData)

section Message

variable {registration : Registration} {msg : Memory}

theorem fields_length (registration : Registration) : registration.fields.length = 49 := by
  simp only [Registration.fields, List.length_append, le32_length, ByteArr.length_data, List.length_singleton]
  rfl

theorem toInt8_ofNat : ∀ count : Fin 256, (UInt8.ofNat count).toInt8.toInt =
    if count.val ≤ 127 then (count.val : Int) else (count.val : Int) - 256 := by
  decide +kernel

theorem channelSize_eq (lies : view msg 0 registration.encode.length = registration.encode) :
    channelSize msg =
      if registration.name.length ≤ 127 then (registration.name.length : Int)
      else (registration.name.length : Int) - 256 := by
  have byte : view msg 0 1 = [UInt8.ofNat registration.name.length] :=
    @view_middle msg 0 [] [_] _ lies
  have first : msg 0 = UInt8.ofNat registration.name.length := List.singleton_injective byte
  rw [channelSize, first]
  exact toInt8_ofNat ⟨registration.name.length, Nat.lt_succ_of_le registration.counted⟩

theorem channelName_eq (lies : view msg 0 registration.encode.length = registration.encode)
    (size : channelSize msg = registration.name.length) : channelName msg = registration.name := by
  rw [channelName, size, Int.toNat_natCast]
  exact @view_middle msg 0 [_] registration.name _ lies

theorem channelData_eq (lies : view msg 0 registration.encode.length = registration.encode)
    (size : channelSize msg = registration.name.length) :
    headerSize msg = toInt32 (UInt32.ofNat registration.channelData.length) ∧
      view msg (54 + registration.name.length) registration.channelData.length = registration.channelData := by
  obtain ⟨front, whole, width⟩ : ∃ front, registration.encode =
      front ++ (le32 (UInt32.ofNat registration.channelData.length) ++ registration.channelData) ∧
      front.length = 50 + registration.name.length := by
    refine ⟨[UInt8.ofNat registration.name.length] ++ (registration.name ++ registration.fields), ?_, ?_⟩
    · simp only [Registration.encode, List.append_assoc]
    · rw [List.length_append, List.length_append, fields_length, List.length_singleton]
      omega
  rw [whole] at lies
  have word := view_middle lies
  rw [le32_length, width] at word
  have behind : (front ++ le32 (UInt32.ofNat registration.channelData.length)).length =
      54 + registration.name.length := by
    rw [List.length_append, width, le32_length]
    omega
  have data := @view_middle msg 0 (front ++ le32 (UInt32.ofNat registration.channelData.length))
    registration.channelData [] (by rw [List.append_nil, List.append_assoc]; exact lies)
  rw [behind, Nat.zero_add] at data
  refine ⟨?_, data⟩
  have place : 1 + (channelSize msg).toNat + 4 + MD5_LEN + 4 + 4 + 4 + 1 = 0 + (50 + registration.name.length) := by
    rw [size, Int.toNat_natCast]
    show 1 + registration.name.length + 4 + 32 + 4 + 4 + 4 + 1 = _
    omega
  rw [headerSize, place, intAt, word, ofLe32_le32]

end Message

theorem takeWhile_text {name behind : List UInt8} (text : 0 ∉ name) :
    (name ++ behind).takeWhile (· ≠ 0) = name ↔ behind.headD 0 = 0 := by
  have all : ∀ byte ∈ name, decide (byte ≠ 0) = true := fun byte member =>
    decide_eq_true fun zero => text (zero ▸ member)
  rw [List.takeWhile_append_of_pos all]
  cases behind with
  | nil => simp
  | cons head tail =>
    by_cases stop : head = 0
    · simp [stop]
    · simp [stop]

def newSource (around : Around) (hash : MD5HashStr) (name header : List UInt8) : RsBufferQueue :=
  let queue := (init around.now hash name true).reserveBuffer MAX_BUFFER_SIZE around.unset
  if header = [] then queue else queue.setHeader header

theorem newSource_name (around : Around) (hash : MD5HashStr) (name header : List UInt8) :
    (newSource around hash name header).sourceName = name := by
  unfold newSource
  dsimp only
  split_ifs <;> rfl

theorem newSource_hash (around : Around) (hash : MD5HashStr) (name header : List UInt8) :
    (newSource around hash name header).sourceHash = hash := by
  unfold newSource
  dsimp only
  split_ifs <;> rfl

theorem createSource_unknown {sources : SourceMap} {hash : MD5HashStr} (unknown : sources.getBufferQueue hash = none)
    (around : Surroundings) (name : List UInt8) (source : Bool) :
    sources.createSource around hash name source =
      sources.insert hash ((init around.now hash name source).reserveBuffer MAX_BUFFER_SIZE around.unset) := by
  simp only [SourceMap.createSource, unknown]

section Register

variable (md5 : List UInt8 → ByteArr MD5_LEN) {peer : SuperPeer} {conn : Nat} (around : Around)
  {registration : Registration} {msg : Memory}

theorem getRegister_sources (lies : view msg 0 registration.encode.length = registration.encode)
    {hash : MD5HashStr} (digest : .ofMd5 (md5 registration.name) (peer.chnlHash conn).blockInterval = hash)
    (unknown : peer.sources.getBufferQueue hash = none) (short : registration.name.length ≤ 127)
    (small : registration.channelData.length < 2147483648) :
    ∃ after, getRegister md5 peer conn around msg = some after ∧ after.sources = peer.sources.insert hash
      (newSource around hash ((registration.name ++ around.behindName).takeWhile (· ≠ 0))
        registration.channelData) := by
  have size : channelSize msg = registration.name.length := (channelSize_eq lies).trans (if_pos short)
  obtain ⟨header, data⟩ := channelData_eq lies size
  have word : (UInt32.ofNat registration.channelData.length).toNat = registration.channelData.length := by
    rw [UInt32.toNat_ofNat']
    omega
  have exactly : headerSize msg = registration.channelData.length := by
    rw [header, toInt32_of_lt (by rw [word]; exact small), word]
  rw [getRegister_eq md5 peer conn around (size ▸ Int.natCast_nonneg _), channelName_eq lies size, exactly, size,
    Int.toNat_natCast, Int.toNat_natCast, data, digest]
  dsimp only
  rw [createSource_unknown unknown]
  by_cases headerless : registration.channelData = []
  · have zero : (registration.channelData.length : Int) = 0 := by simp [headerless]
    rw [if_pos zero]
    exact ⟨_, rfl, by rw [newSource, if_pos headerless]⟩
  · have more : 0 < registration.channelData.length := List.length_pos_of_ne_nil headerless
    rw [if_neg (by omega), if_neg (by omega)]
    refine ⟨_, rfl, ?_⟩
    rw [newSource, if_neg headerless]
    exact OrderedMap.adjust_insert_self _ (getBufferQueue_eq_none.mp unknown) fun queue =>
      queue.setHeader registration.channelData

/-- What a registration of an unknown channel comes to. -/
theorem register_creates_iff (lies : view msg 0 registration.encode.length = registration.encode)
    (unknown : peer.sources.getBufferQueue (.ofMd5 (md5 registration.name) (peer.chnlHash conn).blockInterval) =
      none) :
    (∃ after, getRegister md5 peer conn around msg = some after ∧
      Created md5 registration peer.sources after.sources) ↔
      registration.name.length ≤ 127 ∧ around.behindName.headD 0 = 0 ∧
        registration.channelData.length < 2147483648 := by
  constructor
  · rintro ⟨after, taken, before, behind, hash, queue, old, new, digest, _, name, _⟩
    obtain ⟨named, headed⟩ := (getRegister_taken md5 peer conn around msg).mp ⟨after, taken⟩
    have counted := registration.counted
    have sized := registration.sized
    have size := channelSize_eq lies
    have short : registration.name.length ≤ 127 := by
      by_contra long
      rw [if_neg long] at size
      omega
    rw [if_pos short] at size
    have small : registration.channelData.length < 2147483648 := by
      by_contra large
      rw [(channelData_eq lies size).1, toInt32, wrap32, UInt32.toNat_ofNat'] at headed
      omega
    refine ⟨short, ?_, small⟩
    obtain ⟨other, made, added⟩ := getRegister_sources md5 around lies rfl unknown short small
    cases taken.symm.trans made
    rw [added] at new
    have same := congrArg Prod.snd (OrderedMap.inserted_eq old new)
    rw [show queue = _ from same, newSource_name] at name
    exact (takeWhile_text registration.text).mp name
  · rintro ⟨short, ends, small⟩
    obtain ⟨after, made, added⟩ := getRegister_sources md5 around lies rfl unknown short small
    rw [(takeWhile_text registration.text).mpr ends] at added
    obtain ⟨before, behind, old, new⟩ := OrderedMap.insertEntry_split _
      (OrderedMap.find_eq_none.mp (getBufferQueue_eq_none.mp unknown))
    refine ⟨after, made, before, behind, _, _, old, (congrArg OrderedMap.entries added).trans new, ?_⟩
    refine ⟨rfl, newSource_hash .., newSource_name .., fun more => ?_⟩
    rw [newSource, if_neg more]
    rfl

end Register

def plain (name : List UInt8) (counted : name.length ≤ 255) (text : 0 ∉ name) : Registration :=
  ⟨name, 7, .fill _ 0, 0, 0, .fill _ 0, 1, [], counted, text, by decide⟩

theorem ofBytes_lies (bytes : List UInt8) : view (ofBytes bytes) 0 bytes.length = bytes := by
  have lies := view_ofBytes [] bytes []
  rwa [List.append_nil] at lies

theorem register_creates_one :
    (∃ after, getRegister digest ⟨.empty, blank⟩ 0 quiet (ofBytes (plain [97, 98] (by decide) (by decide)).encode) =
        some after ∧
      Created digest (plain [97, 98] (by decide) (by decide)) .empty after.sources) ↔
      [97, 98].length ≤ 127 ∧ quiet.behindName.headD 0 = 0 ∧ 0 < 2147483648 :=
  register_creates_iff digest quiet (ofBytes_lies _) rfl

def longNamed : Registration :=
  plain (List.replicate 128 97) (by rw [List.length_replicate]; decide) fun member =>
    absurd (List.eq_of_mem_replicate member) (by decide)

/-- Its size is read as a negative number. -/
theorem long_name_faults :
    ¬∃ after, getRegister digest ⟨.empty, blank⟩ 0 quiet (ofBytes longNamed.encode) = some after ∧
      Created digest longNamed .empty after.sources := by
  rintro ⟨after, taken, _⟩
  obtain ⟨named, _⟩ := (getRegister_taken digest ⟨.empty, blank⟩ 0 quiet _).mp ⟨after, taken⟩
  have width : longNamed.name.length = 128 := List.length_replicate
  rw [channelSize_eq (ofBytes_lies _), width] at named
  exact absurd named (by decide)

end RabbitStreamer.Sp.ChannelRegister
