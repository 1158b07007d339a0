import RabbitStreamer.Lib.Reading
import RabbitStreamer.Sp.BlockRelay

/-! What the handlers of capture server messages read and write, and which messages keep them
inside the message and the ring. -/

namespace RabbitStreamer.Sp.CaptureBounds
open RabbitStreamer.Lib RabbitStreamer.Lib.Bytes RabbitStreamer.Lib.Memory RabbitStreamer.Lib.Transition
open RabbitStreamer.Core.Struct RabbitStreamer.Core.Message.P2PMESSAGE
open RabbitStreamer.Protocol.BufferQueue RabbitStreamer.Protocol.BufferQueue.RsBufferQueue
open RabbitStreamer.Sp.SourceManager RabbitStreamer.Sp.CsConnector RabbitStreamer.Sp.BlockRelay

def registerReading (md5 : List UInt8 → ByteArr MD5_LEN) (peer : SuperPeer) (conn : Nat) (around : Around) :
    Reading SuperPeer :=
  .lookByte 0 fun size =>
  let channelSize := size.toInt8.toInt
  .copy 1 channelSize fun channelName =>
  let msg := 1 + channelSize.toNat
  -- user id, password, block size, file size, bit rate and source flag
  .lookInt msg fun _ => .look (msg + 4) MD5_LEN fun _ => .lookInt (msg + 4 + MD5_LEN) fun _ =>
  .lookInt (msg + 4 + MD5_LEN + 4) fun _ => .look (msg + 4 + MD5_LEN + 4 + 4) 4 fun _ =>
  .lookByte (msg + 4 + MD5_LEN + 4 + 4 + 4) fun _ =>
  .lookInt (msg + 4 + MD5_LEN + 4 + 4 + 4 + 1) fun headerSize =>
  let hash : MD5HashStr := .ofMd5 (md5 channelName) (peer.chnlHash conn).blockInterval
  let name := (channelName ++ around.behindName).takeWhile (· ≠ 0)
  let created := peer.sources.createSource around.toSurroundings hash name true
  let known := Function.update peer.chnlHash conn hash
  if headerSize = 0 then .done ⟨created, known⟩
  else
    .copy (msg + 4 + MD5_LEN + 4 + 4 + 4 + 1 + 4) headerSize fun header =>
    .done ⟨created.addHeader hash header, known⟩

/-- `get_mediatype`; the header is only read where `add_header` finds the channel. -/
def mediatypeReading (peer : SuperPeer) (conn : Nat) : Reading SuperPeer :=
  .lookInt 0 fun mediatypeSize =>
  match peer.sources.getBufferQueue (peer.chnlHash conn) with
  | none => .done peer
  | some _ =>
      .copy 4 mediatypeSize fun header =>
      .done { peer with sources := peer.sources.addHeader (peer.chnlHash conn) header }

/-- `get_block`. Without a channel the block pointer is null, and only nothing can be copied there. -/
def blockReading (peer : SuperPeer) (conn : Nat) : Reading (SuperPeer × Option Fill) :=
  let hash := peer.chnlHash conn
  .lookInt 0 fun blockId =>
  .lookInt 4 fun blockSize =>
  .lookInt 8 fun _ =>
  match peer.sources.queueBlock hash blockSize with
  | none => .fault
  | some (_, none) => if blockSize = 0 then .done (peer, none) else .fault
  | some (queued, some slot) =>
      .copy 8 blockSize fun bytes =>
      .ofOption do
        let block ← Block.make blockId bytes
        let copied ← queued.copyBlock hash slot block.data
        let published ← copied.setBlockAvailable hash block.id
        pure ({ peer with sources := published }, some ⟨hash, slot, block⟩)

theorem registerReading_run (md5 : List UInt8 → ByteArr MD5_LEN) (peer : SuperPeer) (conn : Nat) (around : Around)
    (msg : Memory) : (registerReading md5 peer conn around).run msg = getRegister md5 peer conn around msg := by
  simp only [registerReading, getRegister, Reading.run_look, Reading.run_lookByte, Reading.run_lookInt,
    Reading.run_copy]
  split_ifs
  · rfl
  · rfl
  · rw [Reading.run_copy, if_pos (by assumption)]
  · rw [Reading.run_copy, if_neg (by assumption), Reading.run_done]

theorem mediatypeReading_run (peer : SuperPeer) (conn : Nat) (msg : Memory) :
    (mediatypeReading peer conn).run msg = getMediatype peer conn msg := by
  simp only [mediatypeReading, getMediatype, Reading.run_lookInt]
  cases peer.sources.getBufferQueue (peer.chnlHash conn) with
  | none => rfl
  | some queue => exact Reading.run_copy ..

theorem blockReading_run (peer : SuperPeer) (conn : Nat) (msg : Memory) :
    (blockReading peer conn).run msg = getBlock peer conn msg := by
  simp only [blockReading, getBlock, Reading.run_lookInt]
  generalize intAt msg 4 = blockSize
  cases peer.sources.queueBlock (peer.chnlHash conn) blockSize with
  | none => rfl
  | some called =>
    obtain ⟨queued, blockData⟩ := called
    refine Eq.trans ?_ (Option.bind_some ..).symm
    cases blockData with
    | none =>
      dsimp only
      split_ifs
      · exact Reading.run_done ..
      · exact Reading.run_fault ..
    | some slot =>
      dsimp only
      rw [Reading.run_copy, Reading.run_ofOption]

def looked (md5 : List UInt8 → ByteArr MD5_LEN) (peer : SuperPeer) (event : CsEvent) : List Stretch :=
  let msgType := event.message.msgType
  let msg := event.message.msg
  if msgType = CS2SP_REGISTER then (registerReading md5 peer event.conn event.around).looks msg
  else if msgType = CS2SP_BLOCK then (blockReading peer event.conn).looks msg
  else if msgType = CS2SP_MEDIA_TYPE then (mediatypeReading peer event.conn).looks msg
  else []

/-- The `char` in front of the channel name. -/
def channelSize (msg : Memory) : Int := (msg 0).toInt8.toInt

def channelName (msg : Memory) : List UInt8 := view msg 1 (channelSize msg).toNat

def headerSize (msg : Memory) : Int := intAt msg (1 + (channelSize msg).toNat + 4 + MD5_LEN + 4 + 4 + 4 + 1)

def Placed (peer : SuperPeer) (conn : Nat) (fill : Fill) : Prop :=
  ∃ queue, peer.sources.getBufferQueue (peer.chnlHash conn) = some queue ∧ fill.hash = peer.chnlHash conn ∧
    fill.slot < queue.bufferVector.length ∧ fill.block.data.length ≤ MEDIA_BLOCK_SIZE

/-- The message is handled without a fault, nothing behind it is read, the copy of a channel name
is not read past its end, and what is stored lies in a slot. A message that is ignored would be in
bounds as well. -/
structure InBounds (md5 : List UInt8 → ByteArr MD5_LEN) (recorded : Recorded) (event : CsEvent) : Prop where
  within : Within event.message.size (looked md5 recorded.peer event)
  ended : event.message.msgType = CS2SP_REGISTER → 0 ∈ channelName event.message.msg
  stored : ∃ next more, step md5 recorded event = some next ∧ next.fills = recorded.fills ++ Option.toList more ∧
    ∀ fill ∈ more, Placed recorded.peer event.conn fill

structure RegisterFits (msg : Memory) (size : Int) : Prop where
  named : 0 ≤ channelSize msg
  ended : 0 ∈ channelName msg
  headed : 0 ≤ headerSize msg
  inside : 54 + channelSize msg + headerSize msg ≤ size

/-- The three fields are there. Without a channel the block has no size; with one it has the size
of a slot at most and ends in the message. -/
structure BlockFits (peer : SuperPeer) (conn : Nat) (msg : Memory) (size : Int) : Prop where
  fields : 12 ≤ size
  unknown : peer.sources.getBufferQueue (peer.chnlHash conn) = none → intAt msg 4 = 0
  known : peer.sources.getBufferQueue (peer.chnlHash conn) ≠ none →
    0 ≤ intAt msg 4 ∧ intAt msg 4 ≤ MEDIA_BLOCK_SIZE ∧ 8 + intAt msg 4 ≤ size

structure MediatypeFits (peer : SuperPeer) (conn : Nat) (msg : Memory) (size : Int) : Prop where
  field : 4 ≤ size
  known : peer.sources.getBufferQueue (peer.chnlHash conn) ≠ none → 0 ≤ intAt msg 0 ∧ 4 + intAt msg 0 ≤ size

structure Fits (peer : SuperPeer) (event : CsEvent) : Prop where
  register : event.message.msgType = CS2SP_REGISTER → RegisterFits event.message.msg event.message.size
  block : event.message.msgType = CS2SP_BLOCK → BlockFits peer event.conn event.message.msg event.message.size
  mediatype : event.message.msgType = CS2SP_MEDIA_TYPE →
    MediatypeFits peer event.conn event.message.msg event.message.size

theorem getRegister_eq (md5 : List UInt8 → ByteArr MD5_LEN) (peer : SuperPeer) (conn : Nat) (around : Around)
    {msg : Memory} (named : 0 ≤ channelSize msg) :
    getRegister md5 peer conn around msg =
      let hash : MD5HashStr := .ofMd5 (md5 (channelName msg)) (peer.chnlHash conn).blockInterval
      let created := peer.sources.createSource around.toSurroundings hash
        ((channelName msg ++ around.behindName).takeWhile (· ≠ 0)) true
      let known := Function.update peer.chnlHash conn hash
      if headerSize msg = 0 then some ⟨created, known⟩
      else if headerSize msg < 0 then none
      else some ⟨created.addHeader hash (view msg (54 + (channelSize msg).toNat) (headerSize msg).toNat), known⟩ := by
  have behind : 54 + (channelSize msg).toNat =
      1 + (channelSize msg).toNat + 4 + MD5_LEN + 4 + 4 + 4 + 1 + 4 := by
    show 54 + (channelSize msg).toNat = 1 + (channelSize msg).toNat + 4 + 32 + 4 + 4 + 4 + 1 + 4
    omega
  rw [behind]
  exact if_neg (Int.not_lt.mpr named)

theorem getRegister_taken (md5 : List UInt8 → ByteArr MD5_LEN) (peer : SuperPeer) (conn : Nat) (around : Around)
    (msg : Memory) :
    (∃ after, getRegister md5 peer conn around msg = some after) ↔ 0 ≤ channelSize msg ∧ 0 ≤ headerSize msg := by
  by_cases named : 0 ≤ channelSize msg
  · rw [and_iff_right named, getRegister_eq md5 peer conn around named]
    dsimp only
    split_ifs with headerless negative
    · exact iff_of_true ⟨_, rfl⟩ (Int.le_of_eq headerless.symm)
    · refine iff_of_false ?_ (Int.not_le.mpr negative)
      rintro ⟨_, refused⟩
      cases refused
    · exact iff_of_true ⟨_, rfl⟩ (Int.not_lt.mp negative)
  · have refused : getRegister md5 peer conn around msg = none := if_pos (Int.not_le.mp named)
    refine iff_of_false ?_ fun both => named both.1
    rw [refused]
    rintro ⟨_, accepted⟩
    cases accepted

theorem register_within (md5 : List UInt8 → ByteArr MD5_LEN) (peer : SuperPeer) (conn : Nat) (around : Around)
    {msg : Memory} (size : Int) (named : 0 ≤ channelSize msg) (headed : 0 ≤ headerSize msg) :
    Within size ((registerReading md5 peer conn around).looks msg) ↔
      54 + channelSize msg + headerSize msg ≤ size := by
  obtain ⟨count, counted⟩ := Int.eq_ofNat_of_zero_le named
  have size_eq : (msg 0).toInt8.toInt = count := counted
  have header_eq : headerSize msg = intAt msg (1 + count + 4 + MD5_LEN + 4 + 4 + 4 + 1) := by
    rw [headerSize, counted, Int.toNat_natCast]
  have natural : ¬(count : Int) < 0 := Int.not_lt.mpr (Int.natCast_nonneg count)
  have md5_len : MD5_LEN = 32 := rfl
  rw [header_eq] at headed ⊢
  simp only [registerReading, Reading.looks_lookByte, Reading.looks_copy, size_eq, Int.toNat_natCast,
    if_neg natural, Reading.looks_look, Reading.looks_lookInt, within_cons, counted]
  split_ifs with headerless
  · rw [Reading.looks_done, headerless]
    simp only [within_nil, and_true]
    omega
  · rw [Reading.looks_copy, if_neg (Int.not_lt.mpr headed), Reading.looks_done, within_cons]
    simp only [within_nil, and_true]
    omega

theorem register_iff (md5 : List UInt8 → ByteArr MD5_LEN) (peer : SuperPeer) (conn : Nat) (around : Around)
    (msg : Memory) (size : Int) :
    (Within size ((registerReading md5 peer conn around).looks msg) ∧ 0 ∈ channelName msg ∧
      ∃ after, getRegister md5 peer conn around msg = some after) ↔ RegisterFits msg size := by
  rw [getRegister_taken]
  constructor
  · rintro ⟨within, ended, named, headed⟩
    exact ⟨named, ended, headed, (register_within md5 peer conn around size named headed).mp within⟩
  · rintro ⟨named, ended, headed, inside⟩
    exact ⟨(register_within md5 peer conn around size named headed).mpr inside, ended, named, headed⟩

theorem mediatype_iff (peer : SuperPeer) (conn : Nat) (msg : Memory) (size : Int) :
    (Within size ((mediatypeReading peer conn).looks msg) ∧ ∃ after, getMediatype peer conn msg = some after) ↔
      MediatypeFits peer conn msg size := by
  simp only [mediatypeReading, getMediatype, Reading.looks_lookInt, within_cons]
  cases known : peer.sources.getBufferQueue (peer.chnlHash conn) with
  | none =>
    rw [Reading.looks_done]
    constructor
    · rintro ⟨⟨field, _⟩, _⟩
      exact ⟨by omega, fun present => absurd known present⟩
    · intro fits
      have field := fits.field
      exact ⟨⟨by omega, within_nil _⟩, _, rfl⟩
  | some queue =>
    have present : peer.sources.getBufferQueue (peer.chnlHash conn) ≠ none := by rw [known]; simp
    dsimp only
    rw [Reading.looks_copy]
    split_ifs with negative
    · refine iff_of_false ?_ fun fits => Int.not_le.mpr negative (fits.known present).1
      rintro ⟨_, _, refused⟩
      cases refused
    · rw [Reading.looks_done, within_cons]
      constructor
      · rintro ⟨⟨field, inside, _⟩, _⟩
        exact ⟨by omega, fun _ => ⟨by omega, by omega⟩⟩
      · intro fits
        obtain ⟨natural, inside⟩ := fits.known present
        exact ⟨⟨by omega, by omega, within_nil _⟩, _, rfl⟩

structure Seated (queue : RsBufferQueue) : Prop where
  number : queue.bufferNumber = MAX_BUFFER_SIZE
  slots : queue.bufferVector.length = MAX_BUFFER_SIZE
  natural : 0 ≤ queue.queueIndex
  below : queue.queueIndex < MAX_BUFFER_SIZE

def AllSeated (sources : SourceMap) : Prop := ∀ entry ∈ sources.entries, Seated entry.2

theorem seated_reserved (now : Int) (hash : MD5HashStr) (name : List UInt8) (source : Bool)
    (unset : Nat → ByteArr MEDIA_BLOCK_SIZE) :
    Seated ((init now hash name source).reserveBuffer MAX_BUFFER_SIZE unset) where
  number := rfl
  slots := by simp [reserveBuffer, init]
  natural := Int.le_refl 0
  below := by simp [reserveBuffer, init]

theorem Seated.slotAt {queue : RsBufferQueue} (seated : Seated queue) :
    queue.slotAt queue.queueIndex = some queue.queueIndex.toNat ∧
      queue.queueIndex.toNat < queue.bufferVector.length := by
  have natural := seated.natural
  have below := seated.below
  refine ⟨?_, by rw [seated.slots]; omega⟩
  unfold RsBufferQueue.slotAt
  rw [seated.slots, if_pos ⟨natural, below⟩]

theorem Seated.store {queue : RsBufferQueue} (seated : Seated queue) (block : Block) :
    ∃ next, storeBlock queue block = some next ∧ Seated next := by
  obtain ⟨natural, below⟩ := And.intro seated.natural seated.below
  obtain ⟨found, _⟩ := seated.slotAt
  have limit : (MAX_BUFFER_SIZE : Int) = 1024 := rfl
  have near : wrap32 (queue.queueIndex + 1) = queue.queueIndex + 1 :=
    wrap32_of_isInt32 (by unfold IsInt32; omega)
  have residue : (queue.queueIndex + 1).tmod queue.bufferNumber = (queue.queueIndex + 1) % MAX_BUFFER_SIZE := by
    rw [seated.number]
    exact Int.tmod_eq_emod_of_nonneg (by omega)
  refine ⟨_, storeBlock_eq found block, seated.number, ?_, ?_, ?_⟩
  · rw [List.length_modify]
    exact seated.slots
  · show 0 ≤ (wrap32 (queue.queueIndex + 1)).tmod queue.bufferNumber
    rw [near, residue, limit]
    omega
  · show (wrap32 (queue.queueIndex + 1)).tmod queue.bufferNumber < MAX_BUFFER_SIZE
    rw [near, residue, limit]
    omega

theorem AllSeated.queue {sources : SourceMap} (seated : AllSeated sources) {hash : MD5HashStr} {queue : RsBufferQueue}
    (known : sources.getBufferQueue hash = some queue) : Seated queue := by
  obtain ⟨key, found⟩ := getBufferQueue_eq_some.mp known
  exact seated _ (OrderedMap.find_eq_some.mp found).1

theorem AllSeated.adjust {sources : SourceMap} (seated : AllSeated sources) (hash : MD5HashStr)
    {change : RsBufferQueue → RsBufferQueue} (keep : ∀ queue, Seated queue → Seated (change queue)) :
    AllSeated (sources.adjust hash change) := by
  intro entry member
  obtain ⟨queue, old, same⟩ := OrderedMap.mem_adjust member
  rw [same]
  split_ifs
  · exact keep queue (seated _ old)
  · exact seated _ old

theorem AllSeated.createSource {sources : SourceMap} (seated : AllSeated sources) (around : Surroundings)
    (hash : MD5HashStr) (name : List UInt8) (source : Bool) :
    AllSeated (sources.createSource around hash name source) := by
  cases known : sources.getBufferQueue hash with
  | some queue => simpa only [SourceMap.createSource, known] using seated
  | none =>
    simp only [SourceMap.createSource, known]
    intro entry member
    rcases OrderedMap.eq_or_mem_of_mem_insertEntry member with rfl | old
    · exact seated_reserved around.now hash name source around.unset
    · exact seated _ old

theorem AllSeated.addHeader {sources : SourceMap} (seated : AllSeated sources) (hash : MD5HashStr)
    (header : List UInt8) : AllSeated (sources.addHeader hash header) :=
  seated.adjust hash fun _ before => ⟨before.number, before.slots, before.natural, before.below⟩

theorem kept_seated (md5 : List UInt8 → ByteArr MD5_LEN) : Kept md5 fun sources _ => AllSeated sources where
  create seated around _ _ _ := seated.createSource around _ _ _
  header seated hash header := seated.addHeader hash header
  store seated hash _ _ _ block known stored _ _ := by
    obtain ⟨_, again, behind⟩ := (seated.queue known).store block
    cases stored.symm.trans again
    exact seated.adjust hash fun _ _ => behind

theorem getBlock_placed {peer after : SuperPeer} {conn : Nat} {msg : Memory} {more : Option Fill}
    (seated : AllSeated peer.sources) (taken : getBlock peer conn msg = some (after, more)) :
    ∀ fill ∈ more, Placed peer conn fill := by
  rcases getBlock_cases taken with ⟨rfl, rfl⟩ | ⟨queue, round, slot, block, known, _, place, _, _, rfl, rfl⟩
  · exact fun fill member => nomatch member
  · rintro fill ⟨rfl⟩
    obtain ⟨found, inside⟩ := (seated.queue known).slotAt
    cases place.symm.trans found
    exact ⟨queue, known, rfl, inside, block.fits⟩

theorem AllSeated.queueBlock {sources : SourceMap} (seated : AllSeated sources) {hash : MD5HashStr}
    {queue : RsBufferQueue} (known : sources.getBufferQueue hash = some queue) (size : Int) :
    ∃ queued slot, sources.queueBlock hash size = some (queued, some slot) := by
  obtain ⟨found, _⟩ := (seated.queue known).slotAt
  simp only [SourceMap.queueBlock, known, queueBuffer, found, Option.pure_def, Option.bind_eq_bind, Option.bind_some]
  exact ⟨_, _, rfl⟩

theorem getBlock_unknown {peer : SuperPeer} {conn : Nat} (msg : Memory)
    (unknown : peer.sources.getBufferQueue (peer.chnlHash conn) = none) :
    (∃ result, getBlock peer conn msg = some result) ↔ intAt msg 4 = 0 := by
  have called : peer.sources.queueBlock (peer.chnlHash conn) (intAt msg 4) = some (peer.sources, none) := by
    simp only [SourceMap.queueBlock, unknown]
  have value : getBlock peer conn msg = if intAt msg 4 = 0 then some (peer, none) else none := by
    simp only [getBlock, called]
    exact Option.bind_some ..
  rw [value]
  split_ifs with empty
  · exact iff_of_true ⟨_, rfl⟩ empty
  · refine iff_of_false ?_ empty
    rintro ⟨_, refused⟩
    cases refused

theorem getBlock_known {peer : SuperPeer} {conn : Nat} (msg : Memory) {queue : RsBufferQueue}
    (seated : AllSeated peer.sources) (known : peer.sources.getBufferQueue (peer.chnlHash conn) = some queue) :
    (∃ result, getBlock peer conn msg = some result) ↔ 0 ≤ intAt msg 4 ∧ intAt msg 4 ≤ MEDIA_BLOCK_SIZE := by
  constructor
  · rintro ⟨⟨after, more⟩, taken⟩
    obtain ⟨queued, slot, called⟩ := seated.queueBlock known (intAt msg 4)
    simp only [getBlock, called] at taken
    obtain ⟨_, same, rest⟩ := Option.bind_eq_some_iff.mp taken
    cases same
    obtain ⟨natural, copied⟩ := Option.ite_none_left_eq_some.mp rest
    obtain ⟨block, made, _⟩ := Option.bind_eq_some_iff.mp copied
    have fits := block.fits
    rw [(Block.make_eq_some.mp made).2, view_length] at fits
    omega
  · rintro ⟨natural, fits⟩
    have room : (view msg 8 (intAt msg 4).toNat).length ≤ MEDIA_BLOCK_SIZE := by
      rw [view_length]
      omega
    obtain ⟨block, made⟩ : ∃ block, Block.make (intAt msg 0) (view msg 8 (intAt msg 4).toNat) = some block :=
      ⟨_, dif_pos room⟩
    obtain ⟨id, data⟩ := Block.make_eq_some.mp made
    obtain ⟨next, stored, _⟩ := (seated.queue known).store block
    obtain ⟨after, slot, taken⟩ := getBlock_stores known stored id natural data
    exact ⟨_, taken⟩

theorem block_iff {peer : SuperPeer} (conn : Nat) (msg : Memory) (size : Int) (seated : AllSeated peer.sources) :
    (Within size ((blockReading peer conn).looks msg) ∧ ∃ result, getBlock peer conn msg = some result) ↔
      BlockFits peer conn msg size := by
  cases known : peer.sources.getBufferQueue (peer.chnlHash conn) with
  | none =>
    have called : peer.sources.queueBlock (peer.chnlHash conn) (intAt msg 4) = some (peer.sources, none) := by
      simp only [SourceMap.queueBlock, known]
    rw [getBlock_unknown msg known]
    simp only [blockReading, Reading.looks_lookInt, within_cons, called]
    constructor
    · rintro ⟨⟨_, _, fields, _⟩, empty⟩
      exact ⟨by omega, fun _ => empty, fun present => absurd known present⟩
    · intro fits
      have fields := fits.fields
      have empty := fits.unknown known
      rw [if_pos empty, Reading.looks_done]
      exact ⟨⟨by omega, by omega, by omega, within_nil _⟩, empty⟩
  | some queue =>
    have present : peer.sources.getBufferQueue (peer.chnlHash conn) ≠ none := by rw [known]; simp
    obtain ⟨queued, slot, called⟩ := seated.queueBlock known (intAt msg 4)
    rw [getBlock_known msg seated known]
    simp only [blockReading, Reading.looks_lookInt, within_cons, called, Reading.looks_copy, Reading.looks_ofOption]
    constructor
    · rintro ⟨⟨_, _, fields, copied⟩, natural, small⟩
      rw [if_neg (Int.not_lt.mpr natural), within_cons] at copied
      exact ⟨by omega, fun unknown => absurd unknown present, fun _ => ⟨natural, small, by omega⟩⟩
    · intro fits
      have fields := fits.fields
      obtain ⟨natural, small, inside⟩ := fits.known present
      rw [if_neg (Int.not_lt.mpr natural), within_cons]
      exact ⟨⟨by omega, by omega, by omega, by omega, within_nil _⟩, natural, small⟩

section Kinds

variable {md5 : List UInt8 → ByteArr MD5_LEN} {recorded : Recorded} {event : CsEvent}

theorem inBounds_unstored {stretches : List Stretch} {result : Option SuperPeer}
    (looks : looked md5 recorded.peer event = stretches)
    (stepped : step md5 recorded event = result.map fun peer => { recorded with peer }) :
    InBounds md5 recorded event ↔ Within event.message.size stretches ∧
      (event.message.msgType = CS2SP_REGISTER → 0 ∈ channelName event.message.msg) ∧
      ∃ after, result = some after := by
  rw [← looks]
  constructor
  · rintro ⟨within, ended, next, more, taken, _⟩
    obtain ⟨after, made, _⟩ := Option.map_eq_some_iff.mp (stepped ▸ taken)
    exact ⟨within, ended, after, made⟩
  · rintro ⟨within, ended, after, made⟩
    refine ⟨within, ended, { recorded with peer := after }, none, ?_, ?_, fun fill member => nomatch member⟩
    · rw [stepped, made]
      rfl
    · exact (List.append_nil _).symm

theorem inBounds_register (kind : event.message.msgType = CS2SP_REGISTER) :
    InBounds md5 recorded event ↔ RegisterFits event.message.msg event.message.size := by
  have looks : looked md5 recorded.peer event =
      (registerReading md5 recorded.peer event.conn event.around).looks event.message.msg := if_pos kind
  have stepped : step md5 recorded event = (getRegister md5 recorded.peer event.conn event.around
      event.message.msg).map fun peer => { recorded with peer } := if_pos kind
  rw [inBounds_unstored looks stepped, ← register_iff md5 recorded.peer event.conn event.around,
    forall_prop_of_true kind]

theorem inBounds_block (seated : AllSeated recorded.peer.sources) (kind : event.message.msgType = CS2SP_BLOCK) :
    InBounds md5 recorded event ↔ BlockFits recorded.peer event.conn event.message.msg event.message.size := by
  have other : event.message.msgType ≠ CS2SP_REGISTER := by
    rw [kind]
    decide
  have looks : looked md5 recorded.peer event = (blockReading recorded.peer event.conn).looks event.message.msg :=
    (if_neg other).trans (if_pos kind)
  have stepped : step md5 recorded event = (getBlock recorded.peer event.conn event.message.msg).map
      fun result => ⟨result.1, recorded.fills ++ result.2.toList⟩ := (if_neg other).trans (if_pos kind)
  rw [← block_iff event.conn event.message.msg event.message.size seated, ← looks]
  constructor
  · rintro ⟨within, _, next, more, taken, _⟩
    obtain ⟨result, made, _⟩ := Option.map_eq_some_iff.mp (stepped ▸ taken)
    exact ⟨within, result, made⟩
  · rintro ⟨within, ⟨after, more⟩, made⟩
    refine ⟨within, fun register => absurd register other, ⟨after, recorded.fills ++ more.toList⟩, more, ?_, rfl,
      getBlock_placed seated made⟩
    rw [stepped, made]
    rfl

theorem inBounds_mediatype (kind : event.message.msgType = CS2SP_MEDIA_TYPE) :
    InBounds md5 recorded event ↔ MediatypeFits recorded.peer event.conn event.message.msg event.message.size := by
  have other : event.message.msgType ≠ CS2SP_REGISTER ∧ event.message.msgType ≠ CS2SP_BLOCK := by
    rw [kind]
    decide
  have looks : looked md5 recorded.peer event =
      (mediatypeReading recorded.peer event.conn).looks event.message.msg :=
    (if_neg other.1).trans ((if_neg other.2).trans (if_pos kind))
  have stepped : step md5 recorded event = (getMediatype recorded.peer event.conn event.message.msg).map
      fun peer => { recorded with peer } := (if_neg other.1).trans ((if_neg other.2).trans (if_pos kind))
  rw [inBounds_unstored looks stepped, ← mediatype_iff, and_iff_right fun register => absurd register other.1]

theorem inBounds_iff (seated : AllSeated recorded.peer.sources) :
    InBounds md5 recorded event ↔ Fits recorded.peer event := by
  constructor
  · intro bounds
    exact ⟨fun kind => (inBounds_register kind).mp bounds, fun kind => (inBounds_block seated kind).mp bounds,
      fun kind => (inBounds_mediatype kind).mp bounds⟩
  · intro fits
    by_cases register : event.message.msgType = CS2SP_REGISTER
    · exact (inBounds_register register).mpr (fits.register register)
    by_cases block : event.message.msgType = CS2SP_BLOCK
    · exact (inBounds_block seated block).mpr (fits.block block)
    by_cases media : event.message.msgType = CS2SP_MEDIA_TYPE
    · exact (inBounds_mediatype media).mpr (fits.mediatype media)
    have looks : looked md5 recorded.peer event = [] :=
      (if_neg register).trans ((if_neg block).trans (if_neg media))
    have stepped : step md5 recorded event = (some recorded.peer).map fun peer => { recorded with peer } :=
      (if_neg register).trans ((if_neg block).trans (if_neg media))
    exact (inBounds_unstored looks stepped).mpr ⟨within_nil _, fun kind => absurd kind register, _, rfl⟩

theorem InBounds.determined (bounds : InBounds md5 recorded event) {other : Memory}
    (same : ∀ i : Nat, (i : Int) < event.message.size → event.message.msg i = other i) :
    step md5 recorded { event with message := { event.message with msg := other } } = step md5 recorded event := by
  have within := bounds.within
  simp only [looked] at within
  simp only [step, ← registerReading_run, ← blockReading_run, ← mediatypeReading_run]
  split_ifs at within ⊢
  · rw [Reading.run_of_within _ within same]
  · rw [Reading.run_of_within _ within same]
  · rw [Reading.run_of_within _ within same]
  · rfl

end Kinds

theorem allSeated_start (unset : Nat → MD5HashStr) : AllSeated (start unset).peer.sources := by
  intro entry member
  cases member

/-- Along every run the handlers stay in bounds as long as the sizes in the messages agree with the
messages, and no longer. -/
theorem in_bounds_iff_fits (md5 : List UInt8 → ByteArr MD5_LEN) (unset : Nat → MD5HashStr) (events : List CsEvent) :
    Along (step md5) (start unset) events (InBounds md5) ↔
      Along (step md5) (start unset) events fun recorded event => Fits recorded.peer event := by
  refine along_iff_of_invariant (fun recorded => AllSeated recorded.peer.sources) (allSeated_start unset)
    (fun recorded event seated => inBounds_iff seated) fun recorded event next seated _ taken => ?_
  exact (kept_seated md5).step seated taken

/-- A block of five bytes for a channel that nobody has registered goes through a null pointer. -/
theorem block_before_channel :
    ¬∀ events, Along (step digest) (start blank) events (InBounds digest) := by
  intro always
  have fits := (inBounds_iff (allSeated_start blank)).mp (always [blockEvent quiet 0 5] [] _ [] _ rfl rfl)
  have empty := (fits.block rfl).unknown rfl
  rw [blockEvent_size] at empty
  exact absurd empty (by decide)

end RabbitStreamer.Sp.CaptureBounds
