import Mathlib.Logic.Function.Basic
import RabbitStreamer.Core.Message
import RabbitStreamer.Protocol.Framing
import RabbitStreamer.Sp.SourceManager

/-! `RsCsSpProtocol`: what a super peer does with the messages of its capture servers. A message lies in
the receive buffer, and a read behind its end is taken to find bytes there, whatever they are. -/

namespace RabbitStreamer.Sp.CsConnector
open RabbitStreamer.Lib RabbitStreamer.Lib.Bytes RabbitStreamer.Lib.Memory
open RabbitStreamer.Core.Struct RabbitStreamer.Core.Message.P2PMESSAGE
open RabbitStreamer.Protocol.BufferQueue RabbitStreamer.Protocol.Framing RabbitStreamer.Sp.SourceManager

/-- A block that a capture server had stored: where and what. -/
structure Fill where
  hash : MD5HashStr
  slot : Nat
  block : Block

/-- The sources and, for each connection, the hash of the channel it registered. A connection
that has not registered yet holds whatever the heap held. -/
structure SuperPeer where
  sources : SourceMap
  chnlHash : Nat → MD5HashStr

/-- What the handlers take from their surroundings, besides the message: the clock and fresh
memory, and the bytes that happen to lie behind the unterminated channel name. -/
structure Around extends Surroundings where
  behindName : List UInt8

/-- `get_register`. The digest of the name is 32 hexadecimal characters. A negative size asks for
more memory than there is, and the copy into what `malloc` then returns is a fault. -/
def getRegister (md5 : List UInt8 → ByteArr MD5_LEN) (peer : SuperPeer) (conn : Nat) (around : Around)
    (msg : Memory) : Option SuperPeer :=
  let channelSize := (msg 0).toInt8.toInt
  if channelSize < 0 then none
  else
    let channelName := view msg 1 channelSize.toNat
    let hash : MD5HashStr := .ofMd5 (md5 channelName) (peer.chnlHash conn).blockInterval
    -- user id, password, block size, file size, bit rate and source flag are read and not used
    let behind := 1 + channelSize.toNat + 4 + MD5_LEN + 4 + 4 + 4 + 1
    let headerSize := intAt msg behind
    let name := (channelName ++ around.behindName).takeWhile (· ≠ 0)
    let created := peer.sources.createSource around.toSurroundings hash name true
    let known := Function.update peer.chnlHash conn hash
    if headerSize = 0 then some ⟨created, known⟩
    else if headerSize < 0 then none
    else some ⟨created.addHeader hash (view msg (behind + 4) headerSize.toNat), known⟩

/-- `get_mediatype`: the header behind its own size replaces that of the channel. -/
def getMediatype (peer : SuperPeer) (conn : Nat) (msg : Memory) : Option SuperPeer :=
  let mediatypeSize := intAt msg 0
  match peer.sources.getBufferQueue (peer.chnlHash conn) with
  | none => some peer
  | some _ =>
      if mediatypeSize < 0 then none
      else some { peer with
        sources := peer.sources.addHeader (peer.chnlHash conn) (view msg 4 mediatypeSize.toNat) }

/-- `get_block`: the block starts at the data offset field. With the new peer comes the record
of what was stored. A copy of more than a slot, or through a null pointer, is a fault. -/
def getBlock (peer : SuperPeer) (conn : Nat) (msg : Memory) : Option (SuperPeer × Option Fill) := do
  let hash := peer.chnlHash conn
  let blockId := intAt msg 0
  let blockSize := intAt msg 4
  let (queued, blockData) ← peer.sources.queueBlock hash blockSize
  match blockData with
  | none => if blockSize = 0 then pure (peer, none) else none
  | some slot =>
      if blockSize < 0 then none
      else do
        let block ← Block.make blockId (view msg 8 blockSize.toNat)
        let copied ← queued.copyBlock hash slot block.data
        let published ← copied.setBlockAvailable hash block.id
        pure ({ peer with sources := published }, some ⟨hash, slot, block⟩)

/-- A message of a capture server connection, as the receive loop hands it over. -/
structure CsEvent where
  conn : Nat
  message : Message
  around : Around

/-- The super peer with the log of the blocks stored so far, oldest first. -/
structure Recorded where
  peer : SuperPeer
  fills : List Fill

def start (unset : Nat → MD5HashStr) : Recorded := ⟨⟨.empty, unset⟩, []⟩

/-- The dispatch in `RsCsSpProtocol::loop`; no state is left after a fault. -/
def step (md5 : List UInt8 → ByteArr MD5_LEN) (recorded : Recorded) (event : CsEvent) : Option Recorded :=
  let msgType := event.message.msgType
  let msg := event.message.msg
  if msgType = CS2SP_REGISTER then
    (getRegister md5 recorded.peer event.conn event.around msg).map fun peer => { recorded with peer }
  else if msgType = CS2SP_BLOCK then
    (getBlock recorded.peer event.conn msg).map fun (peer, fill) => ⟨peer, recorded.fills ++ fill.toList⟩
  else if msgType = CS2SP_MEDIA_TYPE then
    (getMediatype recorded.peer event.conn msg).map fun peer => { recorded with peer }
  else some recorded

def onChannel (fills : List Fill) (hash : MD5HashStr) : List Fill :=
  fills.filter fun fill => fill.hash.rank = hash.rank

def lastFill (fills : List Fill) (hash : MD5HashStr) (slot : Nat) : Option Fill :=
  (onChannel fills hash).reverse.find? fun fill => fill.slot = slot

theorem getBlock_cases {peer after : SuperPeer} {conn : Nat} {msg : Memory} {fill : Option Fill}
    (taken : getBlock peer conn msg = some (after, fill)) :
    after = peer ∧ fill = none ∨
    ∃ queue next slot block, peer.sources.getBufferQueue (peer.chnlHash conn) = some queue ∧
      storeBlock queue block = some next ∧ queue.slotAt queue.queueIndex = some slot ∧
      block.id = intAt msg 0 ∧ block.data = view msg 8 (intAt msg 4).toNat ∧
      after = { peer with sources := peer.sources.adjust (peer.chnlHash conn) fun _ => next } ∧
      fill = some ⟨peer.chnlHash conn, slot, block⟩ := by
  simp only [getBlock, Option.pure_def, Option.bind_eq_bind, Option.bind_eq_some_iff] at taken
  obtain ⟨⟨queued, blockData⟩, called, rest⟩ := taken
  cases blockData with
  | none =>
    simp only [Option.ite_none_right_eq_some, Option.some.injEq, Prod.mk.injEq] at rest
    exact Or.inl ⟨rest.2.1.symm, rest.2.2.symm⟩
  | some slot =>
    simp only [Option.ite_none_left_eq_some, Option.bind_eq_some_iff, Block.make_eq_some, Option.some.injEq,
      Prod.mk.injEq] at rest
    obtain ⟨_, block, ⟨id, data⟩, copied, written, published, made, same, record⟩ := rest
    obtain ⟨queue, next, known, stored, place, result⟩ := round_of_store called written made
    exact Or.inr ⟨queue, next, slot, block, known, stored, place, id, data, by rw [← same, result], record.symm⟩

theorem getBlock_stores {peer : SuperPeer} {conn : Nat} {msg : Memory} {queue next : RsBufferQueue} {block : Block}
    (known : peer.sources.getBufferQueue (peer.chnlHash conn) = some queue)
    (stored : storeBlock queue block = some next) (id : block.id = intAt msg 0)
    (natural : 0 ≤ intAt msg 4) (data : block.data = view msg 8 (intAt msg 4).toNat) :
    ∃ after slot, getBlock peer conn msg = some (after, some ⟨peer.chnlHash conn, slot, block⟩) := by
  obtain ⟨queued, slot, copied, called, _, written, made⟩ := store_round known stored (intAt msg 4)
  refine ⟨⟨peer.sources.adjust (peer.chnlHash conn) fun _ => next, peer.chnlHash⟩, slot, ?_⟩
  simp only [getBlock, called, Option.pure_def, Option.bind_eq_bind, Option.bind_some,
    if_neg (Int.not_lt.mpr natural), Block.make_eq_some.mpr ⟨id, data⟩, written, made]

structure Kept (md5 : List UInt8 → ByteArr MD5_LEN) (holds : SourceMap → List Fill → Prop) : Prop where
  create : ∀ {sources fills}, holds sources fills → ∀ around channelName blockInterval name,
    holds (sources.createSource around (.ofMd5 (md5 channelName) blockInterval) name true) fills
  header : ∀ {sources fills}, holds sources fills → ∀ hash header, holds (sources.addHeader hash header) fills
  store : ∀ {sources fills}, holds sources fills → ∀ {hash queue next slot block},
    sources.getBufferQueue hash = some queue → storeBlock queue block = some next →
    queue.slotAt queue.queueIndex = some slot → IsInt32 block.id →
    holds (sources.adjust hash fun _ => next) (fills ++ [⟨hash, slot, block⟩])

section Step

variable {md5 : List UInt8 → ByteArr MD5_LEN} {recorded next : Recorded} {event : CsEvent}

theorem Kept.step {holds : SourceMap → List Fill → Prop} (kept : Kept md5 holds)
    (before : holds recorded.peer.sources recorded.fills) (taken : step md5 recorded event = some next) :
    holds next.peer.sources next.fills := by
  simp only [CsConnector.step] at taken
  split_ifs at taken
  · obtain ⟨after, made, rfl⟩ := Option.map_eq_some_iff.mp taken
    simp only [getRegister] at made
    split_ifs at made
    · cases made
      exact kept.create before _ _ _ _
    · cases made
      exact kept.header (kept.create before _ _ _ _) _ _
  · obtain ⟨result, made, rfl⟩ := Option.map_eq_some_iff.mp taken
    rcases getBlock_cases made with ⟨peer, fill⟩ |
      ⟨queue, round, slot, block, known, stored, place, id, _, peer, fill⟩
    · rw [peer, fill, Option.toList_none, List.append_nil]
      exact before
    · rw [peer, fill, Option.toList_some]
      exact kept.store before known stored place (id ▸ isInt32_intAt _ _)
  · obtain ⟨after, made, rfl⟩ := Option.map_eq_some_iff.mp taken
    simp only [getMediatype] at made
    split at made
    · cases made
      exact before
    · split_ifs at made
      cases made
      exact kept.header before _ _
  · cases taken
    exact before

theorem step_fills (taken : step md5 recorded event = some next) :
    ∃ more : Option Fill, next.fills = recorded.fills ++ more.toList := by
  simp only [CsConnector.step] at taken
  split_ifs at taken
  · obtain ⟨_, _, rfl⟩ := Option.map_eq_some_iff.mp taken
    exact ⟨none, (List.append_nil _).symm⟩
  · obtain ⟨result, _, rfl⟩ := Option.map_eq_some_iff.mp taken
    exact ⟨result.2, rfl⟩
  · obtain ⟨_, _, rfl⟩ := Option.map_eq_some_iff.mp taken
    exact ⟨none, (List.append_nil _).symm⟩
  · cases taken
    exact ⟨none, (List.append_nil _).symm⟩

theorem Kept.run {holds : SourceMap → List Fill → Prop} (kept : Kept md5 holds) {unset : Nat → MD5HashStr}
    {events : List CsEvent} (initial : holds .empty []) {final : Recorded}
    (ran : Transition.run (CsConnector.step md5) (start unset) events = some final) :
    holds final.peer.sources final.fills :=
  Transition.run_invariant (fun recorded => holds recorded.peer.sources recorded.fills)
    (fun _ _ _ before taken => kept.step before taken) initial ran

end Step

end RabbitStreamer.Sp.CsConnector
