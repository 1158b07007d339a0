import RabbitStreamer.Lib.Interleaving
import RabbitStreamer.Sp.ChannelDigest
import RabbitStreamer.Sp.Idle
import RabbitStreamer.Sp.MediaHeader

/-! A super peer between the byte streams of its capture servers and those of its normal peers: what
the bytes that come in have to do with those that go out. -/

namespace RabbitStreamer.Sp.Streams
open RabbitStreamer.Lib RabbitStreamer.Lib.Bytes RabbitStreamer.Lib.Codec RabbitStreamer.Lib.Memory
open RabbitStreamer.Lib.Transition RabbitStreamer.Lib.Interleaving RabbitStreamer.Lib.SlidingWindow
open RabbitStreamer.Core.Struct RabbitStreamer.Core.Streamer RabbitStreamer.Core.Buffer
  RabbitStreamer.Core.Buffer.RsBuffer
open RabbitStreamer.Core.Message RabbitStreamer.Core.Message.P2PMESSAGE
open RabbitStreamer.Protocol.BufferQueue RabbitStreamer.Protocol.Framing RabbitStreamer.Sp.SourceManager
open RabbitStreamer.Sp.CsConnector RabbitStreamer.Sp.NpConnector RabbitStreamer.Sp.BlockRelay
open RabbitStreamer.Sp.ChannelDigest
open RabbitStreamer.Sp.Idle (IDLE_LIMIT)
open RabbitStreamer.Sp.MediaHeader (readPushList sendOneBlock_eq_none)
open RabbitStreamer.Sp.ChannelIdentity (requested)

abbrev Content := UInt8 × List UInt8

structure Normal where
  conn : Connection
  loopFlag : Bool
  proto : RsNpSpProtocol
  sent : List Sent

/-- All the connections, with the messages dispatched so far on those of the capture servers and on
those of the normal peers, oldest first. -/
structure World where
  recorded : Recorded
  capture : Nat → Connection
  normal : Nat → Normal
  noReceiveCounter : Nat
  arrived : List (Nat × Content)
  asked : List (Nat × Content)

/-- A turn of the loop of either protocol, and a normal peer's thread going on after a write. -/
inductive Event where
  | capture (conn : Nat) (around : Around)
  | normal (conn : Nat) (heap : Heap) (unset : Unset)
  | resume (conn : Nat) (heap : Heap)

/-- What arrives on a connection, in which pieces, and the memory of its new buffer. -/
structure Arriving where
  memory : Memory
  frames : List Frame
  splits : List Nat

def Arriving.conn (arriving : Arriving) : Connection :=
  ⟨.init arriving.memory, ⟨arriving.frames.flatMap Frame.encode, arriving.splits⟩⟩

def World.start (unset : Nat → MD5HashStr) (capture normal : Nat → Arriving) : World where
  recorded := CsConnector.start unset
  capture conn := (capture conn).conn
  normal conn := ⟨(normal conn).conn, true, .init, []⟩
  noReceiveCounter := 0
  arrived := []
  asked := []

def captureTurn (world : World) (conn : Nat) (around : Around) : Option World :=
  match readMessage (world.capture conn) with
  | .error _ => none
  | .ok (_, next, none) => some { world with capture := Function.update world.capture conn next }
  | .ok (_, next, some message) =>
      (CsConnector.step channelHash world.recorded ⟨conn, message, around⟩).map fun recorded => { world with
        recorded
        capture := Function.update world.capture conn next
        arrived := world.arrived ++ [(conn, message.content)] }

def Normal.goOn (normal : Normal) (pushed : Except Halt (RsNpSpProtocol × Option Sent)) : Option Normal :=
  pushed.toOption.map fun result => { normal with
    proto := result.1
    sent := normal.sent ++ result.2.toList }

/-- The dispatch in `RsNpSpProtocol::loop`. -/
def Normal.dispatch (normal : Normal) (sources : SourceMap) (heap : Heap) (unset : Unset) (message : Message) :
    Option Normal :=
  if message.msgType ≠ SP2SP_PUSHLIST then some normal
  else normal.goOn (readPushList message >>= getPushList normal.proto sources heap unset)

/-- `RsNpSpProtocol::loop`. A thread that is not through with its last message, or has left its loop,
takes no turn. -/
def normalTurn (world : World) (conn : Nat) (heap : Heap) (unset : Unset) : Option World :=
  let normal := world.normal conn
  if normal.loopFlag = false ∨ normal.proto.pushing ≠ none then none
  else
    match readMessage normal.conn with
    | .error _ => none
    | .ok (_, next, none) =>
        let full := world.noReceiveCounter + 1 = IDLE_LIMIT
        some { world with
          normal := Function.update world.normal conn { normal with conn := next, loopFlag := !full }
          noReceiveCounter := if full then 0 else world.noReceiveCounter + 1 }
    | .ok (_, next, some message) =>
        (Normal.dispatch { normal with conn := next } world.recorded.peer.sources heap unset message).map
          fun after => { world with
            normal := Function.update world.normal conn after
            asked := world.asked ++ [(conn, message.content)] }

def step (world : World) : Event → Option World
  | .capture conn around => captureTurn world conn around
  | .normal conn heap unset => normalTurn world conn heap unset
  | .resume conn heap =>
      let normal := world.normal conn
      match normal.proto.pushing with
      | none => none
      | some (resourceMd5, ids) =>
          (normal.goOn (pushOn normal.proto world.recorded.peer.sources heap resourceMd5 ids)).map fun after =>
            { world with normal := Function.update world.normal conn after }

def Roomy (world : World) : Event → Prop
  | .capture conn _ => ¬CrampedBody (world.capture conn)
  | .normal conn _ _ => ¬CrampedBody (world.normal conn).conn
  | .resume .. => True

def nameIn (body : List UInt8) : List UInt8 := (body.drop 1).take (body.headD 0).toInt8.toInt.toNat

def channelIn (body : List UInt8) : List Nat := (requested (channelHash (nameIn body))).rank

def idIn (body : List UInt8) : Int := toInt32 (ofLe32 (body.take 4))

def dataIn (body : List UInt8) : List UInt8 :=
  (body.drop 8).take (toInt32 (ofLe32 ((body.drop 4).take 4))).toNat

def Complete (content : Content) : Prop :=
  (content.1 = CS2SP_REGISTER → content.2 ≠ [] ∧ 1 + (content.2.headD 0).toInt8.toInt.toNat ≤ content.2.length) ∧
  (content.1 = CS2SP_BLOCK → 8 + (toInt32 (ofLe32 ((content.2.drop 4).take 4))).toNat ≤ content.2.length)

instance (content : Content) : Decidable (Complete content) := inferInstanceAs (Decidable (_ ∧ _))

structure Piece where
  channel : List Nat
  id : Int
  data : List UInt8
  deriving DecidableEq

/-- What the messages of capture servers come to: the channel of each connection, the channels that
there are, and the blocks in the order of their arrival. -/
structure Feed where
  channelOn : Nat → List Nat
  channels : List (List Nat)
  pieces : List Piece

def Feed.receive (feed : Feed) (conn : Nat) (content : Content) : Feed :=
  if content.1 = CS2SP_REGISTER then { feed with
    channelOn := Function.update feed.channelOn conn (channelIn content.2)
    channels := channelIn content.2 :: feed.channels }
  else if content.1 = CS2SP_BLOCK ∧ feed.channelOn conn ∈ feed.channels then
    { feed with pieces := feed.pieces ++ [⟨feed.channelOn conn, idIn content.2, dataIn content.2⟩] }
  else feed

def feedOf (unset : Nat → MD5HashStr) (arrived : List (Nat × Content)) : Feed :=
  arrived.foldl (fun feed arrival => feed.receive arrival.1 arrival.2) ⟨fun conn => (unset conn).rank, [], []⟩

theorem feedOf_snoc (unset : Nat → MD5HashStr) (arrived : List (Nat × Content)) (conn : Nat) (content : Content) :
    feedOf unset (arrived ++ [(conn, content)]) = (feedOf unset arrived).receive conn content := by
  rw [feedOf, List.foldl_append]
  rfl

def piecesOn (pieces : List Piece) (channel : List Nat) : List Piece :=
  pieces.filter fun piece => piece.channel = channel

def pieceOf (fill : Fill) : Piece := ⟨fill.hash.rank, fill.block.id, fill.block.data⟩

structure Carries (recorded : Recorded) (feed : Feed) : Prop where
  channelOn : ∀ conn, (recorded.peer.chnlHash conn).rank = feed.channelOn conn
  channels : ∀ hash, Known recorded.peer.sources hash ↔ hash.rank ∈ feed.channels
  pieces : recorded.fills.map pieceOf = feed.pieces

theorem carries_start (unset : Nat → MD5HashStr) : Carries (CsConnector.start unset) (feedOf unset []) where
  channelOn _ := rfl
  channels hash := by simp [Known, CsConnector.start, OrderedMap.empty, OrderedMap.find, feedOf]
  pieces := rfl

section Message

variable {message : Message} {recorded next : Recorded} {feed : Feed} {conn : Nat} {around : Around}

theorem head_of_content (nonempty : message.content.2 ≠ []) : message.content.2.headD 0 = message.msg 0 := by
  have width : 0 < message.size.toNat := by
    rw [← view_length message.msg 0 message.size.toNat]
    exact List.length_pos_of_ne_nil nonempty
  obtain ⟨more, same⟩ := Nat.exists_eq_add_of_le width
  show (view message.msg 0 message.size.toNat).headD 0 = _
  rw [same, view_append]
  rfl

theorem inside_content {start count : Nat} (inside : start + count ≤ message.content.2.length) :
    view message.msg start count = (message.content.2.drop start).take count := by
  rw [Message.content, view_length] at inside
  exact view_inside message.msg inside

theorem nameIn_content (complete : Complete message.content) (register : message.msgType = CS2SP_REGISTER) :
    view message.msg 1 (message.msg 0).toInt8.toInt.toNat = nameIn message.content.2 := by
  obtain ⟨nonempty, inside⟩ := complete.1 register
  rw [head_of_content nonempty] at inside
  rw [inside_content inside, nameIn, head_of_content nonempty]

theorem block_content (complete : Complete message.content) (block : message.msgType = CS2SP_BLOCK) :
    intAt message.msg 0 = idIn message.content.2 ∧
      view message.msg 8 (intAt message.msg 4).toNat = dataIn message.content.2 := by
  have inside := complete.2 block
  have size : intAt message.msg 4 = toInt32 (ofLe32 ((message.content.2.drop 4).take 4)) := by
    rw [intAt, inside_content (by omega)]
  rw [dataIn, ← size]
  rw [← size] at inside
  refine ⟨?_, inside_content inside⟩
  rw [intAt, inside_content (by omega), List.drop_zero, idIn]

theorem getBlock_nothing {peer after : SuperPeer} {msg : Memory}
    (taken : getBlock peer conn msg = some (after, none)) :
    ¬Known peer.sources (peer.chnlHash conn) := by
  simp only [getBlock, Option.pure_def, Option.bind_eq_bind, Option.bind_eq_some_iff] at taken
  obtain ⟨⟨queued, blockData⟩, called, rest⟩ := taken
  cases blockData with
  | none =>
    rintro ⟨entry, found⟩
    have known : peer.sources.getBufferQueue (peer.chnlHash conn) = some entry.2 :=
      getBufferQueue_eq_some.mpr ⟨entry.1, found⟩
    simp only [SourceMap.queueBlock, known, Option.pure_def, Option.bind_eq_bind, Option.bind_eq_some_iff] at called
    obtain ⟨_, _, same⟩ := called
    cases same
  | some slot =>
    simp only [Option.ite_none_left_eq_some, Option.bind_eq_some_iff] at rest
    obtain ⟨_, _, _, _, _, _, _, same⟩ := rest
    cases same

theorem chnlHash_step {md5 : List UInt8 → ByteArr MD5_LEN} {event : CsEvent}
    (taken : CsConnector.step md5 recorded event = some next) (plain : event.message.msgType ≠ CS2SP_REGISTER) :
    next.peer.chnlHash = recorded.peer.chnlHash := by
  simp only [CsConnector.step, if_neg plain] at taken
  split_ifs at taken
  · obtain ⟨result, made, rfl⟩ := Option.map_eq_some_iff.mp taken
    rcases getBlock_cases made with ⟨peer, _⟩ | ⟨_, _, _, _, _, _, _, _, _, peer, _⟩
    · rw [peer]
    · rw [peer]
  · obtain ⟨after, made, rfl⟩ := Option.map_eq_some_iff.mp taken
    simp only [getMediatype] at made
    split at made
    · cases made
      rfl
    · split_ifs at made
      cases made
      rfl
  · cases taken
    rfl

theorem registered_step {md5 : List UInt8 → ByteArr MD5_LEN} {event : CsEvent}
    (taken : CsConnector.step md5 recorded event = some next) (register : event.message.msgType = CS2SP_REGISTER) :
    next.fills = recorded.fills ∧ ∃ blockInterval, next.peer.chnlHash =
      Function.update recorded.peer.chnlHash event.conn (.ofMd5 (md5 (view event.message.msg 1
        (event.message.msg 0).toInt8.toInt.toNat)) blockInterval) := by
  simp only [CsConnector.step, if_pos register] at taken
  obtain ⟨after, made, rfl⟩ := Option.map_eq_some_iff.mp taken
  simp only [getRegister] at made
  split_ifs at made <;> cases made <;> exact ⟨rfl, _, rfl⟩

theorem carries_register (carries : Carries recorded feed) (complete : Complete message.content)
    (register : message.msgType = CS2SP_REGISTER)
    (taken : CsConnector.step channelHash recorded ⟨conn, message, around⟩ = some next) :
    Carries next (feed.receive conn message.content) := by
  have type : message.content.1 = CS2SP_REGISTER := register
  obtain ⟨fills, blockInterval, named⟩ := registered_step taken register
  have known := known_step taken
  have name : registeredName ⟨conn, message, around⟩ = some (nameIn message.content.2) := by
    rw [registeredName, if_pos register, nameIn_content complete register]
  rw [nameIn_content complete register] at named
  rw [Feed.receive, if_pos type]
  refine ⟨fun other => ?_, fun hash => ?_, ?_⟩
  · show _ = Function.update feed.channelOn conn (channelIn message.content.2) other
    rw [named]
    by_cases self : other = conn
    · subst self
      rw [Function.update_self, Function.update_self]
      rfl
    · rw [Function.update_of_ne self, Function.update_of_ne self]
      exact carries.channelOn other
  · rw [known, carries.channels, name, List.mem_cons, or_comm]
    simp only [Option.some.injEq, exists_eq_left']
    rfl
  · rw [fills]
    exact carries.pieces

theorem carries_block (carries : Carries recorded feed) (complete : Complete message.content)
    (block : message.msgType = CS2SP_BLOCK)
    (taken : CsConnector.step channelHash recorded ⟨conn, message, around⟩ = some next) :
    Carries next (feed.receive conn message.content) := by
  have type : message.content.1 = CS2SP_BLOCK := block
  have other : CS2SP_BLOCK ≠ CS2SP_REGISTER := by decide
  obtain ⟨id, data⟩ := block_content complete block
  have hashes := chnlHash_step taken (by rw [block]; exact other)
  have known := known_step taken
  have unnamed : registeredName ⟨conn, message, around⟩ = none := by
    rw [registeredName, if_neg (by rw [block]; exact other)]
  simp only [unnamed, reduceCtorEq, false_and, exists_false, or_false] at known
  have listed := carries.channels (recorded.peer.chnlHash conn)
  rw [carries.channelOn] at listed
  simp only [CsConnector.step, block, if_neg other, if_true] at taken
  obtain ⟨⟨after, fill⟩, made, rfl⟩ := Option.map_eq_some_iff.mp taken
  have pieces : recorded.fills.map pieceOf ++ fill.toList.map pieceOf =
      (feed.receive conn message.content).pieces := by
    rw [Feed.receive, if_neg (by rw [type]; exact other), carries.pieces]
    rcases getBlock_cases made with ⟨_, rfl⟩ | ⟨queue, _, slot, block, stores, _, _, sameId, sameData, _, rfl⟩
    · rw [if_neg fun both => getBlock_nothing made (listed.mpr both.2)]
      exact List.append_nil _
    · obtain ⟨key, found⟩ := getBufferQueue_eq_some.mp stores
      rw [if_pos ⟨type, listed.mp ⟨_, found⟩⟩]
      show _ ++ [pieceOf _] = _
      rw [pieceOf, carries.channelOn, sameId, sameData, id, data]
  have rest : (feed.receive conn message.content).channelOn = feed.channelOn ∧
      (feed.receive conn message.content).channels = feed.channels := by
    rw [Feed.receive, if_neg (by rw [type]; exact other)]
    split_ifs <;> exact ⟨rfl, rfl⟩
  refine ⟨fun other => ?_, fun hash => ?_, ?_⟩
  · rw [rest.1, ← carries.channelOn]
    exact congrArg MD5HashStr.rank (congrFun hashes other)
  · rw [rest.2, ← carries.channels]
    exact known hash
  · rw [← pieces, List.map_append]

theorem carries_step (carries : Carries recorded feed) (complete : Complete message.content)
    (taken : CsConnector.step channelHash recorded ⟨conn, message, around⟩ = some next) :
    Carries next (feed.receive conn message.content) := by
  by_cases register : message.msgType = CS2SP_REGISTER
  · exact carries_register carries complete register taken
  · by_cases block : message.msgType = CS2SP_BLOCK
    · exact carries_block carries complete block taken
    · have still : feed.receive conn message.content = feed := by
        rw [Feed.receive, if_neg (show ¬message.content.1 = _ from register), if_neg fun both => block both.1]
      have known := known_step taken
      have unnamed : registeredName ⟨conn, message, around⟩ = none := if_neg register
      simp only [unnamed, reduceCtorEq, false_and, exists_false, or_false] at known
      have fills : next.fills = recorded.fills := by
        simp only [CsConnector.step, if_neg register, if_neg block] at taken
        split_ifs at taken
        · obtain ⟨_, _, rfl⟩ := Option.map_eq_some_iff.mp taken
          rfl
        · cases taken
          rfl
      rw [still]
      refine ⟨fun other => ?_, fun hash => (known hash).trans (carries.channels hash), ?_⟩
      · rw [chnlHash_step taken register]
        exact carries.channelOn other
      · rw [fills]
        exact carries.pieces

end Message

theorem piecesOn_map (fills : List Fill) (hash : MD5HashStr) :
    piecesOn (fills.map pieceOf) hash.rank = (onChannel fills hash).map pieceOf := by
  rw [piecesOn, List.filter_map]
  rfl

/-- The data of a response start with the block that arrived on the channel as the one of its id. -/
def Genuine (pieces : List Piece) (resourceMd5 : ByteArr MD5_LEN) (id : UInt32) (data : List UInt8) : Prop :=
  data.length = MEDIA_BLOCK_SIZE ∧ ∃ (k : Nat) (piece : Piece), toInt32 id = k ∧
    (piecesOn pieces (requested resourceMd5).rank)[k]? = some piece ∧ piece.data <+: data

theorem Genuine.grow {pieces more : List Piece} {resourceMd5 : ByteArr MD5_LEN} {id : UInt32} {data : List UInt8}
    (genuine : Genuine pieces resourceMd5 id data) (grown : pieces <+: more) : Genuine more resourceMd5 id data := by
  obtain ⟨size, k, piece, position, present, starts⟩ := genuine
  obtain ⟨inside, _⟩ := List.getElem?_eq_some_iff.mp present
  obtain ⟨behind, rfl⟩ := grown
  refine ⟨size, k, piece, position, ?_, starts⟩
  rw [piecesOn, List.filter_append]
  exact (List.getElem?_append_left inside).trans present

/-- What goes out for one push list: a media type, perhaps, and some of the blocks. -/
structure Answer where
  pushList : Sp2SpPushList
  introduction : Option (Sp2SpMediatype × List UInt8)
  blocks : List (UInt32 × List UInt8)

def Answer.response (answer : Answer) (block : UInt32 × List UInt8) : Sent :=
  .response answer.pushList.resourceMd5 (responseFrame answer.pushList.resourceMd5 block.1 block.2)

def Answer.sent (answer : Answer) : List Sent :=
  (answer.introduction.map fun message => .mediatype message.1 message.2).toList ++ answer.blocks.map answer.response

/-- Blocks of the list in ascending order, each of them the one of its id. -/
structure Answer.Sound (pieces : List Piece) (answer : Answer) : Prop where
  ordered : (answer.blocks.map Prod.fst).Sublist (sortedBlocks answer.pushList)
  genuine : ∀ block ∈ answer.blocks, Genuine pieces answer.pushList.resourceMd5 block.1 block.2

def Pending (answers : List Answer) (pushing : Option (ByteArr MD5_LEN × List UInt32)) : Prop :=
  ∀ resourceMd5 ids, pushing = some (resourceMd5, ids) → ∃ before last gone, answers = before ++ [last] ∧
    last.pushList.resourceMd5 = resourceMd5 ∧ sortedBlocks last.pushList = gone ++ ids ∧
    (last.blocks.map Prod.fst).Sublist gone

structure Answered (pieces : List Piece) (pushLists : List Sp2SpPushList) (sent : List Sent)
    (pushing : Option (ByteArr MD5_LEN × List UInt32)) (answers : List Answer) : Prop where
  asked : answers.map Answer.pushList = pushLists
  wire : sent = answers.flatMap Answer.sent
  sound : ∀ answer ∈ answers, answer.Sound pieces
  pending : Pending answers pushing

theorem Answered.grow {pieces more : List Piece} {pushLists : List Sp2SpPushList} {sent : List Sent}
    {pushing : Option (ByteArr MD5_LEN × List UInt32)} {answers : List Answer}
    (answered : Answered pieces pushLists sent pushing answers) (grown : pieces <+: more) :
    Answered more pushLists sent pushing answers where
  asked := answered.asked
  wire := answered.wire
  sound answer member :=
    ⟨(answered.sound answer member).ordered,
    fun block present => ((answered.sound answer member).genuine block present).grow grown⟩
  pending := answered.pending

/-- No channel has more blocks than an `int` counts. -/
def Few (fills : List Fill) : Prop := ∀ hash, (onChannel fills hash).length < 2147483648

theorem Few.of_grown {fills more : List Fill} (few : Few more) (grown : fills <+: more) : Few fills :=
  fun hash => Nat.lt_of_le_of_lt (onChannel_grows grown hash).length_le (few hash)

section Push

variable {sources : SourceMap} {fills : List Fill} {heap : Heap} {resourceMd5 : ByteArr MD5_LEN}

def There (fills : List Fill) (resourceMd5 : ByteArr MD5_LEN) (id : UInt32) : Prop :=
  (oldest MAX_BUFFER_SIZE (onChannel fills (requested resourceMd5)).length : Int) ≤ toInt32 id ∧
    toInt32 id < (onChannel fills (requested resourceMd5)).length

theorem genuine_of_sent (consistent : Consistent sources fills) (few : Few fills) {id : UInt32} {payload : List UInt8}
    (sent : sendOneBlock sources heap resourceMd5 id = .ok (some payload)) :
    ∃ data, payload = responseFrame resourceMd5 id data ∧ Genuine (fills.map pieceOf) resourceMd5 id data := by
  obtain ⟨code, slot, buf, found, packed⟩ := sendOneBlock_eq_some sent
  obtain ⟨k, fill, position, present, _, stores, size⟩ := consistent.found (few _) found
  rw [pack_blockResponse heap resourceMd5 id size] at packed
  cases packed
  refine ⟨buf.buffer.data, rfl, buf.buffer.size, k, pieceOf fill, position, ?_, stores.data⟩
  rw [piecesOn_map, List.getElem?_map, present]
  rfl

theorem not_there_of_unsent (consistent : Consistent sources fills) (few : Few fills) {id : UInt32}
    (unsent : sendOneBlock sources heap resourceMd5 id = .ok none) : ¬There fills resourceMd5 id := by
  rintro ⟨recent, inside⟩
  obtain ⟨k, position⟩ := Int.eq_ofNat_of_zero_le (Int.le_trans (Int.natCast_nonneg _) recent)
  rw [position] at recent inside
  have at_k := List.getElem?_eq_getElem (Int.ofNat_lt.mp inside)
  obtain ⟨slot, buf, found, _⟩ := found_of_taken consistent (few _) at_k (Int.ofNat_le.mp recent)
  obtain ⟨code, nothing⟩ := sendOneBlock_eq_none unsent
  rw [position] at nothing
  cases nothing.symm.trans found

theorem sendPushList_cases (consistent : Consistent sources fills) (few : Few fills) {ids rest : List UInt32}
    {payload : Option (List UInt8)} (pushed : sendPushList sources heap resourceMd5 ids = .ok (payload, rest)) :
    payload = none ∧ rest = [] ∧ (∀ id ∈ ids, ¬There fills resourceMd5 id) ∨
    ∃ passed id data, ids = passed ++ id :: rest ∧ payload = some (responseFrame resourceMd5 id data) ∧
      Genuine (fills.map pieceOf) resourceMd5 id data ∧ ∀ other ∈ passed, ¬There fills resourceMd5 other := by
  induction ids with
  | nil =>
    cases pushed
    exact Or.inl ⟨rfl, rfl, by simp⟩
  | cons id later ih =>
    unfold sendPushList at pushed
    split at pushed
    next => cases pushed
    next unsent =>
      have missing := not_there_of_unsent consistent few unsent
      rcases ih pushed with ⟨nothing, ended, all⟩ | ⟨passed, found, data, rfl, sent, genuine, all⟩
      · exact Or.inl ⟨nothing, ended, List.forall_mem_cons.mpr ⟨missing, all⟩⟩
      · exact Or.inr ⟨id :: passed, found, data, rfl, sent, genuine, List.forall_mem_cons.mpr ⟨missing, all⟩⟩
    next bytes sent =>
      cases pushed
      obtain ⟨data, rfl, genuine⟩ := genuine_of_sent consistent few sent
      exact Or.inr ⟨[], id, data, rfl, rfl, genuine, by simp⟩

variable {pushLists : List Sp2SpPushList} {sent : List Sent} {answers : List Answer} {proto after : RsNpSpProtocol}
  {out : Option Sent}

theorem pushOn_cases {ids : List UInt32} (consistent : Consistent sources fills) (few : Few fills)
    (pushed : NpConnector.pushOn proto sources heap resourceMd5 ids = .ok (after, out)) :
    after.pushing = none ∧ out = none ∧ (∀ id ∈ ids, ¬There fills resourceMd5 id) ∨
    ∃ passed id rest data, ids = passed ++ id :: rest ∧ after.pushing = some (resourceMd5, rest) ∧
      out = some (.response resourceMd5 (responseFrame resourceMd5 id data)) ∧
      Genuine (fills.map pieceOf) resourceMd5 id data ∧ ∀ other ∈ passed, ¬There fills resourceMd5 other := by
  obtain ⟨payload, rest, looked, taken⟩ := pushOn_eq_ok pushed
  rcases sendPushList_cases consistent few looked with ⟨rfl, _, all⟩ | ⟨passed, id, data, rfl, rfl, genuine, all⟩
  · obtain ⟨_, rfl, rfl⟩ | ⟨bytes, other, _⟩ := taken
    · exact Or.inl ⟨rfl, rfl, all⟩
    · cases other
  · obtain ⟨other, _⟩ | ⟨bytes, same, rfl, rfl⟩ := taken
    · cases other
    · cases same
      exact Or.inr ⟨passed, id, rest, data, rfl, rfl, rfl, genuine, all⟩

theorem Answer.Sound.extend {pieces : List Piece} {answer : Answer} (sound : answer.Sound pieces)
    {gone rest : List UInt32}
    {id : UInt32} {data : List UInt8} (split : sortedBlocks answer.pushList = gone ++ id :: rest)
    (order : (answer.blocks.map Prod.fst).Sublist gone)
    (genuine : Genuine pieces answer.pushList.resourceMd5 id data) :
    Answer.Sound pieces { answer with blocks := answer.blocks ++ [(id, data)] } where
  ordered := by
    show List.Sublist _ (sortedBlocks answer.pushList)
    rw [split, List.map_append]
    exact order.append (List.singleton_sublist.mpr (List.mem_cons_self ..))
  genuine := List.forall_mem_append.mpr ⟨sound.genuine, List.forall_mem_singleton.mpr genuine⟩

theorem Answer.sent_extend (answer : Answer) (block : UInt32 × List UInt8) :
    Answer.sent { answer with blocks := answer.blocks ++ [block] } = answer.sent ++ [answer.response block] := by
  simp only [Answer.sent, List.map_append, List.append_assoc]
  rfl

theorem Answered.pushOn {ids : List UInt32} (consistent : Consistent sources fills) (few : Few fills)
    (answered : Answered (fills.map pieceOf) pushLists sent (some (resourceMd5, ids)) answers)
    (pushed : NpConnector.pushOn proto sources heap resourceMd5 ids = .ok (after, out)) :
    ∃ next, Answered (fills.map pieceOf) pushLists (sent ++ out.toList) after.pushing next := by
  rcases pushOn_cases consistent few pushed with
    ⟨ended, rfl, _⟩ | ⟨passed, id, rest, data, rfl, going, rfl, genuine, _⟩
  · refine ⟨answers, answered.asked, ?_, answered.sound, by rw [ended]; rintro _ _ ⟨⟩⟩
    rw [Option.toList_none, List.append_nil]
    exact answered.wire
  · obtain ⟨before, last, gone, rfl, rfl, split, order⟩ := answered.pending _ _ rfl
    obtain ⟨sound, first⟩ := List.forall_mem_append.mp answered.sound
    rw [← List.append_assoc] at split
    have later := order.trans (List.sublist_append_left gone passed)
    refine ⟨before ++ [{ last with blocks := last.blocks ++ [(id, data)] }], ?_, ?_, ?_, ?_⟩
    · rw [← answered.asked, List.map_append, List.map_append]
      rfl
    · rw [answered.wire, List.flatMap_append, List.flatMap_append, List.append_assoc, List.flatMap_singleton,
        List.flatMap_singleton, Answer.sent_extend]
      rfl
    · exact List.forall_mem_append.mpr ⟨sound, List.forall_mem_singleton.mpr
        ((first last (List.mem_singleton_self _)).extend split later genuine)⟩
    · rw [going]
      rintro _ _ ⟨⟩
      refine ⟨before, _, gone ++ passed ++ [id], rfl, rfl, by rw [split, List.append_cons], ?_⟩
      rw [List.map_append]
      exact later.append (List.Sublist.refl _)

theorem Answered.opened {pieces : List Piece} {pushing : Option (ByteArr MD5_LEN × List UInt32)}
    (answered : Answered pieces pushLists sent pushing answers) (pushList : Sp2SpPushList)
    (introduction : Option (Sp2SpMediatype × List UInt8)) :
    Answered pieces (pushLists ++ [pushList])
      (sent ++ (introduction.map fun message => Sent.mediatype message.1 message.2).toList)
      (some (pushList.resourceMd5, sortedBlocks pushList)) (answers ++ [⟨pushList, introduction, []⟩]) where
  asked := by
    rw [List.map_append, answered.asked]
    rfl
  wire := by
    rw [List.flatMap_append, ← answered.wire, List.flatMap_singleton, Answer.sent, List.map_nil, List.append_nil]
  sound := List.forall_mem_append.mpr ⟨answered.sound, List.forall_mem_singleton.mpr ⟨List.nil_sublist _, by simp⟩⟩
  pending := by
    rintro _ _ ⟨⟩
    exact ⟨answers, _, [], rfl, rfl, rfl, List.Sublist.slnil⟩

theorem Answered.getPushList {unset : Unset} {pushList : Sp2SpPushList}
    {pushing : Option (ByteArr MD5_LEN × List UInt32)}
    (consistent : Consistent sources fills) (few : Few fills)
    (answered : Answered (fills.map pieceOf) pushLists sent pushing answers)
    (called : NpConnector.getPushList proto sources heap unset pushList = .ok (after, out)) :
    ∃ next, Answered (fills.map pieceOf) (pushLists ++ [pushList]) (sent ++ out.toList) after.pushing next := by
  have opened := answered.opened pushList none
  rw [Option.map_none, Option.toList_none, List.append_nil] at opened
  simp only [NpConnector.getPushList] at called
  split_ifs at called
  · exact opened.pushOn consistent few called
  · split at called
    next => cases called
    next => exact opened.pushOn consistent few called
    next message payload _ =>
      cases called
      exact ⟨_, answered.opened pushList (some (message, payload))⟩

end Push

def listIn (content : Content) : Option Sp2SpPushList :=
  if content.1 = SP2SP_PUSHLIST then (outcome RsParsed.parse content.2).toOption else none

/-- What has been dispatched on a connection and what it still awaits are the frames that arrive on it. -/
def Arrives (arriving : Arriving) (taken : List Content) (conn : Connection) : Prop :=
  ∃ rest, Awaits conn rest ∧ taken ++ rest.map Frame.content = arriving.frames.map Frame.content

structure Relaying (unset : Nat → MD5HashStr) (capture normal : Nat → Arriving) (world : World) : Prop where
  consistent : Consistent world.recorded.peer.sources world.recorded.fills
  carries : Carries world.recorded (feedOf unset world.arrived)
  captures : ∀ conn, Arrives (capture conn) (own world.arrived conn) (world.capture conn)
  normals : ∀ conn, Arrives (normal conn) (own world.asked conn) (world.normal conn).conn
  answered : Few world.recorded.fills → ∀ conn, ∃ answers, Answered (world.recorded.fills.map pieceOf)
    ((own world.asked conn).filterMap listIn) (world.normal conn).sent (world.normal conn).proto.pushing answers

theorem Arriving.arrives (arriving : Arriving) : Arrives arriving [] arriving.conn :=
  ⟨arriving.frames, ⟨ordered_init arriving.memory, rfl⟩, rfl⟩

theorem relaying_start (unset : Nat → MD5HashStr) (capture normal : Nat → Arriving) :
    Relaying unset capture normal (.start unset capture normal) where
  consistent := consistent_start unset
  carries := carries_start unset
  captures conn := (capture conn).arrives
  normals conn := (normal conn).arrives
  answered _ _ := ⟨[], rfl, rfl, by simp, by rintro _ _ ⟨⟩⟩

section Turn

variable {arriving : Arriving} {taken : List Content} {conn after : Connection} {code : Nat}

theorem Arrives.still (arrives : Arrives arriving taken conn) (roomy : ¬CrampedBody conn)
    (read : readMessage conn = .ok (code, after, none)) : Arrives arriving taken after := by
  obtain ⟨rest, before, whole⟩ := arrives
  obtain ⟨_, _, _, again, turn⟩ := readMessage_spec before roomy
  cases read.symm.trans again
  cases turn with
  | idle done dry awaits => exact ⟨rest, done ▸ awaits, whole⟩
  | stalled cramped more cured awaits => exact ⟨rest, awaits, whole⟩

theorem Arrives.next {message : Message} (arrives : Arrives arriving taken conn) (roomy : ¬CrampedBody conn)
    (read : readMessage conn = .ok (code, after, some message)) :
    Arrives arriving (taken ++ [message.content]) after ∧
      ∃ frame ∈ arriving.frames, message.content = frame.content := by
  obtain ⟨rest, before, whole⟩ := arrives
  obtain ⟨_, _, _, again, turn⟩ := readMessage_spec before roomy
  cases read.symm.trans again
  cases turn with
  | received frame later first same awaits =>
    subst first
    refine ⟨⟨later, awaits, ?_⟩, ?_⟩
    · rw [same, List.append_assoc]
      exact whole
    · have member : frame.content ∈ arriving.frames.map Frame.content := by
        rw [← whole]
        simp
      obtain ⟨other, listed, equal⟩ := List.mem_map.mp member
      exact ⟨other, listed, same.trans equal.symm⟩

end Turn

theorem arrives_update {arriving : Nat → Arriving} {log grown : List (Nat × Content)} {conns : Nat → Connection}
    (arrives : ∀ conn, Arrives (arriving conn) (own log conn) (conns conn)) {conn : Nat} {next : Connection}
    (others : ∀ other ≠ conn, own grown other = own log other)
    (current : Arrives (arriving conn) (own grown conn) next) (other : Nat) :
    Arrives (arriving other) (own grown other) (Function.update conns conn next other) := by
  by_cases self : other = conn
  · subst self
    rw [Function.update_self]
    exact current
  · rw [Function.update_of_ne self, others other self]
    exact arrives other

section Step

variable {unset : Nat → MD5HashStr} {capture normal : Nat → Arriving} {world after : World}

theorem relaying_capture (relaying : Relaying unset capture normal world)
    (complete : ∀ conn, ∀ frame ∈ (capture conn).frames, Complete frame.content) {conn : Nat} {around : Around}
    (roomy : ¬CrampedBody (world.capture conn)) (taken : captureTurn world conn around = some after) :
    Relaying unset capture normal after := by
  unfold captureTurn at taken
  split at taken
  next => cases taken
  next next read =>
    cases taken
    exact ⟨relaying.consistent, relaying.carries,
      arrives_update relaying.captures (fun _ _ => rfl) ((relaying.captures conn).still roomy read), relaying.normals,
      relaying.answered⟩
  next next message read =>
    obtain ⟨recorded, stepped, rfl⟩ := Option.map_eq_some_iff.mp taken
    obtain ⟨arrives, frame, member, same⟩ := (relaying.captures conn).next roomy read
    obtain ⟨more, grows⟩ := step_fills stepped
    have grown : world.recorded.fills <+: recorded.fills := grows ▸ List.prefix_append _ _
    rw [← own_snoc_self] at arrives
    refine ⟨(kept_consistent channelHash).step relaying.consistent stepped, ?_,
      arrives_update relaying.captures (fun _ differs => own_snoc_other _ (Ne.symm differs) _) arrives,
      relaying.normals, fun few other => ?_⟩
    · rw [feedOf_snoc]
      exact carries_step relaying.carries (same ▸ complete conn frame member) stepped
    · obtain ⟨answers, answered⟩ := relaying.answered (few.of_grown grown) other
      exact ⟨answers, answered.grow (grown.map pieceOf)⟩

theorem relaying_update (relaying : Relaying unset capture normal world) {conn : Nat} {changed : Normal}
    {asked : List (Nat × Content)} (counter : Nat) (others : ∀ other ≠ conn, own asked other = own world.asked other)
    (arrives : Arrives (normal conn) (own asked conn) changed.conn)
    (answered : Few world.recorded.fills → ∃ answers, Answered (world.recorded.fills.map pieceOf)
      ((own asked conn).filterMap listIn) changed.sent changed.proto.pushing answers) :
    Relaying unset capture normal { world with
      normal := Function.update world.normal conn changed
      noReceiveCounter := counter
      asked } := by
  refine ⟨relaying.consistent, relaying.carries, relaying.captures, fun other => ?_, fun few other => ?_⟩
  · show Arrives (normal other) (own asked other) (Function.update world.normal conn changed other).conn
    by_cases self : other = conn
    · subst self
      rw [Function.update_self]
      exact arrives
    · rw [Function.update_of_ne self, others other self]
      exact relaying.normals other
  · show ∃ answers, Answered (world.recorded.fills.map pieceOf) ((own asked other).filterMap listIn)
      (Function.update world.normal conn changed other).sent
      (Function.update world.normal conn changed other).proto.pushing answers
    by_cases self : other = conn
    · subst self
      rw [Function.update_self]
      exact answered few
    · rw [Function.update_of_ne self, others other self]
      exact relaying.answered few other

theorem goOn_eq_some {normal changed : Normal} {pushed : Except Halt (RsNpSpProtocol × Option Sent)}
    (gone : normal.goOn pushed = some changed) : ∃ proto out, pushed = .ok (proto, out) ∧ changed = { normal with
      proto
      sent := normal.sent ++ out.toList } := by
  cases pushed with
  | error reason => cases gone
  | ok result =>
    cases gone
    exact ⟨result.1, result.2, rfl, rfl⟩

theorem dispatch_eq_some {normal changed : Normal} {sources : SourceMap} {heap : Heap} {unset : Unset}
    {message : Message} (dispatched : normal.dispatch sources heap unset message = some changed) :
    listIn message.content = none ∧ changed = normal ∨
    ∃ pushList proto out, listIn message.content = some pushList ∧
      getPushList normal.proto sources heap unset pushList = .ok (proto, out) ∧ changed = { normal with
        proto
        sent := normal.sent ++ out.toList } := by
  have body : initStreamer message.msg message.size = message.content.2 := by
    simp only [initStreamer, Message.content, view, Nat.zero_add]
  have type : message.content.1 = message.msgType := rfl
  unfold Normal.dispatch at dispatched
  split_ifs at dispatched with list
  · cases dispatched
    exact Or.inl ⟨if_neg list, rfl⟩
  · obtain ⟨proto, out, pushed, rfl⟩ := goOn_eq_some dispatched
    cases read : readPushList message with
    | error reason =>
      rw [read] at pushed
      cases pushed
    | ok pushList =>
      rw [read] at pushed
      refine Or.inr ⟨pushList, proto, out, ?_, pushed, rfl⟩
      rw [readPushList, body] at read
      rw [listIn, type, if_pos (not_not.mp list), read]
      rfl

theorem relaying_normal (relaying : Relaying unset capture normal world) {conn : Nat} {heap : Heap} {around : Unset}
    (roomy : ¬CrampedBody (world.normal conn).conn) (taken : normalTurn world conn heap around = some after) :
    Relaying unset capture normal after := by
  simp only [normalTurn, Option.ite_none_left_eq_some] at taken
  obtain ⟨_, taken⟩ := taken
  split at taken
  next => cases taken
  next next read =>
    cases taken
    exact relaying_update relaying _ (fun _ _ => rfl) ((relaying.normals conn).still roomy read)
      fun few => relaying.answered few conn
  next next message read =>
    obtain ⟨changed, dispatched, rfl⟩ := Option.map_eq_some_iff.mp taken
    obtain ⟨arrives, _⟩ := (relaying.normals conn).next roomy read
    rw [← own_snoc_self] at arrives
    have others : ∀ other ≠ conn, own (world.asked ++ [(conn, message.content)]) other = own world.asked other :=
      fun other differs => own_snoc_other _ (Ne.symm differs) _
    rcases dispatch_eq_some dispatched with ⟨unlisted, rfl⟩ | ⟨pushList, proto, out, listed, called, rfl⟩
    · refine relaying_update relaying _ others arrives fun few => ?_
      rw [own_snoc_self, List.filterMap_append, List.filterMap_cons_none unlisted, List.filterMap_nil,
        List.append_nil]
      exact relaying.answered few conn
    · refine relaying_update relaying _ others arrives fun few => ?_
      obtain ⟨answers, answered⟩ := relaying.answered few conn
      rw [own_snoc_self, List.filterMap_append, List.filterMap_cons_some listed, List.filterMap_nil]
      exact answered.getPushList relaying.consistent few called

theorem relaying_step (relaying : Relaying unset capture normal world)
    (complete : ∀ conn, ∀ frame ∈ (capture conn).frames, Complete frame.content) {event : Event}
    (roomy : Roomy world event) (taken : step world event = some after) : Relaying unset capture normal after := by
  cases event with
  | capture conn around => exact relaying_capture relaying complete roomy taken
  | normal conn heap around => exact relaying_normal relaying roomy taken
  | resume conn heap =>
    simp only [step] at taken
    split at taken
    next => cases taken
    next resourceMd5 ids pushing =>
      obtain ⟨changed, gone, rfl⟩ := Option.map_eq_some_iff.mp taken
      obtain ⟨proto, out, pushed, rfl⟩ := goOn_eq_some gone
      refine relaying_update relaying _ (fun _ _ => rfl) (relaying.normals conn) fun few => ?_
      obtain ⟨answers, answered⟩ := relaying.answered few conn
      rw [pushing] at answered
      exact answered.pushOn relaying.consistent few pushed

end Step

theorem relaying_run {unset : Nat → MD5HashStr} {capture normal : Nat → Arriving} {events : List Event}
    {world : World}
    (complete : ∀ conn, ∀ frame ∈ (capture conn).frames, Complete frame.content)
    (roomy : Along step (.start unset capture normal) events Roomy)
    (ran : run step (.start unset capture normal) events = some world) : Relaying unset capture normal world :=
  run_along (Relaying unset capture normal) Roomy
    (fun _ _ _ relaying current taken => relaying_step relaying complete current taken)
    (relaying_start unset capture normal) roomy ran

/-- What the capture servers send comes to one feed, of which the log of the rings is a copy, and
each connection of a normal peer carries answers to its own push lists, one after the other. -/
theorem streams_relayed (unset : Nat → MD5HashStr) (capture normal : Nat → Arriving) (events : List Event)
    (world : World) (complete : ∀ conn, ∀ frame ∈ (capture conn).frames, Complete frame.content)
    (roomy : Along step (.start unset capture normal) events Roomy)
    (ran : run step (.start unset capture normal) events = some world)
    (few : ∀ channel, (piecesOn (feedOf unset world.arrived).pieces channel).length < 2147483648) :
    (∀ conn, own world.arrived conn <+: (capture conn).frames.map Frame.content) ∧
    world.recorded.fills.map pieceOf = (feedOf unset world.arrived).pieces ∧
    ∀ conn, own world.asked conn <+: (normal conn).frames.map Frame.content ∧
      ∃ answers : List Answer, answers.map Answer.pushList = (own world.asked conn).filterMap listIn ∧
        (world.normal conn).sent = answers.flatMap Answer.sent ∧
        ∀ answer ∈ answers, answer.Sound (feedOf unset world.arrived).pieces := by
  have relaying := relaying_run complete roomy ran
  have pieces := relaying.carries.pieces
  have little : Few world.recorded.fills := fun hash => by
    have bound := few hash.rank
    rwa [← pieces, piecesOn_map, List.length_map] at bound
  refine ⟨fun conn => ?_, pieces, fun conn => ⟨?_, ?_⟩⟩
  · obtain ⟨rest, _, whole⟩ := relaying.captures conn
    exact ⟨_, whole⟩
  · obtain ⟨rest, _, whole⟩ := relaying.normals conn
    exact ⟨_, whole⟩
  · obtain ⟨answers, answered⟩ := relaying.answered little conn
    exact ⟨answers, answered.asked, answered.wire, pieces ▸ answered.sound⟩

section Scene

def readsFit (conn : Connection) : Bool :=
  match readHeader conn with
  | .error _ => true
  | .ok (code, after, msgSize) =>
      decide (code = Core.Buffer.ERROR_SUCCESS → ¬after.buffer.Cramped (wrap32 (msgSize - 4)).toNat)

theorem not_cramped_of_readsFit {conn : Connection} (fits : readsFit conn = true) : ¬CrampedBody conn := by
  rintro ⟨after, msgSize, header, cramped⟩
  rw [readsFit, header] at fits
  exact of_decide_eq_true fits rfl cramped

def roomyCheck (world : World) : Event → Bool
  | .capture conn _ => readsFit (world.capture conn)
  | .normal conn _ _ => readsFit (world.normal conn).conn
  | .resume .. => true

theorem roomy_of_check (world : World) (event : Event) (passed : roomyCheck world event = true) :
    Roomy world event := by
  cases event with
  | capture conn around => exact not_cramped_of_readsFit passed
  | normal conn heap unset => exact not_cramped_of_readsFit passed
  | resume conn heap => trivial

theorem pieces_length_le (unset : Nat → MD5HashStr) (arrived : List (Nat × Content)) :
    (feedOf unset arrived).pieces.length ≤ arrived.length := by
  induction arrived using List.reverseRecOn with
  | nil => exact Nat.zero_le _
  | append_singleton arrived arrival ih =>
    rw [feedOf_snoc, Feed.receive, List.length_append, List.length_singleton]
    split_ifs
    · exact Nat.le_succ_of_le ih
    · rw [List.length_append, List.length_singleton]
      exact Nat.succ_le_succ ih
    · exact Nat.le_succ_of_le ih

theorem few_pieces {unset : Nat → MD5HashStr} {arrived : List (Nat × Content)} (few : arrived.length < 2147483648)
    (channel : List Nat) : (piecesOn (feedOf unset arrived).pieces channel).length < 2147483648 :=
  Nat.lt_of_le_of_lt ((List.length_filter_le ..).trans (pieces_length_le unset arrived)) few

def registerFrame : Frame := ⟨CS2SP_REGISTER, List.replicate 54 0, by decide⟩

def blockFrame : Frame := ⟨CS2SP_BLOCK, le32 0 ++ le32 6 ++ (le32 0 ++ [7, 9]), by decide⟩

def listFrame : Frame := ⟨SP2SP_PUSHLIST, (channelHash []).data ++ (List.replicate 8 0 ++ [1] ++ le32 0), by
  rw [List.length_append, ByteArr.length_data]
  decide⟩

def capturing (conn : Nat) : Arriving := ⟨fun _ => 0, if conn = 0 then [registerFrame, blockFrame] else [], []⟩

def asking (conn : Nat) : Arriving := ⟨fun _ => 0, if conn = 0 then [listFrame] else [], []⟩

def blank : World := .start (fun _ => ⟨.fill _ 0, .init 0⟩) capturing asking

def takeCapture : Event := .capture 0 ⟨⟨0, fun _ => .fill _ 0⟩, []⟩

def takeList : Event := .normal 0 (fun _ => 0) ⟨[], ⟨.fill _ 0, 0, 0, 0, [], 0, [], 0, 0, []⟩, true⟩

def sendOn : Event := .resume 0 fun _ => 0

theorem complete_capturing : ∀ conn, ∀ frame ∈ (capturing conn).frames, Complete frame.content := by
  intro conn frame member
  by_cases first : conn = 0
  · rw [capturing, if_pos first, List.mem_cons, List.mem_singleton] at member
    rcases member with rfl | rfl <;> decide
  · rw [capturing, if_neg first] at member
    cases member

theorem block_sent : (run step blank ([takeCapture, takeCapture, takeList] ++ [sendOn] ++ [sendOn])).map (fun world =>
    (world.arrived.length, (world.normal 0).sent.length, (world.normal 0).proto.pushing)) = some (2, 2, none) := by
  decide +kernel

theorem roomy_scene : Along step blank ([takeCapture, takeCapture, takeList] ++ [sendOn] ++ [sendOn]) Roomy := by
  have reads : Along step blank [takeCapture, takeCapture, takeList] Roomy :=
    along_of_check roomy_of_check (by decide +kernel)
  exact along_snoc.mpr ⟨along_snoc.mpr ⟨reads, fun _ _ => trivial⟩, fun _ _ => trivial⟩

theorem one_block_relayed : ∃ world, run step blank ([takeCapture, takeCapture, takeList] ++ [sendOn] ++ [sendOn]) =
    some world ∧ ∃ answers : List Answer, (world.normal 0).sent = answers.flatMap Answer.sent ∧
      ∀ answer ∈ answers, answer.Sound (feedOf (fun _ => ⟨.fill _ 0, .init 0⟩) world.arrived).pieces := by
  obtain ⟨world, ran, same⟩ := Option.map_eq_some_iff.mp block_sent
  obtain ⟨two, _⟩ := Prod.mk.inj same
  have relayed := streams_relayed _ capturing asking _ world complete_capturing roomy_scene ran
    (few_pieces (by rw [two]; decide))
  obtain ⟨_, answers, _, wire, sound⟩ := relayed.2.2 0
  exact ⟨world, ran, answers, wire, sound⟩

end Scene

end RabbitStreamer.Sp.Streams
