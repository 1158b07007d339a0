import RabbitStreamer.Sp.BlockRelay

/-! One connection of a normal peer among the messages of capture servers: whether the media
header of a channel goes out before its blocks do. -/

namespace RabbitStreamer.Sp.MediaHeader
open RabbitStreamer.Lib RabbitStreamer.Lib.Bytes RabbitStreamer.Lib.Codec RabbitStreamer.Lib.Memory
open RabbitStreamer.Lib.Transition RabbitStreamer.Core.Struct RabbitStreamer.Core.Streamer
open RabbitStreamer.Core.Message RabbitStreamer.Core.Message.P2PMESSAGE
open RabbitStreamer.Protocol.BufferQueue RabbitStreamer.Protocol.BufferQueue.RsBufferQueue
open RabbitStreamer.Protocol.Framing RabbitStreamer.Sp.SourceManager RabbitStreamer.Sp.SourceManager.SourceMap
open RabbitStreamer.Sp.CsConnector RabbitStreamer.Sp.NpConnector RabbitStreamer.Sp.BlockRelay

/-- What matters of a run: a capture server supplies a header for a channel, or something goes out
on the connection. -/
inductive Happening where
  | supplied (chnlHash : MD5HashStr) (header : List UInt8)
  | sent (sent : Sent)
  deriving DecidableEq

abbrev channelOf (resourceMd5 : ByteArr MD5_LEN) : MD5HashStr := .ofMd5 resourceMd5 (.init 0)

/-- The super peer and the connection, with the first resource asked for on it whose channel was
there, whether that channel had a header then, and what has happened, oldest first. -/
structure Relay where
  recorded : Recorded
  proto : RsNpSpProtocol
  first : Option (ByteArr MD5_LEN × Bool)
  history : List Happening

/-- A message of a capture server, a message on the connection, or the connection's thread going
on after a write. -/
inductive Event where
  | cs (event : CsEvent)
  | message (message : Message) (heap : Heap) (unset : Unset)
  | resume (heap : Heap)

def Relay.start (unset : Nat → MD5HashStr) : Relay := ⟨CsConnector.start unset, .init, none, []⟩

/-- The header in a message of a capture server: behind the fields of a registration, if its size
is not zero, or as the body of a media type for a channel that is there. -/
def suppliedHeader (md5 : List UInt8 → ByteArr MD5_LEN) (peer : SuperPeer) (event : CsEvent) : Option Happening :=
  let msg := event.message.msg
  if event.message.msgType = CS2SP_REGISTER then
    let channelSize := (msg 0).toInt8.toInt
    let behind := 1 + channelSize.toNat + 4 + MD5_LEN + 4 + 4 + 4 + 1
    let headerSize := intAt msg behind
    if headerSize = 0 then none
    else some (.supplied (.ofMd5 (md5 (view msg 1 channelSize.toNat)) (peer.chnlHash event.conn).blockInterval)
      (view msg (behind + 4) headerSize.toNat))
  else if event.message.msgType = CS2SP_MEDIA_TYPE then
    (peer.sources.getBufferQueue (peer.chnlHash event.conn)).map fun _ =>
      .supplied (peer.chnlHash event.conn) (view msg 4 (intAt msg 0).toNat)
  else none

/-- A resource that is asked for, if its channel is there, and whether that has a header. -/
def opening (sources : SourceMap) (resourceMd5 : ByteArr MD5_LEN) : Option (ByteArr MD5_LEN × Bool) :=
  (sources.getBufferQueue (channelOf resourceMd5)).map fun queue => (resourceMd5, queue.mediaHeader.isSome)

def readPushList (message : Message) : Except Halt Sp2SpPushList :=
  outcome RsParsed.parse (initStreamer message.msg message.size)

/-- The connection takes its next message when it is through with the one before. -/
def step (md5 : List UInt8 → ByteArr MD5_LEN) (relay : Relay) : Event → Option Relay
  | .cs event =>
      (CsConnector.step md5 relay.recorded event).map fun recorded => { relay with
        recorded
        history := relay.history ++ (suppliedHeader md5 relay.recorded.peer event).toList }
  | .message message heap unset =>
      if relay.proto.pushing ≠ none then none
      else if message.msgType ≠ SP2SP_PUSHLIST then some relay
      else
        match readPushList message with
        | .error _ => none
        | .ok pushList =>
            let sources := relay.recorded.peer.sources
            (getPushList relay.proto sources heap unset pushList).toOption.map fun (proto, sent) => { relay with
              proto
              first := relay.first.or (opening sources pushList.resourceMd5)
              history := relay.history ++ (sent.map .sent).toList }
  | .resume heap =>
      match relay.proto.pushing with
      | none => none
      | some (resourceMd5, ids) =>
          (pushOn relay.proto relay.recorded.peer.sources heap resourceMd5 ids).toOption.map fun (proto, sent) =>
            { relay with
              proto
              history := relay.history ++ (sent.map .sent).toList }

def suppliedTo (history : List Happening) (hash : MD5HashStr) : List (List UInt8) :=
  history.filterMap fun
    | .supplied chnlHash header => if chnlHash.rank = hash.rank then some header else none
    | .sent _ => none

/-- A media type for the resource has gone out, and its data had been supplied before as a header
of the resource's channel. -/
def Introduced (history : List Happening) (resourceMd5 : ByteArr MD5_LEN) : Prop :=
  ∃ earlier message payload later, history = earlier ++ .sent (.mediatype message payload) :: later ∧
    message.resourceMd5 = resourceMd5 ∧ message.mediaType ∈ suppliedTo earlier (channelOf resourceMd5)

/-- Every response comes behind a media type for the same resource with a header of it. -/
def HeaderFirst (history : List Happening) : Prop :=
  ∀ earlier resourceMd5 payload later, history = earlier ++ .sent (.response resourceMd5 payload) :: later →
    Introduced earlier resourceMd5

/-- One of these blocks of a resource is there. -/
def Due (sources : SourceMap) (resourceMd5 : ByteArr MD5_LEN) (ids : List UInt32) : Prop :=
  ∃ id ∈ ids, ∃ code place, sources.dequeueBlock (channelOf resourceMd5) (toInt32 id) = some (code, some place)

/-- A block that is due belongs to the resource that was asked for first, whose channel had its
header by then. -/
def Opened (relay : Relay) : Event → Prop
  | .cs _ => True
  | .message message _ _ => relay.proto.mediaTypeFlag = true → message.msgType = SP2SP_PUSHLIST →
      ∀ pushList, readPushList message = .ok pushList →
        Due relay.recorded.peer.sources pushList.resourceMd5 (sortedBlocks pushList) →
        relay.first = some (pushList.resourceMd5, true)
  | .resume _ => ∀ resourceMd5 ids, relay.proto.pushing = some (resourceMd5, ids) →
      Due relay.recorded.peer.sources resourceMd5 ids → relay.first = some (resourceMd5, true)

def headerAt (sources : SourceMap) (hash : MD5HashStr) : Option (List UInt8) :=
  (sources.getBufferQueue hash).bind RsBufferQueue.mediaHeader

structure Traced (relay : Relay) : Prop where
  flagged : relay.proto.mediaTypeFlag = relay.first.isSome
  heard : ∀ hash, headerAt relay.recorded.peer.sources hash = (suppliedTo relay.history hash).getLast?
  introduced : ∀ resourceMd5, Introduced relay.history resourceMd5 ↔ relay.first = some (resourceMd5, true)

theorem snoc_eq_append_cons {α : Type} {list before behind : List α} {last item : α} :
    list ++ [last] = before ++ item :: behind ↔
      behind = [] ∧ list = before ∧ last = item ∨
        ∃ rest, behind = rest ++ [last] ∧ list = before ++ item :: rest := by
  constructor
  · intro whole
    rcases List.eq_nil_or_concat behind with rfl | ⟨rest, other, rfl⟩
    · obtain ⟨left, right⟩ := List.append_inj' whole rfl
      exact Or.inl ⟨rfl, left, List.singleton_injective right⟩
    · rw [List.concat_eq_append, ← List.cons_append, ← List.append_assoc] at whole
      obtain ⟨left, right⟩ := List.append_inj' whole rfl
      exact Or.inr ⟨rest, by rw [List.concat_eq_append, List.singleton_injective right], left⟩
  · rintro (⟨rfl, rfl, rfl⟩ | ⟨rest, rfl, rfl⟩)
    · rfl
    · rw [List.append_assoc, List.cons_append]

theorem introduced_snoc {history : List Happening} {last : Happening} {resourceMd5 : ByteArr MD5_LEN} :
    Introduced (history ++ [last]) resourceMd5 ↔ Introduced history resourceMd5 ∨
      ∃ message payload, last = .sent (.mediatype message payload) ∧ message.resourceMd5 = resourceMd5 ∧
        message.mediaType ∈ suppliedTo history (channelOf resourceMd5) := by
  constructor
  · rintro ⟨earlier, message, payload, later, split, same, header⟩
    obtain ⟨rfl, rfl, rfl⟩ | ⟨rest, rfl, rfl⟩ := snoc_eq_append_cons.mp split
    · exact Or.inr ⟨message, payload, rfl, same, header⟩
    · exact Or.inl ⟨earlier, message, payload, rest, rfl, same, header⟩
  · rintro (⟨earlier, message, payload, later, rfl, same, header⟩ | ⟨message, payload, rfl, same, header⟩)
    · exact ⟨earlier, message, payload, later ++ [last], by rw [List.append_assoc, List.cons_append], same, header⟩
    · exact ⟨history, message, payload, [], rfl, same, header⟩

theorem headerFirst_snoc {history : List Happening} {last : Happening} : HeaderFirst (history ++ [last]) ↔
    HeaderFirst history ∧ ∀ resourceMd5 payload, last = .sent (.response resourceMd5 payload) →
      Introduced history resourceMd5 := by
  constructor
  · intro ordered
    constructor
    · intro earlier resourceMd5 payload later split
      exact ordered earlier resourceMd5 payload (later ++ [last]) (by rw [split, List.append_assoc, List.cons_append])
    · intro resourceMd5 payload same
      exact ordered history resourceMd5 payload [] (by rw [same])
  · rintro ⟨before, now⟩ earlier resourceMd5 payload later split
    obtain ⟨rfl, rfl, rfl⟩ | ⟨rest, rfl, rfl⟩ := snoc_eq_append_cons.mp split
    · exact now resourceMd5 payload rfl
    · exact before earlier resourceMd5 payload rest rfl

theorem headerAt_adjust {sources : SourceMap} {hash : MD5HashStr} {queue : RsBufferQueue}
    (known : sources.getBufferQueue hash = some queue) (change : RsBufferQueue → RsBufferQueue) (other : MD5HashStr) :
    headerAt (sources.adjust hash change) other =
      if hash.rank = other.rank then (change queue).mediaHeader else headerAt sources other := by
  split_ifs with same
  · have changed := getBufferQueue_adjust_self known change
    rw [getBufferQueue, OrderedMap.find_congr _ same] at changed
    rw [headerAt, getBufferQueue, changed]
    rfl
  · rw [headerAt, getBufferQueue, OrderedMap.find_adjust_of_ne _ _ (Ne.symm same)]
    rfl

theorem headerAt_createSource (sources : SourceMap) (around : Surroundings) (hash : MD5HashStr) (name : List UInt8)
    (source : Bool) (other : MD5HashStr) :
    headerAt (sources.createSource around hash name source) other = headerAt sources other := by
  cases known : sources.getBufferQueue hash with
  | some queue => simp only [createSource, known]
  | none =>
    have absent := getBufferQueue_eq_none.mp known
    simp only [createSource, known]
    simp only [headerAt, getBufferQueue]
    by_cases same : other.rank = hash.rank
    · rw [OrderedMap.find_congr _ same, OrderedMap.find_insert_self _ absent, OrderedMap.find_congr _ same, absent]
      rfl
    · rw [OrderedMap.find_insert_of_ne _ same]

theorem suppliedTo_append (history more : List Happening) (hash : MD5HashStr) :
    suppliedTo (history ++ more) hash = suppliedTo history hash ++ suppliedTo more hash := List.filterMap_append

theorem supplied_last {history : List Happening} {chnlHash : MD5HashStr} {header : List UInt8} (hash : MD5HashStr) :
    (suppliedTo (history ++ [.supplied chnlHash header]) hash).getLast? =
      if chnlHash.rank = hash.rank then some header else (suppliedTo history hash).getLast? := by
  rw [suppliedTo_append]
  by_cases same : chnlHash.rank = hash.rank
  · simp [suppliedTo, same]
  · simp [suppliedTo, same]

theorem heard_step {md5 : List UInt8 → ByteArr MD5_LEN} {recorded next : Recorded} {event : CsEvent}
    {history : List Happening}
    (heard : ∀ hash, headerAt recorded.peer.sources hash = (suppliedTo history hash).getLast?)
    (taken : CsConnector.step md5 recorded event = some next) (hash : MD5HashStr) :
    headerAt next.peer.sources hash =
      (suppliedTo (history ++ (suppliedHeader md5 recorded.peer event).toList) hash).getLast? := by
  have silent : suppliedHeader md5 recorded.peer event = none →
      headerAt next.peer.sources hash = headerAt recorded.peer.sources hash →
      headerAt next.peer.sources hash =
        (suppliedTo (history ++ (suppliedHeader md5 recorded.peer event).toList) hash).getLast? := by
    intro unsupplied same
    rw [unsupplied, same, heard, Option.toList_none, List.append_nil]
  simp only [CsConnector.step] at taken
  split_ifs at taken with registers stores introduces
  · obtain ⟨after, made, rfl⟩ := Option.map_eq_some_iff.mp taken
    simp only [getRegister] at made
    split_ifs at made with negative headerless short
    · cases made
      apply silent
      · simp only [suppliedHeader, if_pos registers, if_pos headerless]
      · exact headerAt_createSource ..
    · cases made
      obtain ⟨queue, known⟩ := getBufferQueue_createSource recorded.peer.sources event.around.toSurroundings
        (.ofMd5 (md5 (view event.message.msg 1 (event.message.msg 0).toInt8.toInt.toNat))
          (recorded.peer.chnlHash event.conn).blockInterval)
        ((view event.message.msg 1 (event.message.msg 0).toInt8.toInt.toNat ++ event.around.behindName).takeWhile
          (· ≠ 0)) true
      simp only [suppliedHeader, if_pos registers, if_neg headerless, Option.toList_some, supplied_last, addHeader]
      rw [headerAt_adjust known, headerAt_createSource, heard]
      rfl
  · obtain ⟨⟨after, fill⟩, made, rfl⟩ := Option.map_eq_some_iff.mp taken
    have unsupplied : suppliedHeader md5 recorded.peer event = none := by
      have other : event.message.msgType ≠ CS2SP_MEDIA_TYPE := by
        rw [stores]
        decide
      simp only [suppliedHeader, if_neg registers, if_neg other]
    apply silent unsupplied
    rcases getBlock_cases made with ⟨rfl, _⟩ | ⟨queue, round, slot, block, known, stored, _, _, _, rfl, _⟩
    · rfl
    · have header := (storeBlock_keeps stored).1
      rw [headerAt_adjust known, header]
      split_ifs with same
      · obtain ⟨key, found⟩ := getBufferQueue_eq_some.mp known
        rw [headerAt, getBufferQueue, ← OrderedMap.find_congr _ same, found]
        rfl
      · rfl
  · obtain ⟨after, made, rfl⟩ := Option.map_eq_some_iff.mp taken
    simp only [getMediatype] at made
    split at made
    next unknown =>
      cases made
      apply silent _ rfl
      simp only [suppliedHeader, if_neg registers, if_pos introduces, unknown, Option.map_none]
    next queue known =>
      split_ifs at made
      cases made
      simp only [suppliedHeader, if_neg registers, if_pos introduces, known, Option.map_some, Option.toList_some,
        supplied_last, addHeader]
      rw [headerAt_adjust known, heard]
      rfl
  · cases taken
    apply silent _ rfl
    simp only [suppliedHeader, if_neg registers, if_neg introduces]

theorem sendOneBlock_eq_none {sources : SourceMap} {heap : Heap} {resourceMd5 : ByteArr MD5_LEN} {id : UInt32}
    (nothing : sendOneBlock sources heap resourceMd5 id = .ok none) :
    ∃ code, sources.dequeueBlock (channelOf resourceMd5) (toInt32 id) = some (code, none) := by
  unfold sendOneBlock at nothing
  dsimp only at nothing
  split at nothing
  next => cases nothing
  next code found => exact ⟨code, found⟩
  next code slot buf found =>
    generalize pack heap (blockResponse resourceMd5 id buf) = packed at nothing
    cases packed with
    | error reason => cases nothing
    | ok payload => cases nothing

theorem sendPushList_due {sources : SourceMap} {heap : Heap} {resourceMd5 : ByteArr MD5_LEN} {ids rest : List UInt32}
    {payload : Option (List UInt8)} (pushed : sendPushList sources heap resourceMd5 ids = .ok (payload, rest)) :
    payload.isSome = true ↔ Due sources resourceMd5 ids := by
  induction ids with
  | nil =>
    cases pushed
    simp [Due]
  | cons id later ih =>
    unfold sendPushList at pushed
    split at pushed
    next => cases pushed
    next nothing =>
      rw [ih pushed]
      obtain ⟨code, missing⟩ := sendOneBlock_eq_none nothing
      constructor
      · rintro ⟨other, member, found⟩
        exact ⟨other, List.mem_cons_of_mem _ member, found⟩
      · rintro ⟨other, member, otherCode, place, found⟩
        rcases List.mem_cons.mp member with rfl | listed
        · cases missing.symm.trans found
        · exact ⟨other, listed, otherCode, place, found⟩
    next sent =>
      cases pushed
      obtain ⟨code, slot, buf, found, _⟩ := sendOneBlock_eq_some sent
      exact iff_of_true rfl ⟨id, List.mem_cons_self .., code, (slot, buf), found⟩

theorem pushOn_due {proto after : RsNpSpProtocol} {sources : SourceMap} {heap : Heap}
    {resourceMd5 : ByteArr MD5_LEN} {ids : List UInt32} {sent : Option Sent}
    (pushed : pushOn proto sources heap resourceMd5 ids = .ok (after, sent)) :
    after.mediaTypeFlag = proto.mediaTypeFlag ∧ (¬Due sources resourceMd5 ids ∧ sent = none ∨
      Due sources resourceMd5 ids ∧ ∃ payload, sent = some (.response resourceMd5 payload)) := by
  obtain ⟨payload, rest, looked, ⟨rfl, rfl, rfl⟩ | ⟨bytes, rfl, rfl, rfl⟩⟩ := pushOn_eq_ok pushed
  · exact ⟨rfl, Or.inl ⟨fun due => absurd ((sendPushList_due looked).mpr due) (by decide), rfl⟩⟩
  · exact ⟨rfl, Or.inr ⟨(sendPushList_due looked).mp rfl, bytes, rfl⟩⟩

theorem not_due_of_unknown {sources : SourceMap} {resourceMd5 : ByteArr MD5_LEN}
    (unknown : sources.getBufferQueue (channelOf resourceMd5) = none) (ids : List UInt32) :
    ¬Due sources resourceMd5 ids := by
  rintro ⟨id, _, code, place, found⟩
  simp only [dequeueBlock, unknown] at found
  cases found

theorem sendMediaType_cases {sources : SourceMap} {heap : Heap} {unset : Unset} {resourceMd5 : ByteArr MD5_LEN}
    {result : Option (Sp2SpMediatype × List UInt8)}
    (called : sendMediaType sources heap unset resourceMd5 = .ok result) :
    result = none ∧ sources.getBufferQueue (channelOf resourceMd5) = none ∨
    ∃ queue message payload, sources.getBufferQueue (channelOf resourceMd5) = some queue ∧
      result = some (message, payload) ∧ message.resourceMd5 = resourceMd5 ∧
      message.mediaType = queue.mediaHeader.getD unset.header := by
  unfold sendMediaType at called
  cases known : sources.getBufferQueue (channelOf resourceMd5) with
  | none =>
    have header : sources.getHeader (channelOf resourceMd5) = (ERROR_SOURCE_MGR_NOT_FOUND, none) := by
      simp only [SourceMap.getHeader, known]
    rw [header] at called
    cases called
    exact Or.inl ⟨rfl, rfl⟩
  | some queue =>
    have header : sources.getHeader (channelOf resourceMd5) = (ERROR_SUCCESS, queue.mediaHeader) := by
      simp only [SourceMap.getHeader, known]
      rfl
    rw [header] at called
    simp only [ne_eq, not_true_eq_false, if_false] at called
    split_ifs at called
    generalize sources.getSourceList.find? _ = source at called
    have fields : ∀ header : List UInt8, (mediatypeMsg unset resourceMd5 header source).resourceMd5 = resourceMd5 ∧
        (mediatypeMsg unset resourceMd5 header source).mediaType = header := by
      intro header
      cases source <;> exact ⟨rfl, rfl⟩
    generalize sent : mediatypeMsg unset resourceMd5 (queue.mediaHeader.getD unset.header) source = message at called
    generalize pack heap message = packed at called
    cases packed with
    | error reason => cases called
    | ok payload =>
      cases called
      exact Or.inr ⟨queue, message, payload, rfl, rfl, sent ▸ fields _⟩

theorem suppliedTo_sent (history : List Happening) (sent : Sent) (hash : MD5HashStr) :
    suppliedTo (history ++ [.sent sent]) hash = suppliedTo history hash := by
  rw [suppliedTo_append]
  exact List.append_nil _

theorem introduced_other {history : List Happening} {last : Happening}
    (other : ∀ message payload, last ≠ .sent (.mediatype message payload)) (resourceMd5 : ByteArr MD5_LEN) :
    Introduced (history ++ [last]) resourceMd5 ↔ Introduced history resourceMd5 := by
  rw [introduced_snoc]
  constructor
  · rintro (before | ⟨message, payload, same, _⟩)
    · exact before
    · exact absurd same (other message payload)
  · exact Or.inl

theorem suppliedHeader_eq_some {md5 : List UInt8 → ByteArr MD5_LEN} {peer : SuperPeer} {event : CsEvent}
    {happening : Happening} (supplies : suppliedHeader md5 peer event = some happening) :
    ∃ chnlHash header, happening = .supplied chnlHash header := by
  simp only [suppliedHeader] at supplies
  split_ifs at supplies
  · exact ⟨_, _, (Option.some.inj supplies).symm⟩
  · obtain ⟨_, _, rfl⟩ := Option.map_eq_some_iff.mp supplies
    exact ⟨_, _, rfl⟩

theorem traced_pushOn {relay : Relay} (traced : Traced relay) {heap : Heap} {resourceMd5 : ByteArr MD5_LEN}
    {ids : List UInt32} {proto : RsNpSpProtocol} {sent : Option Sent}
    (pushed : pushOn relay.proto relay.recorded.peer.sources heap resourceMd5 ids = .ok (proto, sent)) :
    Traced { relay with
      proto
      history := relay.history ++ (sent.map .sent).toList } ∧
    (HeaderFirst (relay.history ++ (sent.map .sent).toList) ↔ HeaderFirst relay.history ∧
      (Due relay.recorded.peer.sources resourceMd5 ids → relay.first = some (resourceMd5, true))) := by
  obtain ⟨flag, ⟨idle, rfl⟩ | ⟨due, payload, rfl⟩⟩ := pushOn_due pushed
  · simp only [Option.map_none, Option.toList_none, List.append_nil]
    exact ⟨⟨flag.trans traced.flagged, traced.heard, traced.introduced⟩,
      fun ordered => ⟨ordered, fun due => absurd due idle⟩, And.left⟩
  · simp only [Option.map_some, Option.toList_some]
    constructor
    · constructor
      · exact flag.trans traced.flagged
      · intro hash
        rw [suppliedTo_sent]
        exact traced.heard hash
      · intro other
        rw [introduced_other (by simp)]
        exact traced.introduced other
    · rw [headerFirst_snoc]
      constructor
      · rintro ⟨before, now⟩
        exact ⟨before, fun _ => (traced.introduced resourceMd5).mp (now resourceMd5 payload rfl)⟩
      · rintro ⟨before, opened⟩
        refine ⟨before, fun other otherPayload same => ?_⟩
        cases same
        exact (traced.introduced resourceMd5).mpr (opened due)

theorem introduced_mediatype {relay : Relay} (traced : Traced relay) (unopened : relay.first = none)
    {unset : Unset} {resourceMd5 : ByteArr MD5_LEN} {queue : RsBufferQueue} {message : Sp2SpMediatype}
    (known : relay.recorded.peer.sources.getBufferQueue (channelOf resourceMd5) = some queue)
    (resource : message.resourceMd5 = resourceMd5) (header : message.mediaType = queue.mediaHeader.getD unset.header)
    (payload : List UInt8) (other : ByteArr MD5_LEN) :
    Introduced (relay.history ++ [.sent (.mediatype message payload)]) other ↔
      some (resourceMd5, queue.mediaHeader.isSome) = some (other, true) := by
  have before : ¬Introduced relay.history other := by
    rw [traced.introduced, unopened]
    simp
  have heard := traced.heard (channelOf resourceMd5)
  rw [headerAt, known, Option.bind_some] at heard
  rw [introduced_snoc]
  constructor
  · rintro (earlier | ⟨_, _, same, self, supplied⟩)
    · exact absurd earlier before
    · cases same
      obtain rfl := resource.symm.trans self
      cases set : queue.mediaHeader with
      | none =>
        rw [set] at heard
        rw [List.getLast?_eq_none_iff.mp heard.symm] at supplied
        cases supplied
      | some bytes => rfl
  · intro same
    simp only [Option.some.injEq, Prod.mk.injEq] at same
    obtain ⟨rfl, set⟩ := same
    obtain ⟨bytes, isSet⟩ := Option.isSome_iff_exists.mp set
    refine Or.inr ⟨message, payload, rfl, resource, ?_⟩
    rw [header, isSet, Option.getD_some]
    rw [isSet] at heard
    exact List.mem_of_getLast? heard.symm

theorem traced_getPushList {relay : Relay} (traced : Traced relay) {heap : Heap} {unset : Unset}
    {pushList : Sp2SpPushList} {proto : RsNpSpProtocol} {sent : Option Sent}
    (called : getPushList relay.proto relay.recorded.peer.sources heap unset pushList = .ok (proto, sent)) :
    Traced { relay with
      proto
      first := relay.first.or (opening relay.recorded.peer.sources pushList.resourceMd5)
      history := relay.history ++ (sent.map .sent).toList } ∧
    (HeaderFirst (relay.history ++ (sent.map .sent).toList) ↔ HeaderFirst relay.history ∧
      (relay.proto.mediaTypeFlag = true →
        Due relay.recorded.peer.sources pushList.resourceMd5 (sortedBlocks pushList) →
        relay.first = some (pushList.resourceMd5, true))) := by
  unfold getPushList at called
  dsimp only at called
  by_cases flag : relay.proto.mediaTypeFlag = true
  · rw [if_pos flag] at called
    obtain ⟨after, ordered⟩ := traced_pushOn traced called
    obtain ⟨opened, isOpened⟩ := Option.isSome_iff_exists.mp (traced.flagged.symm.trans flag)
    have same : relay.first.or (opening relay.recorded.peer.sources pushList.resourceMd5) = relay.first := by
      rw [isOpened]
      rfl
    rw [same]
    refine ⟨after, ordered.trans (and_congr_right fun _ => ?_)⟩
    exact ⟨fun opens _ => opens, fun opens => opens flag⟩
  · rw [if_neg flag] at called
    have unopened : relay.first = none := by
      rw [traced.flagged, Option.isSome_iff_ne_none] at flag
      exact not_not.mp flag
    cases looked : sendMediaType relay.recorded.peer.sources heap unset pushList.resourceMd5 with
    | error reason =>
      rw [looked] at called
      cases called
    | ok result =>
      obtain ⟨rfl, unknown⟩ | ⟨queue, message, payload, known, rfl, resource, header⟩ := sendMediaType_cases looked
      · rw [looked] at called
        obtain ⟨after, ordered⟩ := traced_pushOn traced called
        have same : relay.first.or (opening relay.recorded.peer.sources pushList.resourceMd5) = relay.first := by
          rw [unopened, opening, unknown]
          rfl
        rw [same]
        refine ⟨after, ordered.trans (and_congr_right fun _ => ?_)⟩
        exact ⟨fun _ isSet => absurd isSet flag, fun _ due => absurd due (not_due_of_unknown unknown _)⟩
      · rw [looked] at called
        cases called
        have now : relay.first.or (opening relay.recorded.peer.sources pushList.resourceMd5) =
            some (pushList.resourceMd5, queue.mediaHeader.isSome) := by
          rw [unopened, opening, known]
          rfl
        simp only [Option.map_some, Option.toList_some]
        constructor
        · constructor
          · show true = (relay.first.or _).isSome
            rw [now]
            rfl
          · intro hash
            rw [suppliedTo_sent]
            exact traced.heard hash
          · intro other
            rw [now]
            exact introduced_mediatype traced unopened known resource header payload other
        · rw [headerFirst_snoc]
          refine and_congr_right fun _ => ⟨fun _ isSet => absurd isSet flag, fun _ other otherPayload same => ?_⟩
          cases same

theorem traced_step {md5 : List UInt8 → ByteArr MD5_LEN} {relay next : Relay} {event : Event} (traced : Traced relay)
    (taken : step md5 relay event = some next) :
    Traced next ∧ (HeaderFirst next.history ↔ HeaderFirst relay.history ∧ Opened relay event) := by
  cases event with
  | cs event =>
    obtain ⟨recorded, stepped, rfl⟩ := Option.map_eq_some_iff.mp taken
    have heard := heard_step traced.heard stepped
    cases supplies : suppliedHeader md5 relay.recorded.peer event with
    | none =>
      rw [supplies] at heard
      simp only [Option.toList_none, List.append_nil] at heard ⊢
      exact ⟨⟨traced.flagged, heard, traced.introduced⟩, fun ordered => ⟨ordered, trivial⟩, And.left⟩
    | some happening =>
      obtain ⟨chnlHash, header, rfl⟩ := suppliedHeader_eq_some supplies
      rw [supplies] at heard
      simp only [Option.toList_some] at heard ⊢
      constructor
      · refine ⟨traced.flagged, heard, fun resourceMd5 => ?_⟩
        rw [introduced_other (by simp)]
        exact traced.introduced resourceMd5
      · rw [headerFirst_snoc]
        refine and_congr_right fun _ => ⟨fun _ => trivial, fun _ resourceMd5 payload same => ?_⟩
        cases same
  | message message heap unset =>
    simp only [step] at taken
    split_ifs at taken with busy other
    · cases taken
      exact ⟨traced, fun ordered => ⟨ordered, fun _ pushes => absurd pushes other⟩, And.left⟩
    · cases read : readPushList message with
      | error reason =>
        rw [read] at taken
        cases taken
      | ok pushList =>
        rw [read] at taken
        obtain ⟨⟨proto, sent⟩, called, rfl⟩ := Option.map_eq_some_iff.mp taken
        cases result : getPushList relay.proto relay.recorded.peer.sources heap unset pushList with
        | error reason =>
          rw [result] at called
          cases called
        | ok pair =>
          rw [result] at called
          cases called
          obtain ⟨after, ordered⟩ := traced_getPushList traced result
          refine ⟨after, ordered.trans (and_congr_right fun _ => ?_)⟩
          constructor
          · intro opens flag _ asked again due
            cases read.symm.trans again
            exact opens flag due
          · intro opened flag due
            exact opened flag (not_not.mp other) pushList read due
  | resume heap =>
    simp only [step] at taken
    cases pushing : relay.proto.pushing with
    | none =>
      rw [pushing] at taken
      cases taken
    | some pushed =>
      obtain ⟨resourceMd5, ids⟩ := pushed
      rw [pushing] at taken
      obtain ⟨⟨proto, sent⟩, called, rfl⟩ := Option.map_eq_some_iff.mp taken
      cases result : pushOn relay.proto relay.recorded.peer.sources heap resourceMd5 ids with
      | error reason =>
        rw [result] at called
        cases called
      | ok pair =>
        rw [result] at called
        cases called
        obtain ⟨after, ordered⟩ := traced_pushOn traced result
        refine ⟨after, ordered.trans (and_congr_right fun _ => ?_)⟩
        constructor
        · intro opens other otherIds same due
          cases pushing.symm.trans same
          exact opens due
        · intro opened due
          exact opened resourceMd5 ids pushing due

theorem traced_start (unset : Nat → MD5HashStr) : Traced (Relay.start unset) where
  flagged := rfl
  heard := fun _ => rfl
  introduced := by
    intro resourceMd5
    constructor
    · rintro ⟨earlier, message, payload, later, split, _⟩
      exact absurd split (by simp [Relay.start])
    · intro opened
      cases opened

theorem run_traced {md5 : List UInt8 → ByteArr MD5_LEN} {unset : Nat → MD5HashStr}
    {events : List Event} {relay : Relay}
    (ran : run (step md5) (.start unset) events = some relay) : Traced relay :=
  run_invariant Traced (fun _ _ _ traced taken => (traced_step traced taken).1) (traced_start unset) ran

theorem run_consistent {md5 : List UInt8 → ByteArr MD5_LEN} {unset : Nat → MD5HashStr} {events : List Event}
    {relay : Relay} (ran : run (step md5) (.start unset) events = some relay) :
    Consistent relay.recorded.peer.sources relay.recorded.fills := by
  refine run_invariant (fun relay => Consistent relay.recorded.peer.sources relay.recorded.fills) ?_
    (consistent_start unset) ran
  intro relay event next consistent taken
  cases event with
  | cs event =>
    obtain ⟨recorded, stepped, rfl⟩ := Option.map_eq_some_iff.mp taken
    exact (kept_consistent md5).step consistent stepped
  | message message heap unset =>
    simp only [step] at taken
    split_ifs at taken
    · cases taken
      exact consistent
    · split at taken
      next => cases taken
      next =>
        obtain ⟨_, _, rfl⟩ := Option.map_eq_some_iff.mp taken
        exact consistent
  | resume heap =>
    simp only [step] at taken
    split at taken
    next => cases taken
    next =>
      obtain ⟨_, _, rfl⟩ := Option.map_eq_some_iff.mp taken
      exact consistent

section Resources

def letters : List UInt8 → ByteArr MD5_LEN := fun name => .fill _ (name.headD 0)

def introduceEvent (conn : Nat) (letter : UInt8) : Event :=
  .cs ⟨conn, ⟨CS2SP_REGISTER, ofBytes ([1, letter] ++ List.replicate 49 0 ++ le32 1 ++ [letter]), 56⟩, quiet⟩

def request (letter : UInt8) : Message :=
  ⟨SP2SP_PUSHLIST, ofBytes (List.replicate 32 letter ++ List.replicate 8 0 ++ [1] ++ le32 0), 45⟩

def requestEvent (letter : UInt8) : Event :=
  .message (request letter) (fun _ => 0) ⟨[], ⟨.fill _ 0, 0, 0, 0, [], 0, [], 0, 0, []⟩, true⟩

def resumeEvent : Event := .resume fun _ => 0

theorem read_request : readPushList (request 98) = .ok ⟨.fill _ 98, ⟨0, 0, 0⟩, 1, [0]⟩ := by decide +kernel

/-- A resource whose capture server has connection 0, before the first block of all. -/
def Fresh (relay : Relay) (resourceMd5 : ByteArr MD5_LEN) : Prop :=
  relay.recorded.fills.length = 0 ∧ (relay.recorded.peer.chnlHash 0).rank = (channelOf resourceMd5).rank ∧
    (relay.recorded.peer.sources.getBufferQueue (relay.recorded.peer.chnlHash 0)).isSome = true

instance (relay : Relay) (resourceMd5 : ByteArr MD5_LEN) : Decidable (Fresh relay resourceMd5) :=
  inferInstanceAs (Decidable (_ ∧ _))

theorem Fresh.pushed {relay : Relay} {resourceMd5 : ByteArr MD5_LEN} (fresh : Fresh relay resourceMd5)
    (consistent : Consistent relay.recorded.peer.sources relay.recorded.fills) :
    ∃ recorded payload, CsConnector.step letters relay.recorded (blockEvent quiet 0 4) = some recorded ∧
      Due recorded.peer.sources resourceMd5 [0] ∧
      sendPushList recorded.peer.sources (fun _ => 0) resourceMd5 [0] = .ok (some payload, []) := by
  obtain ⟨length, rank, isKnown⟩ := fresh
  obtain ⟨queue, known⟩ := Option.isSome_iff_exists.mp isKnown
  have empty := List.eq_nil_of_length_eq_zero length
  obtain ⟨recorded, fill, stored, log, hash, _⟩ := block_taken letters consistent (blockEvent quiet 0 4) rfl known
    (by rw [empty]; exact Nat.two_pow_pos 31) (by rw [blockEvent_size]; decide)
  have after := (kept_consistent letters).step consistent stored
  have channel : onChannel recorded.fills (channelOf resourceMd5) = [fill] := by
    rw [log, empty, onChannel_snoc_self [] (by rw [hash]; exact rank)]
    rfl
  obtain ⟨slot, buf, found⟩ := after.newest 0 (by rw [channel]; rfl) (by decide)
  obtain ⟨_, _, _, _, _, _, full⟩ := after.found (by rw [channel, List.length_singleton]; decide) found
  have zero : toInt32 0 = ((0 : Nat) : Int) := by decide
  rw [← zero] at found
  refine ⟨recorded, responseFrame resourceMd5 0 buf.buffer.data, stored,
    ⟨0, List.mem_singleton_self 0, ERROR_SUCCESS, (slot, buf), found⟩, ?_⟩
  simp only [sendPushList, sendOneBlock_of_found _ found full]

theorem cs_step {relay next : Relay} {event : CsEvent} (taken : step letters relay (.cs event) = some next) :
    next.proto = relay.proto ∧ next.first = relay.first := by
  obtain ⟨_, _, rfl⟩ := Option.map_eq_some_iff.mp taken
  exact ⟨rfl, rfl⟩

theorem cs_taken {relay : Relay} {event : CsEvent} {recorded : Recorded}
    (stepped : CsConnector.step letters relay.recorded event = some recorded) :
    ∃ next, step letters relay (.cs event) = some next ∧ next.recorded = recorded := by
  simp only [step, stepped]
  exact ⟨_, rfl, rfl⟩

theorem second_resource_fresh : ∃ relay, run (step letters) (.start blank)
    [introduceEvent 1 97, introduceEvent 0 98, requestEvent 97, resumeEvent] = some relay ∧
    Fresh relay (.fill _ 98) ∧ relay.proto = ⟨true, none⟩ ∧ relay.first = some (.fill _ 97, true) := by
  obtain ⟨relay, ran, held⟩ := (Option.any_eq_true _ _).mp (show (run (step letters) (.start blank)
    [introduceEvent 1 97, introduceEvent 0 98, requestEvent 97, resumeEvent]).any (fun relay =>
      decide (Fresh relay (.fill _ 98) ∧ relay.proto = ⟨true, none⟩ ∧ relay.first = some (.fill _ 97, true))) = true
    by decide +kernel)
  exact ⟨relay, ran, of_decide_eq_true held⟩

theorem first_resource_fresh : ∃ relay, run (step letters) (.start blank) [introduceEvent 0 98, requestEvent 98] =
    some relay ∧ Fresh relay (.fill _ 98) ∧ relay.proto = ⟨true, some (.fill _ 98, [0])⟩ ∧
    relay.first = some (.fill _ 98, true) := by
  obtain ⟨relay, ran, held⟩ := (Option.any_eq_true _ _).mp (show (run (step letters) (.start blank)
    [introduceEvent 0 98, requestEvent 98]).any (fun relay => decide (Fresh relay (.fill _ 98) ∧
      relay.proto = ⟨true, some (.fill _ 98, [0])⟩ ∧ relay.first = some (.fill _ 98, true))) = true
    by decide +kernel)
  exact ⟨relay, ran, of_decide_eq_true held⟩

end Resources

/-- On a connection each response comes behind a media type of its resource, with a header that
a capture server has supplied, exactly when every block that is due belongs to the resource asked
for first, whose channel had its header by then. -/
theorem header_first_iff_opened (md5 : List UInt8 → ByteArr MD5_LEN) (unset : Nat → MD5HashStr) (events : List Event)
    (relay : Relay) (ran : run (step md5) (.start unset) events = some relay) :
    HeaderFirst relay.history ↔ Along (step md5) (.start unset) events Opened := by
  refine run_history (fun past relay => HeaderFirst relay.history ↔ Along (step md5) (.start unset) past Opened)
    ?_ ?_ ran
  · refine iff_of_true ?_ along_nil
    intro earlier resourceMd5 payload later split
    exact absurd split (by simp [Relay.start])
  · intro past relay event next before same taken
    rw [(traced_step (run_traced before) taken).2, same, along_snoc]
    refine and_congr_right fun _ => ⟨fun opened other again => ?_, fun opened => opened relay before⟩
    cases before.symm.trans again
    exact opened

/-- The first block of a second resource goes out without a media type of its own. -/
theorem second_resource_headerless :
    ∃ relay, run (step letters) (.start blank) ([introduceEvent 1 97, introduceEvent 0 98, requestEvent 97,
      resumeEvent] ++ [.cs (blockEvent quiet 0 4)] ++ [requestEvent 98]) = some relay ∧
      ¬HeaderFirst relay.history := by
  obtain ⟨relay, ran, fresh, proto, first⟩ := second_resource_fresh
  obtain ⟨recorded, payload, stored, due, pushed⟩ := fresh.pushed (run_consistent ran)
  obtain ⟨middle, kept, supplied⟩ := cs_taken stored
  obtain ⟨same, unchanged⟩ := cs_step kept
  have reached := run_snoc_eq_some.mpr ⟨relay, ran, kept⟩
  obtain ⟨last, asked⟩ : ∃ last, step letters middle (requestEvent 98) = some last := by
    simp only [step, requestEvent, same, proto, read_request]
    rw [supplied, getPushList, if_pos rfl]
    have ids : sortedBlocks ⟨.fill _ 98, ⟨0, 0, 0⟩, 1, [0]⟩ = [0] := rfl
    rw [pushOn, ids, pushed]
    exact ⟨_, rfl⟩
  refine ⟨last, run_snoc_eq_some.mpr ⟨middle, reached, asked⟩, fun ordered => ?_⟩
  have opened := ((traced_step (run_traced reached) asked).2.mp ordered).2
  have other := opened (by rw [same, proto]) rfl _ read_request (by rw [supplied]; exact due)
  rw [unchanged, first] at other
  exact absurd other (by decide)

theorem first_resource_introduced :
    ∃ relay payload, run (step letters) (.start blank) ([introduceEvent 0 98, requestEvent 98] ++
      [.cs (blockEvent quiet 0 4)] ++ [resumeEvent]) = some relay ∧
      .sent (.response (.fill _ 98) payload) ∈ relay.history ∧ HeaderFirst relay.history := by
  obtain ⟨relay, ran, fresh, proto, first⟩ := first_resource_fresh
  obtain ⟨recorded, payload, stored, due, pushed⟩ := fresh.pushed (run_consistent ran)
  obtain ⟨middle, kept, supplied⟩ := cs_taken stored
  obtain ⟨same, unchanged⟩ := cs_step kept
  have reached := run_snoc_eq_some.mpr ⟨relay, ran, kept⟩
  obtain ⟨last, resumed, history⟩ : ∃ last, step letters middle resumeEvent = some last ∧
      last.history = middle.history ++ [.sent (.response (.fill _ 98) payload)] := by
    simp only [step, resumeEvent, same, proto]
    rw [supplied, pushOn, pushed]
    exact ⟨_, rfl, rfl⟩
  have whole := run_snoc_eq_some.mpr ⟨middle, reached, resumed⟩
  refine ⟨last, payload, whole, by rw [history]; exact List.mem_append_right _ (List.mem_singleton_self _), ?_⟩
  have early : Along (step letters) (.start blank) [introduceEvent 0 98, requestEvent 98] Opened := by
    refine along_cons.mpr ⟨trivial, fun next taken => along_cons.mpr ⟨fun flag => ?_, fun _ _ => along_nil⟩⟩
    rw [(cs_step taken).1] at flag
    cases flag
  refine (header_first_iff_opened letters blank _ last whole).mpr
    (along_snoc.mpr ⟨along_snoc.mpr ⟨early, fun _ _ => trivial⟩, fun state again => ?_⟩)
  cases reached.symm.trans again
  rintro resourceMd5 ids pushing -
  rw [same, proto] at pushing
  cases pushing
  rw [unchanged, first]

end RabbitStreamer.Sp.MediaHeader
