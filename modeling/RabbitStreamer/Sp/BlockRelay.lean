import RabbitStreamer.Core.MessageCodec
import RabbitStreamer.Sp.CsConnector
import RabbitStreamer.Sp.NpConnector

/-! From the capture servers' blocks to the responses: which stored block a super peer finds
under an id, and what it sends of it. -/

namespace RabbitStreamer.Sp.BlockRelay
open RabbitStreamer.Lib RabbitStreamer.Lib.Bytes RabbitStreamer.Lib.Memory RabbitStreamer.Lib.SlidingWindow
open RabbitStreamer.Core.Struct RabbitStreamer.Core.Streamer
open RabbitStreamer.Core.Message RabbitStreamer.Core.Message.P2PMESSAGE
open RabbitStreamer.Protocol.BufferQueue RabbitStreamer.Protocol.BufferQueue.RsBufferQueue
open RabbitStreamer.Sp.SourceManager RabbitStreamer.Sp.CsConnector RabbitStreamer.Sp.NpConnector

/-- The rings represent what the log says was stored on their channels. Beyond 2^31 blocks on
one channel the code's counters leave the range of an `int`. -/
structure Consistent (sources : SourceMap) (fills : List Fill) : Prop where
  queues : ∀ entry ∈ sources.entries, (onChannel fills entry.1).length ≤ 2147483648 →
    Represents entry.2 MAX_BUFFER_SIZE ((onChannel fills entry.1).map Fill.block)
  slots : ∀ hash (k : Nat) fill, k < 2147483648 → (onChannel fills hash)[k]? = some fill →
    fill.slot = k % MAX_BUFFER_SIZE
  known : ∀ fill ∈ fills, ∃ entry ∈ sources.entries, entry.1.rank = fill.hash.rank
  ids : ∀ fill ∈ fills, IsInt32 fill.block.id

theorem onChannel_congr (fills : List Fill) {first second : MD5HashStr} (same : first.rank = second.rank) :
    onChannel fills first = onChannel fills second := by
  simp only [onChannel, same]

theorem onChannel_snoc_self (fills : List Fill) {fill : Fill} {hash : MD5HashStr}
    (same : fill.hash.rank = hash.rank) : onChannel (fills ++ [fill]) hash = onChannel fills hash ++ [fill] := by
  simp [onChannel, same]

theorem onChannel_snoc_of_ne (fills : List Fill) {fill : Fill} {hash : MD5HashStr}
    (other : fill.hash.rank ≠ hash.rank) : onChannel (fills ++ [fill]) hash = onChannel fills hash := by
  simp [onChannel, other]

theorem consistent_start (unset : Nat → MD5HashStr) :
    Consistent (start unset).peer.sources (start unset).fills where
  queues := by simp [start, OrderedMap.empty]
  slots := by simp [start, onChannel]
  known := by simp [start]
  ids := by simp [start]

theorem Consistent.createSource {sources : SourceMap} {fills : List Fill} (consistent : Consistent sources fills)
    (around : Surroundings) (hash : MD5HashStr) (name : List UInt8) (source : Bool) :
    Consistent (sources.createSource around hash name source) fills := by
  cases known : sources.getBufferQueue hash with
  | some queue => simpa only [SourceMap.createSource, known] using consistent
  | none =>
    simp only [SourceMap.createSource, known]
    have absent := OrderedMap.find_eq_none.mp (getBufferQueue_eq_none.mp known)
    refine ⟨fun entry member short => ?_, consistent.slots, fun fill member => ?_, consistent.ids⟩
    · rcases OrderedMap.eq_or_mem_of_mem_insertEntry member with rfl | old
      · have unused : onChannel fills hash = [] := by
          refine List.filter_eq_nil_iff.mpr fun fill member => ?_
          obtain ⟨entry, listed, same⟩ := consistent.known fill member
          have other := absent entry listed
          rw [same] at other
          simpa using other
        rw [unused]
        exact represents_reserved around.now hash name source MAX_BUFFER_SIZE (by decide) around.unset
      · exact consistent.queues entry old short
    · obtain ⟨entry, listed, same⟩ := consistent.known fill member
      exact ⟨entry, OrderedMap.mem_insertEntry_of_mem listed, same⟩

theorem Consistent.addHeader {sources : SourceMap} {fills : List Fill} (consistent : Consistent sources fills)
    (hash : MD5HashStr) (header : List UInt8) : Consistent (sources.addHeader hash header) fills := by
  refine ⟨fun entry member short => ?_, consistent.slots, fun fill member => ?_, consistent.ids⟩
  · obtain ⟨queue, old, same⟩ := OrderedMap.mem_adjust member
    have before := consistent.queues _ old short
    rw [same]
    split_ifs
    · exact ⟨before.number, before.slots, before.full, before.index, before.minId, before.minIndex,
        before.sizes, before.stored⟩
    · exact before
  · obtain ⟨entry, listed, same⟩ := consistent.known fill member
    exact OrderedMap.exists_key_adjust listed same

theorem Consistent.queue {sources : SourceMap} {fills : List Fill} (consistent : Consistent sources fills)
    {hash : MD5HashStr} {queue : RsBufferQueue} (known : sources.getBufferQueue hash = some queue)
    (few : (onChannel fills hash).length ≤ 2147483648) :
    Represents queue MAX_BUFFER_SIZE ((onChannel fills hash).map Fill.block) := by
  obtain ⟨key, found⟩ := getBufferQueue_eq_some.mp known
  have ⟨present, same⟩ := OrderedMap.find_eq_some.mp found
  have represents := consistent.queues _ present
  simp only [onChannel_congr fills same] at represents
  exact represents few

theorem Consistent.store {sources : SourceMap} {fills : List Fill} (consistent : Consistent sources fills)
    {hash : MD5HashStr} {queue next : RsBufferQueue} {slot : Nat} {block : Block}
    (known : sources.getBufferQueue hash = some queue) (stored : storeBlock queue block = some next)
    (place : queue.slotAt queue.queueIndex = some slot) (int : IsInt32 block.id) :
    Consistent (sources.adjust hash fun _ => next) (fills ++ [⟨hash, slot, block⟩]) := by
  have grown : ∀ other : MD5HashStr, hash.rank = other.rank →
      onChannel (fills ++ [⟨hash, slot, block⟩]) other = onChannel fills hash ++ [⟨hash, slot, block⟩] := by
    intro other self
    rw [onChannel_congr fills self]
    exact onChannel_snoc_self fills self
  have kept : ∀ other : MD5HashStr, hash.rank ≠ other.rank →
      onChannel (fills ++ [⟨hash, slot, block⟩]) other = onChannel fills other :=
    fun other differs => onChannel_snoc_of_ne fills differs
  refine ⟨fun entry member short => ?_, fun other k fill few at_k => ?_, fun fill member => ?_,
    fun fill member => ?_⟩
  · obtain ⟨value, old, same⟩ := OrderedMap.mem_adjust member
    by_cases self : entry.1.rank = hash.rank
    · rw [grown entry.1 self.symm, List.length_append, List.length_singleton] at short
      rw [same, if_pos self, grown entry.1 self.symm, List.map_append]
      obtain ⟨after, made, represents⟩ := (consistent.queue known (by omega)).store (by decide) (by decide)
        (by rw [List.length_map]; omega) block
      rw [stored] at made
      cases made
      exact represents
    · rw [kept entry.1 (Ne.symm self)] at short
      rw [same, if_neg self, kept entry.1 (Ne.symm self)]
      exact consistent.queues _ old short
  · by_cases self : hash.rank = other.rank
    · rw [grown other self] at at_k
      rcases Nat.lt_or_ge k (onChannel fills hash).length with early | late
      · rw [List.getElem?_append_left early] at at_k
        exact consistent.slots hash k fill few at_k
      · have ⟨inside, last⟩ := List.getElem?_eq_some_iff.mp at_k
        rw [List.length_append, List.length_singleton] at inside
        have end_k : k = (onChannel fills hash).length := by omega
        subst end_k
        rw [List.getElem_concat_length rfl] at last
        have represents := consistent.queue known (Nat.le_of_lt few)
        have at_index := represents.index
        rw [List.length_map] at at_index
        rw [at_index, slotAt_residue represents (by decide)] at place
        cases place
        rw [← last]
    · rw [kept other self] at at_k
      exact consistent.slots other k fill few at_k
  · rcases List.mem_append.mp member with old | new
    · obtain ⟨entry, entryThere, same⟩ := consistent.known fill old
      exact OrderedMap.exists_key_adjust entryThere same
    · obtain ⟨key, found⟩ := getBufferQueue_eq_some.mp known
      have ⟨present, sameKey⟩ := OrderedMap.find_eq_some.mp found
      rw [List.mem_singleton.mp new]
      exact OrderedMap.exists_key_adjust present sameKey
  · rcases List.mem_append.mp member with old | new
    · exact consistent.ids fill old
    · rw [List.mem_singleton.mp new]
      exact int

theorem kept_consistent (md5 : List UInt8 → ByteArr MD5_LEN) : Kept md5 Consistent where
  create consistent around _ _ _ := consistent.createSource around _ _ _
  header consistent hash header := consistent.addHeader hash header
  store consistent _ _ _ _ _ known stored place int := consistent.store known stored place int

theorem run_consistent {md5 : List UInt8 → ByteArr MD5_LEN} {unset : Nat → MD5HashStr} {events : List CsEvent}
    {recorded : Recorded} (ran : Transition.run (step md5) (start unset) events = some recorded) :
    Consistent recorded.peer.sources recorded.fills :=
  (kept_consistent md5).run (consistent_start unset) ran

theorem fills_grow {md5 : List UInt8 → ByteArr MD5_LEN} {recorded final : Recorded} {events : List CsEvent}
    (consistent : Consistent recorded.peer.sources recorded.fills)
    (ran : Transition.run (step md5) recorded events = some final) : recorded.fills <+: final.fills := by
  refine (Transition.run_invariant (fun state => Consistent state.peer.sources state.fills ∧
    recorded.fills <+: state.fills) ?_ ⟨consistent, List.prefix_refl _⟩ ran).2
  rintro state event next ⟨before, grown⟩ taken
  obtain ⟨more, same⟩ := step_fills taken
  exact ⟨(kept_consistent md5).step before taken, same ▸ grown.trans (List.prefix_append _ _)⟩

theorem onChannel_grows {fills more : List Fill} (grown : fills <+: more) (hash : MD5HashStr) :
    onChannel fills hash <+: onChannel more hash := grown.filter _

theorem Consistent.lastFill_eq {sources : SourceMap} {fills : List Fill} (consistent : Consistent sources fills)
    (hash : MD5HashStr) {k : Nat} (few : (onChannel fills hash).length < 2147483648)
    (inside : oldest MAX_BUFFER_SIZE (onChannel fills hash).length ≤ k ∧ k < (onChannel fills hash).length) :
    lastFill fills hash (k % MAX_BUFFER_SIZE) = (onChannel fills hash)[k]? := by
  have ⟨fill, at_k⟩ : ∃ fill, (onChannel fills hash)[k]? = some fill := ⟨_, List.getElem?_eq_getElem inside.2⟩
  rw [at_k]
  refine find?_reverse_eq at_k ?_ fun j other later at_j => ?_
  · exact decide_eq_true (consistent.slots hash k fill (by omega) at_k)
  · have ⟨before, _⟩ := List.getElem?_eq_some_iff.mp at_j
    have place := consistent.slots hash j other (by omega) at_j
    refine decide_eq_false fun same => ?_
    have apart := residue_injective (Nat.le_trans inside.1 (Nat.le_of_lt later)) before inside.1 inside.2
      (place.symm.trans same)
    omega

theorem Consistent.dequeueBlock_eq {sources : SourceMap} {fills : List Fill} (consistent : Consistent sources fills)
    (hash : MD5HashStr) (few : (onChannel fills hash).length < 2147483648) {queue : RsBufferQueue}
    (known : sources.getBufferQueue hash = some queue) :
    Represents queue MAX_BUFFER_SIZE ((onChannel fills hash).map Fill.block) ∧ ∀ blockId,
      queue.dequeueBuffer blockId = some (
        if (oldest MAX_BUFFER_SIZE (onChannel fills hash).length : Int) ≤ blockId ∧
            blockId < (onChannel fills hash).length then
          some (blockId.toNat % MAX_BUFFER_SIZE)
        else none) := by
  have represents := consistent.queue known (Nat.le_of_lt few)
  refine ⟨represents, fun blockId => ?_⟩
  have dequeued := represents.dequeue (by decide) (by decide) (by rw [List.length_map]; exact few) blockId
  rwa [List.length_map] at dequeued

theorem Consistent.found {sources : SourceMap} {fills : List Fill} (consistent : Consistent sources fills)
    {hash : MD5HashStr} (few : (onChannel fills hash).length < 2147483648) {blockId : Int} {code slot : Nat}
    {buf : MediaBuffer} (found : sources.dequeueBlock hash blockId = some (code, some (slot, buf))) :
    ∃ (k : Nat) (fill : Fill), blockId = k ∧ (onChannel fills hash)[k]? = some fill ∧
      lastFill fills hash slot = some fill ∧ Stores buf fill.block ∧ buf.blockSize = MEDIA_BLOCK_SIZE := by
  cases known : sources.getBufferQueue hash with
  | none => simp [SourceMap.dequeueBlock, known] at found
  | some queue =>
    have ⟨represents, dequeued⟩ := consistent.dequeueBlock_eq hash few known
    simp only [SourceMap.dequeueBlock, known, dequeued, Option.bind_eq_bind, Option.bind_some] at found
    split_ifs at found with inside
    · simp only [Option.pure_def, Option.bind_eq_some_iff] at found
      obtain ⟨slotBuf, at_slot, same⟩ := found
      simp only [Option.some.injEq, Prod.mk.injEq] at same
      obtain ⟨rfl, rfl, rfl⟩ := same
      have natural : oldest MAX_BUFFER_SIZE (onChannel fills hash).length ≤ blockId.toNat ∧
          blockId.toNat < (onChannel fills hash).length := by omega
      obtain ⟨served, block, at_residue, at_position, stores⟩ :=
        represents.served blockId.toNat (by rw [List.length_map]; exact natural)
      rw [at_slot] at at_residue
      cases at_residue
      rw [List.getElem?_map] at at_position
      obtain ⟨fill, at_k, rfl⟩ := Option.map_eq_some_iff.mp at_position
      exact ⟨blockId.toNat, fill, by omega, at_k, (consistent.lastFill_eq hash few natural).trans at_k, stores,
        represents.sizes _ (List.mem_of_getElem? at_slot)⟩
    · cases found

theorem Consistent.newest {sources : SourceMap} {fills : List Fill} (consistent : Consistent sources fills)
    {hash : MD5HashStr} (k : Nat) (count : (onChannel fills hash).length = k + 1) (few : k + 1 < 2147483648) :
    ∃ slot buf, sources.dequeueBlock hash k = some (ERROR_SUCCESS, some (slot, buf)) := by
  have ⟨fill, at_k⟩ : ∃ fill, (onChannel fills hash)[k]? = some fill :=
    ⟨_, List.getElem?_eq_getElem (by omega)⟩
  have member := List.mem_filter.mp (List.mem_of_getElem? at_k)
  obtain ⟨entry, listed, same⟩ := consistent.known fill member.1
  have known : sources.getBufferQueue hash = some entry.2 := by
    refine getBufferQueue_eq_some.mpr ⟨entry.1, OrderedMap.find_eq_some.mpr ⟨listed, ?_⟩⟩
    exact same.trans (by simpa using member.2)
  have ⟨represents, dequeued⟩ := consistent.dequeueBlock_eq hash (by omega) known
  have inside : (oldest MAX_BUFFER_SIZE (onChannel fills hash).length : Int) ≤ (k : Int) ∧
      (k : Int) < (onChannel fills hash).length := by
    rw [count]
    unfold oldest MAX_BUFFER_SIZE
    omega
  have slots := represents.slots
  have room : k % MAX_BUFFER_SIZE < entry.2.bufferVector.length := by
    rw [slots]
    exact Nat.mod_lt _ (by decide)
  refine ⟨k % MAX_BUFFER_SIZE, entry.2.bufferVector[k % MAX_BUFFER_SIZE], ?_⟩
  simp only [SourceMap.dequeueBlock, known, dequeued, if_pos inside, Int.toNat_natCast, Option.bind_eq_bind,
    Option.bind_some, List.getElem?_eq_getElem room]
  rfl

/-- A block found on the channel was last filled under the id it was asked for. -/
def ServesAsked (recorded : Recorded) (hash : MD5HashStr) : Prop :=
  ∀ blockId code slot buf, IsInt32 blockId →
    recorded.peer.sources.dequeueBlock hash blockId = some (code, some (slot, buf)) →
    ∃ fill, lastFill recorded.fills hash slot = some fill ∧ fill.block.id = blockId

/-- The blocks stored on the channel so far carry the ids 0, 1, 2 and so on. -/
def InOrder (fills : List Fill) (hash : MD5HashStr) : Prop :=
  ∀ (k : Nat) (fill : Fill), (onChannel fills hash)[k]? = some fill → fill.block.id = k

theorem InOrder.of_grown {fills more : List Fill} {hash : MD5HashStr} (inOrder : InOrder more hash)
    (grown : fills <+: more) : InOrder fills hash := by
  intro k fill at_k
  have ⟨inside, _⟩ := List.getElem?_eq_some_iff.mp at_k
  obtain ⟨rest, split⟩ := onChannel_grows grown hash
  refine inOrder k fill ?_
  rw [← split, List.getElem?_append_left inside]
  exact at_k

theorem Consistent.length_le {sources : SourceMap} {fills : List Fill} (consistent : Consistent sources fills)
    {hash : MD5HashStr} (inOrder : InOrder fills hash) : (onChannel fills hash).length ≤ 2147483648 := by
  by_contra many
  have inside : 2147483648 < (onChannel fills hash).length := by omega
  have at_k := List.getElem?_eq_getElem inside
  have id := inOrder _ _ at_k
  have int := consistent.ids _ (List.mem_filter.mp (List.mem_of_getElem? at_k)).1
  rw [id] at int
  exact absurd int.2 (by decide)

theorem Consistent.found_inOrder {sources : SourceMap} {fills : List Fill} (consistent : Consistent sources fills)
    {hash : MD5HashStr} (inOrder : InOrder fills hash) {blockId : Int} (int : IsInt32 blockId) {code slot : Nat}
    {buf : MediaBuffer} (found : sources.dequeueBlock hash blockId = some (code, some (slot, buf))) :
    ∃ (k : Nat) (fill : Fill), blockId = k ∧ (onChannel fills hash)[k]? = some fill ∧
      lastFill fills hash slot = some fill ∧ Stores buf fill.block ∧ buf.blockSize = MEDIA_BLOCK_SIZE := by
  rcases Nat.lt_or_eq_of_le (consistent.length_le inOrder) with few | full
  · exact consistent.found few found
  · cases known : sources.getBufferQueue hash with
    | none => simp [SourceMap.dequeueBlock, known] at found
    | some queue =>
      obtain ⟨key, listed⟩ := getBufferQueue_eq_some.mp known
      have ⟨member, same⟩ := OrderedMap.find_eq_some.mp listed
      have represents := consistent.queues _ member
      simp only [onChannel_congr fills same] at represents
      have nothing := (represents (Nat.le_of_eq full)).dequeue_overflow (by rw [List.length_map]; exact full) int
      simp [SourceMap.dequeueBlock, known, nothing] at found

theorem Consistent.servesAsked {recorded : Recorded} (consistent : Consistent recorded.peer.sources recorded.fills)
    {hash : MD5HashStr} (inOrder : InOrder recorded.fills hash) : ServesAsked recorded hash := by
  intro blockId code slot buf int found
  obtain ⟨k, fill, rfl, at_k, last, _⟩ := consistent.found_inOrder inOrder int found
  exact ⟨fill, last, inOrder k fill at_k⟩

theorem reached {md5 : List UInt8 → ByteArr MD5_LEN} {unset : Nat → MD5HashStr} {hash : MD5HashStr}
    {events : List CsEvent} {final : Recorded}
    (ran : Transition.run (step md5) (start unset) events = some final) {k : Nat}
    (below : k < (onChannel final.fills hash).length) :
    ∃ past recorded, past <+: events ∧ Transition.run (step md5) (start unset) past = some recorded ∧
      (onChannel recorded.fills hash).length = k + 1 := by
  refine Transition.run_history (fun events state => k < (onChannel state.fills hash).length →
    ∃ past recorded, past <+: events ∧ Transition.run (step md5) (start unset) past = some recorded ∧
      (onChannel recorded.fills hash).length = k + 1) ?_ ?_ ran below
  · intro stored
    simp [start, onChannel] at stored
  · intro past state event next before earlier taken more
    obtain ⟨fill, grown⟩ := step_fills taken
    by_cases already : k < (onChannel state.fills hash).length
    · obtain ⟨start, recorded, early, reachedIt, count⟩ := earlier already
      exact ⟨start, recorded, early.trans (List.prefix_append _ _), reachedIt, count⟩
    · refine ⟨past ++ [event], next, List.prefix_refl _, Transition.run_snoc_eq_some.mpr ⟨state, before, taken⟩, ?_⟩
      have one : (onChannel next.fills hash).length ≤ (onChannel state.fills hash).length + 1 := by
        rw [grown]
        cases fill with
        | none => simp
        | some fill =>
          simp only [onChannel, Option.toList_some, List.filter_append, List.length_append]
          have single := List.length_filter_le (fun fill : Fill => decide (fill.hash.rank = hash.rank)) [fill]
          rw [List.length_singleton] at single
          omega
      omega

theorem fills_grow_along {md5 : List UInt8 → ByteArr MD5_LEN} {unset : Nat → MD5HashStr} {past events : List CsEvent}
    {recorded final : Recorded} (early : past <+: events)
    (before : Transition.run (step md5) (start unset) past = some recorded)
    (ran : Transition.run (step md5) (start unset) events = some final) : recorded.fills <+: final.fills := by
  obtain ⟨rest, rfl⟩ := early
  obtain ⟨middle, first, second⟩ := Transition.run_append_eq_some.mp ran
  rw [before] at first
  cases first
  exact fills_grow (run_consistent before) second

theorem found_of_taken {sources : SourceMap} {fills : List Fill} (consistent : Consistent sources fills)
    {hash : MD5HashStr} (few : (onChannel fills hash).length < 2147483648) {id : Nat} {fill : Fill}
    (taken : (onChannel fills hash)[id]? = some fill)
    (recent : oldest MAX_BUFFER_SIZE (onChannel fills hash).length ≤ id) :
    ∃ slot buf, sources.dequeueBlock hash id = some (ERROR_SUCCESS, some (slot, buf)) ∧ Stores buf fill.block := by
  obtain ⟨inside, _⟩ := List.getElem?_eq_some_iff.mp taken
  obtain ⟨member, rank⟩ := List.mem_filter.mp (List.mem_of_getElem? taken)
  obtain ⟨entry, listed, same⟩ := consistent.known fill member
  have found : sources.find hash = some entry :=
    OrderedMap.find_eq_some.mpr ⟨listed, same.trans (of_decide_eq_true rank)⟩
  have known : sources.getBufferQueue hash = some entry.2 := getBufferQueue_eq_some.mpr ⟨entry.1, found⟩
  obtain ⟨represents, dequeued⟩ := consistent.dequeueBlock_eq hash few known
  obtain ⟨buf, block, at_slot, at_position, stores⟩ :=
    represents.served id (by rw [List.length_map]; exact ⟨recent, inside⟩)
  rw [List.getElem?_map, taken] at at_position
  cases at_position
  refine ⟨id % MAX_BUFFER_SIZE, buf, ?_, stores⟩
  have window : (oldest MAX_BUFFER_SIZE (onChannel fills hash).length : Int) ≤ (id : Int) ∧
      (id : Int) < (onChannel fills hash).length := ⟨Int.ofNat_le.mpr recent, Int.ofNat_lt.mpr inside⟩
  simp only [SourceMap.dequeueBlock, known, dequeued, if_pos window, Int.toNat_natCast, Option.bind_eq_bind,
    Option.bind_some, at_slot]
  rfl

theorem sendOneBlock_eq_some {sources : SourceMap} {heap : Heap} {resourceHash : ByteArr MD5_LEN} {id : UInt32}
    {payload : List UInt8} (sent : sendOneBlock sources heap resourceHash id = .ok (some payload)) :
    ∃ code slot buf,
      sources.dequeueBlock (.ofMd5 resourceHash (.init 0)) (toInt32 id) = some (code, some (slot, buf)) ∧
      pack heap (blockResponse resourceHash id buf) = .ok payload := by
  simp only [sendOneBlock] at sent
  cases found : sources.dequeueBlock (.ofMd5 resourceHash (.init 0)) (toInt32 id) with
  | none =>
    rw [found] at sent
    cases sent
  | some answer =>
    obtain ⟨code, place⟩ := answer
    rw [found] at sent
    cases place with
    | none => cases sent
    | some place =>
      refine ⟨code, place.1, place.2, rfl, ?_⟩
      cases packed : pack heap (blockResponse resourceHash id place.2) with
      | error reason =>
        simp only [packed] at sent
        cases sent
      | ok bytes =>
        simp only [packed] at sent
        cases sent
        rfl

theorem sendOneBlock_of_found {sources : SourceMap} (heap : Heap) {resourceHash : ByteArr MD5_LEN} {id : UInt32}
    {code slot : Nat} {buf : MediaBuffer}
    (found : sources.dequeueBlock (.ofMd5 resourceHash (.init 0)) (toInt32 id) = some (code, some (slot, buf)))
    (full : buf.blockSize = MEDIA_BLOCK_SIZE) :
    sendOneBlock sources heap resourceHash id = .ok (some (responseFrame resourceHash id buf.buffer.data)) := by
  simp only [sendOneBlock, found, pack_blockResponse heap resourceHash id full]
  rfl

theorem getBufferQueue_createSource (sources : SourceMap) (around : Surroundings) (hash : MD5HashStr)
    (name : List UInt8) (source : Bool) :
    ∃ queue, (sources.createSource around hash name source).getBufferQueue hash = some queue := by
  cases known : sources.getBufferQueue hash with
  | some queue => exact ⟨queue, by simp only [SourceMap.createSource, known]⟩
  | none =>
    simp only [SourceMap.createSource, known]
    have inserted := OrderedMap.find_insert_self
      ((init around.now hash name source).reserveBuffer MAX_BUFFER_SIZE around.unset)
      (getBufferQueue_eq_none.mp known)
    exact ⟨_, getBufferQueue_eq_some.mpr ⟨hash, inserted⟩⟩

theorem block_taken (md5 : List UInt8 → ByteArr MD5_LEN) {recorded : Recorded}
    (consistent : Consistent recorded.peer.sources recorded.fills) (event : CsEvent) {queue : RsBufferQueue}
    (type : event.message.msgType = CS2SP_BLOCK)
    (known : recorded.peer.sources.getBufferQueue (recorded.peer.chnlHash event.conn) = some queue)
    (few : (onChannel recorded.fills (recorded.peer.chnlHash event.conn)).length < 2147483648)
    (fits : 0 ≤ intAt event.message.msg 4 ∧ intAt event.message.msg 4 ≤ MEDIA_BLOCK_SIZE) :
    ∃ next fill, step md5 recorded event = some next ∧ next.fills = recorded.fills ++ [fill] ∧
      fill.hash = recorded.peer.chnlHash event.conn ∧ fill.block.id = intAt event.message.msg 0 ∧
      fill.block.data = view event.message.msg 8 (intAt event.message.msg 4).toNat := by
  have ⟨represents, _⟩ := consistent.dequeueBlock_eq _ few known
  have room : (view event.message.msg 8 (intAt event.message.msg 4).toNat).length ≤ MEDIA_BLOCK_SIZE := by
    rw [view_length]
    omega
  obtain ⟨block, made⟩ : ∃ block, Block.make (intAt event.message.msg 0)
      (view event.message.msg 8 (intAt event.message.msg 4).toNat) = some block := ⟨_, dif_pos room⟩
  have ⟨id, data⟩ := Block.make_eq_some.mp made
  obtain ⟨after, stored, _⟩ := represents.store (by decide) (by decide) (by rw [List.length_map]; exact few) block
  obtain ⟨peer, slot, taken⟩ := getBlock_stores known stored id fits.1 data
  refine ⟨⟨peer, recorded.fills ++ [⟨_, slot, block⟩]⟩, _, ?_, rfl, rfl, id, data⟩
  have other : CS2SP_BLOCK ≠ CS2SP_REGISTER := by decide
  simp only [step, type, taken, if_neg other, if_true, Option.map_some, Option.toList_some]

section OneBlock

variable (md5 : List UInt8 → ByteArr MD5_LEN) (unset : Nat → MD5HashStr) (around : Around)

def registerEvent : CsEvent := ⟨0, ⟨CS2SP_REGISTER, ofBytes [], 54⟩, around⟩

/-- It sends a block of `size` bytes, all zero. -/
def blockEvent (id size : UInt32) : CsEvent :=
  ⟨0, ⟨CS2SP_BLOCK, ofBytes (le32 id ++ le32 size), 8 + toInt32 size⟩, around⟩

theorem blockEvent_id (id size : UInt32) : intAt (blockEvent around id size).message.msg 0 = toInt32 id := by
  have word := view_ofBytes [] (le32 id) (le32 size)
  simp only [le32_length, List.nil_append, List.length_nil] at word
  rw [intAt, blockEvent, word, ofLe32_le32]

theorem blockEvent_size (id size : UInt32) : intAt (blockEvent around id size).message.msg 4 = toInt32 size := by
  have word := view_ofBytes (le32 id) (le32 size) []
  simp only [le32_length, List.append_nil] at word
  rw [intAt, blockEvent, word, ofLe32_le32]

theorem getRegister_empty (peer : SuperPeer) :
    getRegister md5 peer 0 around (ofBytes []) =
      let hash : MD5HashStr := .ofMd5 (md5 []) (peer.chnlHash 0).blockInterval
      some ⟨peer.sources.createSource around.toSurroundings hash (around.behindName.takeWhile (· ≠ 0)) true,
        Function.update peer.chnlHash 0 hash⟩ := by
  have nameless : (ofBytes [] 0).toInt8.toInt = 0 := by decide
  have headerless : intAt (ofBytes []) (1 + 0 + 4 + MD5_LEN + 4 + 4 + 4 + 1) = 0 := by decide
  simp only [getRegister, nameless, Int.toNat_zero, view_zero, List.nil_append, lt_self_iff_false, if_false,
    headerless, if_true]

theorem registered : ∃ recorded queue, step md5 (start unset) (registerEvent around) = some recorded ∧
    recorded.fills = [] ∧ (recorded.peer.chnlHash 0).rank = (MD5HashStr.ofMd5 (md5 []) (.init 0)).rank ∧
    recorded.peer.sources.getBufferQueue (recorded.peer.chnlHash 0) = some queue := by
  obtain ⟨hash, same⟩ : ∃ hash : MD5HashStr, hash = .ofMd5 (md5 []) (unset 0).blockInterval := ⟨_, rfl⟩
  obtain ⟨queue, known⟩ := getBufferQueue_createSource .empty around.toSurroundings hash
    (around.behindName.takeWhile (· ≠ 0)) true
  generalize created : SourceMap.createSource .empty around.toSurroundings hash
    (around.behindName.takeWhile (· ≠ 0)) true = sources at known
  refine ⟨⟨⟨sources, Function.update unset 0 hash⟩, []⟩, queue, ?_, rfl, ?_, ?_⟩
  · have taken := getRegister_empty md5 around (start unset).peer
    simp only [step, registerEvent, if_true, taken, ← created, same]
    rfl
  · simp only [Function.update_self, same]
    rfl
  · simpa only [Function.update_self] using known

theorem inOrder_of_ids {fills : List Fill} {hash : MD5HashStr} (count : Nat)
    (ids : (onChannel fills hash).map (fun fill => fill.block.id) = (List.range count).map Int.ofNat) :
    InOrder fills hash := by
  intro k fill at_k
  have ⟨inside, same⟩ := List.getElem?_eq_some_iff.mp at_k
  have current := congrArg (fun list => list[k]?) ids
  have bound : k < count := by
    have lengths := congrArg List.length ids
    simp only [List.length_map, List.length_range] at lengths
    omega
  simp only [List.getElem?_map, at_k, List.getElem?_range bound, Option.map_some, Option.some.injEq] at current
  exact current

theorem one_block (id size : UInt32) (fits : size.toNat ≤ MEDIA_BLOCK_SIZE) :
    ∃ final fill, Transition.run (step md5) (start unset) [registerEvent around, blockEvent around id size] =
        some final ∧
      onChannel final.fills (.ofMd5 (md5 []) (.init 0)) = [fill] ∧ fill.block.id = toInt32 id ∧
      fill.block.data = view (ofBytes (le32 id ++ le32 size)) 8 size.toNat := by
  obtain ⟨recorded, queue, taken, unstored, rank, known⟩ := registered md5 unset around
  have consistent := (kept_consistent md5).step (consistent_start unset) taken
  have word : toInt32 size = size.toNat := toInt32_of_lt (by unfold MEDIA_BLOCK_SIZE at fits; omega)
  obtain ⟨final, fill, stored, log, hash, sameId, data⟩ := block_taken md5 consistent
    (blockEvent around id size) rfl known
    (by rw [unstored]; exact Nat.two_pow_pos 31) (by rw [blockEvent_size, word]; omega)
  refine ⟨final, fill, ?_, ?_, sameId.trans (blockEvent_id around id size), ?_⟩
  · exact Transition.run_cons_eq_some.mpr ⟨recorded, taken, Transition.run_cons_eq_some.mpr ⟨final, stored, rfl⟩⟩
  · rw [log, unstored, onChannel_snoc_self [] (by rw [hash]; exact rank)]
    rfl
  · rw [data, blockEvent_size, word]
    rfl

theorem one_block_sent (heap : Heap) (size : UInt32) (fits : size.toNat ≤ MEDIA_BLOCK_SIZE) :
    ∃ final payload, Transition.run (step md5) (start unset) [registerEvent around, blockEvent around 0 size] =
        some final ∧
      InOrder final.fills (.ofMd5 (md5 []) (.init 0)) ∧
      (∃ fill, onChannel final.fills (.ofMd5 (md5 []) (.init 0)) = [fill] ∧ fill.block.data.length = size.toNat) ∧
      sendOneBlock final.peer.sources heap (md5 []) 0 = .ok (some payload) ∧
      payload.length = 45 + MEDIA_BLOCK_SIZE := by
  obtain ⟨final, fill, ran, channel, id, data⟩ := one_block md5 unset around 0 size fits
  have consistent := run_consistent ran
  obtain ⟨slot, buf, found⟩ := consistent.newest 0 (by rw [channel]; rfl) (by decide)
  obtain ⟨_, _, _, _, _, _, full⟩ := consistent.found (by rw [channel, List.length_singleton]; decide) found
  refine ⟨final, responseFrame (md5 []) 0 buf.buffer.data, ran,
    inOrder_of_ids 1 (by rw [channel, List.map_singleton, id]; decide), ⟨fill, channel, ?_⟩, ?_, ?_⟩
  · rw [data, view_length]
  · have zero : toInt32 0 = ((0 : Nat) : Int) := by decide
    rw [← zero] at found
    exact sendOneBlock_of_found heap found full
  · rw [responseFrame_length, buf.buffer.size]

end OneBlock

def digest : List UInt8 → ByteArr MD5_LEN := fun _ => .fill _ 97
def blank : Nat → MD5HashStr := fun _ => .ofMd5 (.fill _ 0) (.init 0)
def quiet : Around := ⟨⟨0, fun _ => .fill _ 0⟩, []⟩

/-- A served block is always the one asked for when the ids stored on the channel count up from
zero, and, as long as an `int` can count the blocks, only then. -/
theorem served_block_iff_in_order (md5 : List UInt8 → ByteArr MD5_LEN) (unset : Nat → MD5HashStr)
    (events : List CsEvent) (final : Recorded)
    (ran : Transition.run (step md5) (start unset) events = some final) (hash : MD5HashStr) :
    (InOrder final.fills hash →
      ∀ past recorded, past <+: events → Transition.run (step md5) (start unset) past = some recorded →
        ServesAsked recorded hash) ∧
    ((onChannel final.fills hash).length < 2147483648 →
      (∀ past recorded, past <+: events → Transition.run (step md5) (start unset) past = some recorded →
        ServesAsked recorded hash) →
      InOrder final.fills hash) := by
  constructor
  · intro inOrder past recorded early before
    exact (run_consistent before).servesAsked (inOrder.of_grown (fills_grow_along early before ran))
  · intro few serves k fill at_k
    have ⟨below, _⟩ := List.getElem?_eq_some_iff.mp at_k
    obtain ⟨past, recorded, early, before, count⟩ := reached ran below
    have consistent := run_consistent before
    obtain ⟨slot, buf, found⟩ := consistent.newest k count (by omega)
    obtain ⟨asked, last, id⟩ := serves past recorded early before k _ slot buf (by unfold IsInt32; omega) found
    obtain ⟨position, held, same, at_position, lastHeld, _⟩ := consistent.found (by omega) found
    cases Int.ofNat_inj.mp same
    rw [last] at lastHeld
    cases lastHeld
    obtain ⟨rest, split⟩ := onChannel_grows (fills_grow_along early before ran) hash
    rw [← split, List.getElem?_append_left (by omega), at_position] at at_k
    cases at_k
    exact id

/-- A channel whose first block has id 5 serves it as block 0. -/
theorem block_five_served_as_zero :
    ∃ final, Transition.run (step digest) (start blank) [registerEvent quiet, blockEvent quiet 5 4] = some final ∧
      ¬ServesAsked final (.ofMd5 (digest []) (.init 0)) := by
  obtain ⟨final, fill, ran, channel, id, _⟩ := one_block digest blank quiet 5 4 (by decide)
  refine ⟨final, ran, fun serves => ?_⟩
  have consistent := run_consistent ran
  obtain ⟨slot, buf, found⟩ := consistent.newest 0 (by rw [channel]; rfl) (by decide)
  obtain ⟨asked, last, zero⟩ := serves _ _ slot buf (by decide) found
  obtain ⟨k, held, same, at_k, lastHeld, _⟩ :=
    consistent.found (by rw [channel, List.length_singleton]; decide) found
  rw [last] at lastHeld
  cases lastHeld
  cases Int.ofNat_inj.mp same
  rw [channel] at at_k
  cases at_k
  rw [id] at zero
  exact absurd zero (by decide)

def lengthDigest (name : List UInt8) : ByteArr MD5_LEN := .fill _ (97 + UInt8.ofNat name.length)

def twoCaptures : List CsEvent :=
  let blockOf (conn : Nat) (id : UInt32) : CsEvent := { blockEvent quiet id 4 with conn }
  [registerEvent quiet, ⟨1, ⟨CS2SP_REGISTER, ofBytes [1, 97], 55⟩, quiet⟩, blockOf 0 0, blockOf 1 5, blockOf 0 1,
    blockOf 0 2]

theorem two_captures_served :
    ∃ final, Transition.run (step lengthDigest) (start blank) twoCaptures = some final ∧
      (∀ past recorded, past <+: twoCaptures → Transition.run (step lengthDigest) (start blank) past = some recorded →
        ServesAsked recorded (.ofMd5 (lengthDigest []) (.init 0))) ∧
      ∃ past recorded, past <+: twoCaptures ∧
        Transition.run (step lengthDigest) (start blank) past = some recorded ∧
        ¬ServesAsked recorded (.ofMd5 (lengthDigest [97]) (.init 0)) := by
  obtain ⟨final, ran, stored⟩ := (Option.any_eq_true _ _).mp
    (show (Transition.run (step lengthDigest) (start blank) twoCaptures).any (fun final =>
      (onChannel final.fills (.ofMd5 (lengthDigest []) (.init 0))).map (fun fill => fill.block.id) = [0, 1, 2] ∧
      (onChannel final.fills (.ofMd5 (lengthDigest [97]) (.init 0))).map (fun fill => fill.block.id) = [5]) = true by
        decide +kernel)
  obtain ⟨counting, five⟩ := of_decide_eq_true stored
  have ⟨served, _⟩ := served_block_iff_in_order lengthDigest blank _ final ran (.ofMd5 (lengthDigest []) (.init 0))
  have ⟨_, ordered⟩ := served_block_iff_in_order lengthDigest blank _ final ran (.ofMd5 (lengthDigest [97]) (.init 0))
  refine ⟨final, ran, served (inOrder_of_ids 3 (counting.trans (by decide))), ?_⟩
  by_contra nowhere
  have serves : ∀ past recorded, past <+: twoCaptures →
      Transition.run (step lengthDigest) (start blank) past = some recorded →
      ServesAsked recorded (.ofMd5 (lengthDigest [97]) (.init 0)) := by
    intro past recorded early reached
    by_contra other
    exact nowhere ⟨past, recorded, early, reached, other⟩
  have one : (onChannel final.fills (.ofMd5 (lengthDigest [97]) (.init 0))).length = 1 := by
    rw [← List.length_map (fun fill => fill.block.id), five, List.length_singleton]
  obtain ⟨fill, only⟩ := List.length_eq_one_iff.mp one
  have zero := ordered (by omega) serves 0 fill (by rw [only]; rfl)
  rw [only, List.map_singleton, List.singleton_inj, zero] at five
  exact absurd five (by decide)

/-- Of ids in order, each response is the frame of a stored block with the rest of its slot
behind it: exactly the block that came where the block fills the slot. -/
theorem relayed_unchanged_iff_full_slot (md5 : List UInt8 → ByteArr MD5_LEN) (unset : Nat → MD5HashStr)
    (events : List CsEvent) (final : Recorded)
    (ran : Transition.run (step md5) (start unset) events = some final) (resourceHash : ByteArr MD5_LEN)
    (inOrder : InOrder final.fills (.ofMd5 resourceHash (.init 0))) (heap : Heap) (id : UInt32)
    (payload : List UInt8) (sent : sendOneBlock final.peer.sources heap resourceHash id = .ok (some payload)) :
    ∃ fill, (onChannel final.fills (.ofMd5 resourceHash (.init 0)))[id.toNat]? = some fill ∧
      fill.block.id = id.toNat ∧
      (payload = responseFrame resourceHash id fill.block.data ↔ fill.block.data.length = MEDIA_BLOCK_SIZE) := by
  have consistent := run_consistent ran
  obtain ⟨code, slot, buf, found, packed⟩ := sendOneBlock_eq_some sent
  obtain ⟨k, fill, position, at_k, _, stores, size⟩ := consistent.found_inOrder inOrder (isInt32_toInt32 id) found
  have same : id.toNat = k := by
    have bound : id.toNat < 4294967296 := id.toNat_lt
    unfold toInt32 wrap32 at position
    omega
  subst same
  refine ⟨fill, at_k, inOrder _ _ at_k, ?_⟩
  rw [pack_blockResponse heap resourceHash id size] at packed
  cases packed
  constructor
  · intro unchanged
    rw [← responseFrame_inj unchanged]
    exact buf.buffer.size
  · intro full
    rw [stores.data.eq_of_length (full.trans buf.buffer.size.symm)]

/-- A block of five bytes is sent as a block of 16384. -/
theorem short_block_padded :
    ∃ final payload, Transition.run (step digest) (start blank) [registerEvent quiet, blockEvent quiet 0 5] =
        some final ∧
      InOrder final.fills (.ofMd5 (digest []) (.init 0)) ∧
      sendOneBlock final.peer.sources (fun _ => 0) (digest []) 0 = .ok (some payload) ∧
      payload ≠ responseFrame (digest []) 0 [0, 0, 0, 0, 0] := by
  obtain ⟨final, payload, ran, inOrder, _, sent, length⟩ :=
    one_block_sent digest blank quiet (fun _ => 0) 5 (by decide)
  refine ⟨final, payload, ran, inOrder, sent, fun same => ?_⟩
  rw [same, responseFrame_length] at length
  exact absurd length (by decide)

theorem full_block_unchanged :
    ∃ (final : Recorded) (fill : Fill),
      Transition.run (step digest) (start blank) [registerEvent quiet, blockEvent quiet 0 16384] = some final ∧
      fill.block.data.length = MEDIA_BLOCK_SIZE ∧
      sendOneBlock final.peer.sources (fun _ => 0) (digest []) 0 =
        .ok (some (responseFrame (digest []) 0 fill.block.data)) := by
  obtain ⟨final, payload, ran, inOrder, ⟨fill, channel, full⟩, sent, _⟩ :=
    one_block_sent digest blank quiet (fun _ => 0) 16384 (by decide)
  obtain ⟨held, at_k, _, unchanged⟩ :=
    relayed_unchanged_iff_full_slot digest blank _ final ran (digest []) inOrder (fun _ => 0) 0 payload sent
  rw [channel] at at_k
  cases at_k
  have whole : fill.block.data.length = MEDIA_BLOCK_SIZE := full
  rw [unchanged.mpr whole] at sent
  exact ⟨final, fill, ran, whole, sent⟩

end RabbitStreamer.Sp.BlockRelay
