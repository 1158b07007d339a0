import RabbitStreamer.Lib.OrderedMap
import RabbitStreamer.Protocol.BufferQueue

/-! `RsSourceManager`: the channels of a super peer, each with its ring of blocks. -/

namespace RabbitStreamer.Sp.SourceManager
open RabbitStreamer.Lib RabbitStreamer.Core.Struct
open RabbitStreamer.Protocol.BufferQueue RabbitStreamer.Protocol.BufferQueue.RsBufferQueue

abbrev ERROR_SUCCESS : Nat := 0
abbrev ERROR_SOURCE_MGR_NOT_FOUND : Nat := 2000

/-- `source_hashmap`. -/
abbrev SourceMap := OrderedMap MD5HashStr.rank RsBufferQueue

/-- What a new queue finds in its surroundings: the clock and the bytes of fresh slots. -/
structure Surroundings where
  now : Int
  unset : Nat → Lib.Bytes.ByteArr MEDIA_BLOCK_SIZE

namespace SourceMap

def getBufferQueue (sources : SourceMap) (hash : MD5HashStr) : Option RsBufferQueue :=
  (sources.find hash).map Prod.snd

def createSource (sources : SourceMap) (around : Surroundings) (hash : MD5HashStr) (name : List UInt8)
    (source : Bool) : SourceMap :=
  match sources.getBufferQueue hash with
  | some _ => sources
  | none => sources.insert hash ((init around.now hash name source).reserveBuffer MAX_BUFFER_SIZE around.unset)

/-- The slot whose buffer becomes `*block`, or none where the channel is not found; the size
plays no part. -/
def queueBlock (sources : SourceMap) (hash : MD5HashStr) (_size : Int) : Option (SourceMap × Option Nat) :=
  match sources.getBufferQueue hash with
  | none => some (sources, none)
  | some queue => do
      let (marked, slot) ← queue.queueBuffer
      pure (sources.adjust hash fun _ => marked, some slot)

/-- `memcpy` through the pointer that `queue_block` returned. -/
def copyBlock (sources : SourceMap) (hash : MD5HashStr) (slot : Nat) (bytes : List UInt8) : Option SourceMap :=
  match sources.getBufferQueue hash with
  | none => none
  | some queue => do
      let filled ← queue.copyInto slot bytes
      pure (sources.adjust hash fun _ => filled)

/-- The error code, and the slot found with its block pointer and size. -/
def dequeueBlock (sources : SourceMap) (hash : MD5HashStr) (blockId : Int) :
    Option (Nat × Option (Nat × MediaBuffer)) :=
  match sources.getBufferQueue hash with
  | none => some (ERROR_SOURCE_MGR_NOT_FOUND, none)
  | some queue => do
      let found ← queue.dequeueBuffer blockId
      match found with
      | none => pure (ERROR_SUCCESS, none)
      | some slot => do
          let buf ← queue.bufferVector[slot]?
          pure (ERROR_SUCCESS, some (slot, buf))

def setBlockAvailable (sources : SourceMap) (hash : MD5HashStr) (blockId : Int) : Option SourceMap :=
  match sources.getBufferQueue hash with
  | none => some sources
  | some queue => do
      let published ← queue.updateBufferAttr blockId .available
      pure (sources.adjust hash fun _ => published)

def addHeader (sources : SourceMap) (hash : MD5HashStr) (header : List UInt8) : SourceMap :=
  sources.adjust hash fun queue => queue.setHeader header

def getHeader (sources : SourceMap) (hash : MD5HashStr) : Nat × Option (List UInt8) :=
  match sources.getBufferQueue hash with
  | none => (ERROR_SOURCE_MGR_NOT_FOUND, none)
  | some queue => (ERROR_SUCCESS, queue.getHeader)

end SourceMap

/-- One entry of `get_source_list`. -/
structure SourceStatus where
  chnlHash : MD5HashStr
  chnlName : List UInt8
  createdTime : Int
  blockInter : BlockInterval
  deriving DecidableEq

def SourceMap.getSourceList (sources : SourceMap) : List SourceStatus :=
  sources.entries.map fun (_, queue) =>
    let (start, last) := queue.getBufferInterval
    ⟨queue.sourceHash, queue.sourceName, queue.createTime,
      ⟨Lib.Bytes.ofInt32 start, Lib.Bytes.ofInt32 (Lib.Bytes.wrap32 (last - start))⟩⟩

open SourceMap

theorem getBufferQueue_eq_some {sources : SourceMap} {hash : MD5HashStr} {queue : RsBufferQueue} :
    sources.getBufferQueue hash = some queue ↔ ∃ key, sources.find hash = some (key, queue) := by
  simp [getBufferQueue]

theorem getBufferQueue_eq_none {sources : SourceMap} {hash : MD5HashStr} :
    sources.getBufferQueue hash = none ↔ sources.find hash = none := by
  simp [getBufferQueue]

theorem getBufferQueue_adjust_self {sources : SourceMap} {hash : MD5HashStr} {queue : RsBufferQueue}
    (known : sources.getBufferQueue hash = some queue) (change : RsBufferQueue → RsBufferQueue) :
    SourceMap.getBufferQueue (sources.adjust hash change) hash = some (change queue) := by
  obtain ⟨key, found⟩ := getBufferQueue_eq_some.mp known
  rw [getBufferQueue, OrderedMap.find_adjust_self, found]
  rfl

theorem store_round {sources : SourceMap} {hash : MD5HashStr} {queue next : RsBufferQueue} {block : Block}
    (known : sources.getBufferQueue hash = some queue) (stored : storeBlock queue block = some next) (size : Int) :
    ∃ queued slot copied, sources.queueBlock hash size = some (queued, some slot) ∧
      queue.slotAt queue.queueIndex = some slot ∧
      SourceMap.copyBlock queued hash slot block.data = some copied ∧
      SourceMap.setBlockAvailable copied hash block.id = some (sources.adjust hash fun _ => next) := by
  obtain ⟨marked, slot, filled, taken, written, published⟩ := storeBlock_eq_some.mp stored
  refine ⟨sources.adjust hash fun _ => marked, slot, sources.adjust hash fun _ => filled, ?_,
    queueBuffer_slot taken, ?_, ?_⟩
  · simp only [queueBlock, known, taken]
    rfl
  · simp only [copyBlock, getBufferQueue_adjust_self known, written]
    simp [OrderedMap.adjust_adjust, Function.comp_def]
  · simp only [setBlockAvailable, getBufferQueue_adjust_self known, published]
    simp [OrderedMap.adjust_adjust, Function.comp_def]

theorem round_of_store {sources queued copied published : SourceMap} {hash : MD5HashStr} {size : Int} {slot : Nat}
    {block : Block} (taken : sources.queueBlock hash size = some (queued, some slot))
    (written : queued.copyBlock hash slot block.data = some copied)
    (made : copied.setBlockAvailable hash block.id = some published) :
    ∃ queue next, sources.getBufferQueue hash = some queue ∧ storeBlock queue block = some next ∧
      queue.slotAt queue.queueIndex = some slot ∧ published = sources.adjust hash fun _ => next := by
  cases known : sources.getBufferQueue hash with
  | none => simp [queueBlock, known] at taken
  | some queue =>
    simp only [queueBlock, known, Option.pure_def, Option.bind_eq_bind, Option.bind_eq_some_iff] at taken
    obtain ⟨⟨marked, place⟩, first, same⟩ := taken
    cases same
    simp only [copyBlock, getBufferQueue_adjust_self known, Option.pure_def, Option.bind_eq_bind,
      Option.bind_eq_some_iff] at written
    obtain ⟨filled, second, same⟩ := written
    cases same
    simp only [OrderedMap.adjust_adjust, setBlockAvailable] at made
    rw [getBufferQueue_adjust_self known] at made
    simp only [Function.comp_apply, Option.pure_def, Option.bind_eq_bind, Option.bind_eq_some_iff] at made
    obtain ⟨next, third, same⟩ := made
    cases same
    exact ⟨queue, next, rfl, storeBlock_eq_some.mpr ⟨marked, _, filled, first, second, third⟩,
      queueBuffer_slot first, rfl⟩

end RabbitStreamer.Sp.SourceManager
