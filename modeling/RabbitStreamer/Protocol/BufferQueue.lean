import RabbitStreamer.Core.Struct
import RabbitStreamer.Lib.SlidingWindow
import RabbitStreamer.Lib.Transition

/-! `RsBufferQueue`: the ring of media blocks of one channel, and the window of the
stored blocks that it serves. -/

namespace RabbitStreamer.Protocol.BufferQueue
open RabbitStreamer.Lib RabbitStreamer.Lib.Bytes RabbitStreamer.Lib.SlidingWindow
open RabbitStreamer.Core.Struct

inductive BufferFlag where
  | writing
  | reading
  | available
  deriving DecidableEq, Repr

structure MediaBuffer where
  flag : BufferFlag
  blockId : Int
  blockSize : Int
  buffer : ByteArr MEDIA_BLOCK_SIZE
  deriving DecidableEq

structure RsBufferQueue where
  /-- Absent until `set_header`: the constructor leaves pointer and size unset. -/
  mediaHeader : Option (List UInt8)
  createTime : Int
  sourceHash : MD5HashStr
  sourceName : List UInt8
  isSource : Bool
  queueIndex : Int
  bufferNumber : Int
  minBlockId : Int
  minBlockIndex : Int
  bufferFullFlag : Bool
  bufferVector : List MediaBuffer
  deriving DecidableEq

namespace RsBufferQueue

def init (now : Int) (hash : MD5HashStr) (name : List UInt8) (source : Bool) : RsBufferQueue where
  mediaHeader := none
  createTime := now
  sourceHash := hash
  sourceName := name
  isSource := source
  queueIndex := 0
  bufferNumber := 0
  minBlockId := 0
  minBlockIndex := 0
  bufferFullFlag := false
  bufferVector := []

/-- The slots come from `new`, so their bytes are whatever the heap holds. -/
def reserveBuffer (queue : RsBufferQueue) (size : Int) (unset : Nat → ByteArr MEDIA_BLOCK_SIZE) :
    RsBufferQueue :=
  { queue with
    bufferNumber := size
    bufferVector := queue.bufferVector ++
      (List.range size.toNat).map fun i => ⟨.available, 0, MEDIA_BLOCK_SIZE, unset i⟩ }

/-- The slot `buffer_vector[index]`; outside the vector the access is a fault. -/
def slotAt (queue : RsBufferQueue) (index : Int) : Option Nat :=
  if 0 ≤ index ∧ index < queue.bufferVector.length then some index.toNat else none

def setFlag (queue : RsBufferQueue) (slot : Nat) (flag : BufferFlag) : RsBufferQueue :=
  { queue with bufferVector := queue.bufferVector.modify slot fun buf => { buf with flag } }

def queueBuffer (queue : RsBufferQueue) : Option (RsBufferQueue × Nat) := do
  let slot ← queue.slotAt queue.queueIndex
  let marked := queue.setFlag slot .writing
  let moved :=
    if marked.bufferFullFlag then
      { marked with
        minBlockId := wrap32 (marked.minBlockId + 1)
        minBlockIndex := (wrap32 (marked.queueIndex + 1)).tmod marked.bufferNumber }
    else marked
  pure (moved, slot)

/-- `memcpy` to the start of a slot's buffer. -/
def copyInto (queue : RsBufferQueue) (slot : Nat) (bytes : List UInt8) : Option RsBufferQueue :=
  if fits : bytes.length ≤ MEDIA_BLOCK_SIZE then
    some { queue with
      bufferVector := queue.bufferVector.modify slot fun buf =>
        { buf with buffer := buf.buffer.overwrite bytes fits } }
  else none

def updateBufferAttr (queue : RsBufferQueue) (blockId : Int) (flag : BufferFlag) : Option RsBufferQueue := do
  let slot ← queue.slotAt queue.queueIndex
  pure { queue with
    bufferVector := queue.bufferVector.modify slot fun buf => { buf with blockId, flag }
    bufferFullFlag := queue.bufferFullFlag || wrap32 (queue.queueIndex + 1) == queue.bufferNumber
    queueIndex := (wrap32 (queue.queueIndex + 1)).tmod queue.bufferNumber }

/-- The index of the slot `offset` places behind the oldest block. -/
def offsetIndex (queue : RsBufferQueue) (offset : Int) : Int :=
  let tail := wrap32 (queue.bufferNumber - queue.minBlockIndex)
  if offset < tail then wrap32 (queue.minBlockIndex + offset) else wrap32 (offset - tail)

/-- `some none` is the NULL result; the block id stored in the slot plays no part. -/
def dequeueBuffer (queue : RsBufferQueue) (blockId : Int) : Option (Option Nat) :=
  let currBufSize := if queue.bufferFullFlag then queue.bufferNumber else queue.queueIndex
  if queue.minBlockId > blockId ∨ blockId ≥ wrap32 (queue.minBlockId + currBufSize) then some none
  else
    let offset := wrap32 (blockId - queue.minBlockId)
    (queue.slotAt (queue.offsetIndex offset)).map some

def getBufferInterval (queue : RsBufferQueue) : Int × Int :=
  let start := queue.minBlockId
  if queue.bufferFullFlag then (start, wrap32 (start + queue.bufferNumber))
  else (start, wrap32 (start + queue.queueIndex))

def setHeader (queue : RsBufferQueue) (header : List UInt8) : RsBufferQueue :=
  { queue with mediaHeader := some header }

def getHeader (queue : RsBufferQueue) : Option (List UInt8) := queue.mediaHeader

end RsBufferQueue

open RsBufferQueue

/-- A block as a source hands it over, no larger than a slot. -/
structure Block where
  id : Int
  data : List UInt8
  fits : data.length ≤ MEDIA_BLOCK_SIZE

def Block.make (id : Int) (data : List UInt8) : Option Block :=
  if fits : data.length ≤ MEDIA_BLOCK_SIZE then some ⟨id, data, fits⟩ else none

theorem Block.make_eq_some {id : Int} {data : List UInt8} {block : Block} :
    Block.make id data = some block ↔ block.id = id ∧ block.data = data := by
  unfold Block.make
  constructor
  · intro made
    split_ifs at made with fits
    cases made
    exact ⟨rfl, rfl⟩
  · rintro ⟨rfl, rfl⟩
    exact dif_pos block.fits

/-- One round: take a slot, copy the data in, publish it under an id. -/
def storeBlock (queue : RsBufferQueue) (block : Block) : Option RsBufferQueue := do
  let (marked, slot) ← queue.queueBuffer
  let filled ← marked.copyInto slot block.data
  filled.updateBufferAttr block.id .available

theorem storeBlock_eq_some {queue next : RsBufferQueue} {block : Block} :
    storeBlock queue block = some next ↔ ∃ marked slot filled, queue.queueBuffer = some (marked, slot) ∧
      marked.copyInto slot block.data = some filled ∧ filled.updateBufferAttr block.id .available = some next := by
  simp [storeBlock, Option.bind_eq_some_iff]

theorem queueBuffer_slot {queue marked : RsBufferQueue} {slot : Nat}
    (queued : queue.queueBuffer = some (marked, slot)) : queue.slotAt queue.queueIndex = some slot := by
  simp only [queueBuffer, Option.pure_def, Option.bind_eq_bind, Option.bind_eq_some_iff] at queued
  obtain ⟨found, at_index, same⟩ := queued
  cases same
  exact at_index

structure Stores (slot : MediaBuffer) (block : Block) : Prop where
  blockId : slot.blockId = block.id
  flag : slot.flag = .available
  data : block.data <+: slot.buffer.data

/-- A ring of `capacity` slots after the rounds of a history, oldest first. -/
structure Represents (queue : RsBufferQueue) (capacity : Nat) (history : List Block) : Prop where
  number : queue.bufferNumber = capacity
  slots : queue.bufferVector.length = capacity
  full : queue.bufferFullFlag = decide (capacity ≤ history.length)
  index : queue.queueIndex = (history.length % capacity : Nat)
  minId : queue.minBlockId = (oldest capacity history.length : Nat)
  minIndex : queue.minBlockIndex =
    ((if capacity ≤ history.length then history.length % capacity else 0 : Nat) : Int)
  sizes : ∀ slot ∈ queue.bufferVector, slot.blockSize = MEDIA_BLOCK_SIZE
  stored : Holds capacity history queue.bufferVector Stores

theorem represents_reserved (now : Int) (hash : MD5HashStr) (name : List UInt8) (source : Bool)
    (capacity : Nat) (positive : 0 < capacity) (unset : Nat → ByteArr MEDIA_BLOCK_SIZE) :
    Represents ((init now hash name source).reserveBuffer capacity unset) capacity [] where
  number := rfl
  slots := by simp [reserveBuffer, init]
  full := by simp [reserveBuffer, init, Nat.ne_of_gt positive]
  index := by simp [reserveBuffer, init]
  minId := by simp [reserveBuffer, init, oldest]
  minIndex := by simp [reserveBuffer, init, Nat.ne_of_gt positive]
  sizes := by simp [reserveBuffer, init]
  stored := fun position item served => by simp [serve] at served

def MediaBuffer.store (buf : MediaBuffer) (block : Block) : MediaBuffer :=
  ⟨.available, block.id, buf.blockSize, buf.buffer.overwrite block.data block.fits⟩

theorem stores_store (buf : MediaBuffer) (block : Block) : Stores (buf.store block) block :=
  ⟨rfl, rfl, buf.buffer.overwrite_prefix block.data block.fits⟩

theorem storeBlock_eq {queue : RsBufferQueue} {slot : Nat} (found : queue.slotAt queue.queueIndex = some slot)
    (block : Block) :
    storeBlock queue block = some { queue with
      bufferVector := queue.bufferVector.modify slot fun buf => buf.store block
      minBlockId := if queue.bufferFullFlag then wrap32 (queue.minBlockId + 1) else queue.minBlockId
      minBlockIndex :=
        if queue.bufferFullFlag then (wrap32 (queue.queueIndex + 1)).tmod queue.bufferNumber
        else queue.minBlockIndex
      bufferFullFlag := queue.bufferFullFlag || wrap32 (queue.queueIndex + 1) == queue.bufferNumber
      queueIndex := (wrap32 (queue.queueIndex + 1)).tmod queue.bufferNumber } := by
  have inside : (0 ≤ queue.queueIndex ∧ queue.queueIndex < queue.bufferVector.length) ∧
      queue.queueIndex.toNat = slot := by
    simpa [slotAt] using found
  have together : (((queue.bufferVector.modify slot fun buf => { buf with flag := .writing }).modify slot
      fun buf => { buf with buffer := buf.buffer.overwrite block.data block.fits }).modify slot
      fun buf => { buf with blockId := block.id, flag := .available }) =
      queue.bufferVector.modify slot fun buf => buf.store block := by
    rw [List.modify_modify_eq, List.modify_modify_eq]
    rfl
  simp only [storeBlock, queueBuffer, found, setFlag, copyInto, updateBufferAttr, dif_pos block.fits]
  by_cases full : queue.bufferFullFlag
  · simp [slotAt, inside, together, full]
  · simp [slotAt, inside, together, full]

theorem storeBlock_keeps {queue next : RsBufferQueue} {block : Block} (stored : storeBlock queue block = some next) :
    next.mediaHeader = queue.mediaHeader ∧ next.sourceHash = queue.sourceHash := by
  obtain ⟨_, _, _, queued, _⟩ := storeBlock_eq_some.mp stored
  rw [storeBlock_eq (queueBuffer_slot queued) block] at stored
  cases stored
  exact ⟨rfl, rfl⟩

theorem slotAt_residue {queue : RsBufferQueue} {capacity : Nat} {history : List Block}
    (represents : Represents queue capacity history) (positive : 0 < capacity) (position : Nat) :
    queue.slotAt ((position % capacity : Nat) : Int) = some (position % capacity) := by
  have below := Nat.mod_lt position positive
  have inside : 0 ≤ ((position % capacity : Nat) : Int) ∧
      ((position % capacity : Nat) : Int) < queue.bufferVector.length := by
    rw [represents.slots]
    omega
  rw [slotAt, if_pos inside, Int.toNat_natCast]

theorem next_index {capacity : Nat} (positive : 0 < capacity) (small : capacity < 2147483648) (count : Nat) :
    wrap32 (((count % capacity : Nat) : Int) + 1) = ((count % capacity + 1 : Nat) : Int) ∧
    ((count % capacity + 1 : Nat) : Int).tmod capacity = (((count + 1) % capacity : Nat) : Int) := by
  have below := Nat.mod_lt count positive
  refine ⟨?_, ?_⟩
  · rw [wrap32_of_isInt32 (by unfold IsInt32; omega)]
    rfl
  · rw [← Int.ofNat_tmod, Nat.mod_add_mod]

theorem Represents.store {queue : RsBufferQueue} {capacity : Nat} {history : List Block}
    (represents : Represents queue capacity history) (positive : 0 < capacity)
    (small : capacity < 2147483648) (more : history.length < 2147483648) (block : Block) :
    ∃ next, storeBlock queue block = some next ∧ Represents next capacity (history ++ [block]) := by
  have found := slotAt_residue represents positive history.length
  rw [← represents.index] at found
  have ⟨wrapped, residue⟩ := next_index positive small history.length
  have below := Nat.mod_lt history.length positive
  have room : history.length % capacity < queue.bufferVector.length := by rwa [represents.slots]
  refine ⟨_, storeBlock_eq found block, ?_⟩
  have early : ¬capacity ≤ history.length → history.length % capacity = history.length := fun few =>
    Nat.mod_eq_of_lt (by omega)
  constructor
  case number => exact represents.number
  case slots => simpa using represents.slots
  case full =>
    simp only [represents.full, represents.index, represents.number, wrapped, List.length_append,
      List.length_singleton]
    by_cases full : capacity ≤ history.length
    · simp [full, Nat.le_succ_of_le full]
    · rw [early full]
      by_cases last : history.length + 1 = capacity
      · simp [last]
      · have still : ¬capacity ≤ history.length + 1 := by omega
        have apart : ((history.length + 1 : Nat) : Int) ≠ capacity := by omega
        simp only [full, still, decide_false, Bool.false_or, beq_eq_false_iff_ne]
        exact apart
  case index =>
    simp only [represents.index, represents.number, wrapped, residue, List.length_append,
      List.length_singleton]
  case minId =>
    simp only [represents.full, represents.minId, decide_eq_true_eq, List.length_append,
      List.length_singleton]
    unfold oldest
    split_ifs with full
    · rw [wrap32_of_isInt32 (by unfold IsInt32; omega)]
      omega
    · omega
  case minIndex =>
    simp only [represents.full, represents.index, represents.number, represents.minIndex, wrapped,
      residue, decide_eq_true_eq, List.length_append, List.length_singleton]
    by_cases full : capacity ≤ history.length
    · rw [if_pos full, if_pos (Nat.le_succ_of_le full)]
    · rw [if_neg full, if_neg full]
      by_cases last : capacity ≤ history.length + 1
      · have whole : history.length + 1 = capacity := by omega
        rw [if_pos last, whole, Nat.mod_self]
      · rw [if_neg last]
  case sizes =>
    intro slot member
    obtain ⟨i, at_i⟩ := List.getElem?_of_mem member
    rw [List.getElem?_modify] at at_i
    obtain ⟨old, oldAt, rfl⟩ := Option.map_eq_some_iff.mp at_i
    have size := represents.sizes old (List.mem_of_getElem? oldAt)
    split_ifs
    · exact size
    · exact size
  case stored =>
    have written := List.modify_eq_set_getElem? (fun buf => MediaBuffer.store buf block)
      (history.length % capacity) queue.bufferVector
    rw [List.getElem?_eq_getElem room] at written
    simp only [Option.map_eq_map, Option.map_some, Option.getD_some] at written
    simp only [written]
    exact represents.stored.push block _ room (stores_store _ block)

theorem Represents.offsetIndex_eq {queue : RsBufferQueue} {capacity : Nat} {history : List Block}
    (represents : Represents queue capacity history) (small : capacity < 2147483648) {offset : Nat}
    (near : offset < capacity) :
    queue.offsetIndex offset = ((oldest capacity history.length + offset) % capacity : Nat) := by
  have below := Nat.mod_lt history.length (Nat.zero_lt_of_lt near)
  unfold offsetIndex
  simp only [represents.number, represents.minIndex]
  by_cases full : capacity ≤ history.length
  · have tail : wrap32 ((capacity : Int) - ((history.length % capacity : Nat) : Int)) =
        capacity - ((history.length % capacity : Nat) : Int) :=
      wrap32_of_isInt32 (by unfold IsInt32; omega)
    rw [if_pos full, tail, residue_offset full near]
    by_cases short : history.length % capacity + offset < capacity
    · rw [if_pos short, if_pos (by omega), wrap32_of_isInt32 (by unfold IsInt32; omega)]
      rfl
    · rw [if_neg short, if_neg (by omega), wrap32_of_isInt32 (by unfold IsInt32; omega)]
      omega
  · have start : oldest capacity history.length = 0 := by unfold oldest; omega
    have tail : wrap32 ((capacity : Int) - ((0 : Nat) : Int)) = capacity := by
      rw [wrap32_of_isInt32 (by unfold IsInt32; omega)]
      omega
    rw [if_neg full, tail, if_pos (by omega), wrap32_of_isInt32 (by unfold IsInt32; omega), start,
      Nat.zero_add, Nat.mod_eq_of_lt near]
    omega

theorem Represents.end_eq {queue : RsBufferQueue} {capacity : Nat} {history : List Block}
    (represents : Represents queue capacity history) :
    wrap32 (queue.minBlockId + if queue.bufferFullFlag then queue.bufferNumber else queue.queueIndex) =
      wrap32 history.length := by
  simp only [represents.minId, represents.full, represents.number, represents.index, decide_eq_true_eq]
  congr 1
  unfold oldest
  split_ifs with full
  · omega
  · rw [Nat.mod_eq_of_lt (by omega)]
    omega

theorem wrap32_length {history : List Block} (few : history.length < 2147483648) :
    wrap32 history.length = history.length := wrap32_of_isInt32 (by unfold IsInt32; omega)

theorem Represents.dequeue {queue : RsBufferQueue} {capacity : Nat} {history : List Block}
    (represents : Represents queue capacity history) (positive : 0 < capacity)
    (small : capacity < 2147483648) (few : history.length < 2147483648) (blockId : Int) :
    queue.dequeueBuffer blockId = some (
      if (oldest capacity history.length : Int) ≤ blockId ∧ blockId < history.length then
        some (blockId.toNat % capacity)
      else none) := by
  unfold dequeueBuffer
  simp only [represents.end_eq, wrap32_length few]
  rw [represents.minId]
  by_cases inside : (oldest capacity history.length : Int) ≤ blockId ∧ blockId < history.length
  · obtain ⟨offset, rfl⟩ : ∃ offset : Nat, blockId = (oldest capacity history.length + offset : Nat) :=
      ⟨(blockId - oldest capacity history.length).toNat, by omega⟩
    have near : offset < capacity ∧ offset < 2147483648 := by unfold oldest at inside; omega
    have shift : wrap32 (((oldest capacity history.length + offset : Nat) : Int) -
        (oldest capacity history.length : Nat)) = offset := by
      rw [wrap32_of_isInt32 (by unfold IsInt32; omega)]
      omega
    rw [if_neg (by omega), if_pos inside, shift, represents.offsetIndex_eq small near.1,
      slotAt_residue represents positive, Int.toNat_natCast]
    rfl
  · rw [if_pos (by omega), if_neg inside]

theorem Represents.dequeue_overflow {queue : RsBufferQueue} {capacity : Nat} {history : List Block}
    (represents : Represents queue capacity history) (full : history.length = 2147483648) {blockId : Int}
    (int : IsInt32 blockId) : queue.dequeueBuffer blockId = some none := by
  have last : wrap32 (history.length : Int) = -2147483648 := by
    rw [full]
    decide
  unfold dequeueBuffer
  simp only [represents.end_eq, last]
  exact if_pos (Or.inr int.1)

theorem Represents.served {queue : RsBufferQueue} {capacity : Nat} {history : List Block}
    (represents : Represents queue capacity history) (position : Nat)
    (inside : oldest capacity history.length ≤ position ∧ position < history.length) :
    ∃ buf block, queue.bufferVector[position % capacity]? = some buf ∧ history[position]? = some block ∧
      Stores buf block := by
  have kept : serve capacity history position = some history[position] := by
    rw [serve, if_pos inside.1, List.getElem?_eq_getElem inside.2]
  obtain ⟨buf, found, stores⟩ := represents.stored position _ kept
  exact ⟨buf, history[position], found, List.getElem?_eq_getElem inside.2, stores⟩

theorem Represents.interval {queue : RsBufferQueue} {capacity : Nat} {history : List Block}
    (represents : Represents queue capacity history) (few : history.length < 2147483648) :
    queue.getBufferInterval = ((oldest capacity history.length : Int), (history.length : Int)) := by
  have last := represents.end_eq
  rw [wrap32_length few] at last
  unfold getBufferInterval
  rw [represents.minId] at last ⊢
  by_cases full : queue.bufferFullFlag
  · rw [if_pos full] at last
    simp only [if_pos full, last]
  · rw [if_neg full] at last
    simp only [if_neg full, last]

theorem represents_rounds {queue : RsBufferQueue} {capacity : Nat} {history : List Block}
    (represents : Represents queue capacity history) (positive : 0 < capacity)
    (small : capacity < 2147483648) (blocks : List Block)
    (few : history.length + blocks.length < 2147483648) :
    ∃ final, Transition.run storeBlock queue blocks = some final ∧
      Represents final capacity (history ++ blocks) := by
  induction blocks generalizing queue history with
  | nil => exact ⟨queue, rfl, by simpa using represents⟩
  | cons block rest ih =>
    simp only [List.length_cons] at few
    obtain ⟨next, stored, after⟩ := represents.store positive small (by omega) block
    have left : (history ++ [block]).length + rest.length < 2147483648 := by
      simp only [List.length_append, List.length_singleton]
      omega
    obtain ⟨final, ran, represented⟩ := ih after left
    refine ⟨final, Transition.run_cons_eq_some.mpr ⟨next, stored, ran⟩, ?_⟩
    simpa using represented

/-- After rounds with the ids 0, 1, 2 and so on, exactly the last `capacity` ids are served,
each with its own payload. -/
theorem ring_serves_right_block (now : Int) (hash : MD5HashStr) (name : List UInt8) (source : Bool)
    (unset : Nat → ByteArr MEDIA_BLOCK_SIZE) (capacity : Int) (positive : 1 ≤ capacity)
    (isInt : IsInt32 capacity) (blocks : List Block) (few : blocks.length < 2147483648)
    (consecutive : ∀ (k : Nat) (block : Block), blocks[k]? = some block → block.id = k) :
    ∃ queue, Transition.run storeBlock ((init now hash name source).reserveBuffer capacity unset) blocks =
        some queue ∧
      (∀ blockId : Int, IsInt32 blockId → ∃ result, queue.dequeueBuffer blockId = some result ∧
        (result.isSome ↔ max 0 (blocks.length - capacity) ≤ blockId ∧ blockId < blocks.length) ∧
        ∀ slot, result = some slot → ∃ buf block, queue.bufferVector[slot]? = some buf ∧
          blocks[blockId.toNat]? = some block ∧ buf.blockId = blockId ∧ block.data <+: buf.buffer.data) ∧
      queue.getBufferInterval = (max 0 (blocks.length - capacity), (blocks.length : Int)) := by
  obtain ⟨size, rfl⟩ : ∃ size : Nat, capacity = size := ⟨capacity.toNat, by omega⟩
  unfold IsInt32 at isInt
  have reserved := represents_reserved now hash name source size (by omega) unset
  obtain ⟨queue, ran, represents⟩ :=
    represents_rounds reserved (by omega) (by omega) blocks (by simpa using few)
  rw [List.nil_append] at represents
  have window : max 0 ((blocks.length : Int) - size) = (oldest size blocks.length : Nat) := by
    unfold oldest
    omega
  rw [window]
  refine ⟨queue, ran, fun blockId _ => ?_, represents.interval few⟩
  refine ⟨_, represents.dequeue (by omega) (by omega) few blockId, ?_, fun slot found => ?_⟩
  · split_ifs with inside
    · simp [inside]
    · simp [inside]
  · split_ifs at found with inside
    cases found
    obtain ⟨buf, block, at_slot, at_position, stores⟩ :=
      represents.served blockId.toNat (by omega)
    refine ⟨buf, block, at_slot, at_position, ?_, stores.data⟩
    rw [stores.blockId, consecutive _ _ at_position]
    omega

theorem ring_of_two_serves_last_two :
    ∃ queue, Transition.run storeBlock
        ((init 0 (.ofMd5 (.fill _ 65) (.init 0)) [] true).reserveBuffer 2 fun _ => .fill _ 0)
        [⟨0, [10], by decide⟩, ⟨1, [11], by decide⟩, ⟨2, [12], by decide⟩] = some queue ∧
      queue.getBufferInterval = (1, 3) := by
  obtain ⟨queue, ran, _, interval⟩ := ring_serves_right_block 0 (.ofMd5 (.fill _ 65) (.init 0)) [] true
    (fun _ => .fill _ 0) 2 (by decide) (by decide)
    [⟨0, [10], by decide⟩, ⟨1, [11], by decide⟩, ⟨2, [12], by decide⟩] (by decide) (by
      intro k block found
      match k with
      | 0 | 1 | 2 => cases found; rfl
      | k + 3 => simp at found)
  exact ⟨queue, ran, interval⟩

end RabbitStreamer.Protocol.BufferQueue
