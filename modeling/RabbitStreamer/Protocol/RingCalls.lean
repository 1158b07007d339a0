import RabbitStreamer.Protocol.BufferQueue

/-! The ring of a channel when its functions are called in any order. -/

namespace RabbitStreamer.Protocol.RingCalls
open RabbitStreamer.Lib.Bytes RabbitStreamer.Lib.Transition RabbitStreamer.Core.Struct
open RabbitStreamer.Protocol.BufferQueue RabbitStreamer.Protocol.BufferQueue.RsBufferQueue

inductive Call where
  | queueBuffer
  | updateBufferAttr (blockId : Int) (flag : BufferFlag)
  | dequeueBuffer (blockId : Int)

def step (queue : RsBufferQueue) : Call → Option RsBufferQueue
  | .queueBuffer => queue.queueBuffer.map Prod.fst
  | .updateBufferAttr blockId flag => queue.updateBufferAttr blockId flag
  | .dequeueBuffer blockId => (queue.dequeueBuffer blockId).map fun _ => queue

/-- The two indices lie in the ring; until it is full the window starts at its first slot. -/
structure InRing (queue : RsBufferQueue) (capacity : Nat) : Prop where
  number : queue.bufferNumber = capacity
  slots : queue.bufferVector.length = capacity
  natural : 0 ≤ queue.queueIndex
  below : queue.queueIndex < capacity
  minNatural : 0 ≤ queue.minBlockIndex
  minBelow : queue.minBlockIndex < capacity
  early : queue.bufferFullFlag = false → queue.minBlockIndex = 0
  minId : IsInt32 queue.minBlockId

/-- The id is one of those that `get_buffer_interval` reports. -/
def Reported (queue : RsBufferQueue) (blockId : Int) : Prop :=
  queue.getBufferInterval.1 ≤ blockId ∧ blockId < queue.getBufferInterval.2

instance (queue : RsBufferQueue) (blockId : Int) : Decidable (Reported queue blockId) :=
  inferInstanceAs (Decidable (_ ∧ _))

/-- What holds of the indices of a ring, and of those that are computed for a block. -/
structure Indexed (queue : RsBufferQueue) (capacity : Int) : Prop where
  queueIndex : 0 ≤ queue.queueIndex ∧ queue.queueIndex < capacity
  minBlockIndex : 0 ≤ queue.minBlockIndex ∧ queue.minBlockIndex < capacity
  computed : ∀ blockId, Reported queue blockId →
    0 ≤ queue.offsetIndex (wrap32 (blockId - queue.minBlockId)) ∧
      queue.offsetIndex (wrap32 (blockId - queue.minBlockId)) < capacity
  returned : ∀ blockId, ∃ slot, queue.dequeueBuffer blockId = some slot ∧
    (slot.isSome ↔ Reported queue blockId)
  distinct : ∀ first second slot, queue.dequeueBuffer first = some (some slot) →
    queue.dequeueBuffer second = some (some slot) → first = second

section Ring

variable {queue : RsBufferQueue} {capacity : Nat}

theorem InRing.slotAt (ring : InRing queue capacity) {index : Int} (natural : 0 ≤ index) (below : index < capacity) :
    queue.slotAt index = some index.toNat := by
  have inside : index < queue.bufferVector.length := by
    rw [ring.slots]
    exact below
  exact if_pos ⟨natural, inside⟩

theorem next_inside (small : capacity < 2147483648) {index : Int} (natural : 0 ≤ index) (below : index < capacity) :
    0 ≤ (wrap32 (index + 1)).tmod capacity ∧ (wrap32 (index + 1)).tmod capacity < capacity := by
  have near : wrap32 (index + 1) = index + 1 := wrap32_of_isInt32 (by unfold IsInt32; omega)
  rw [near, Int.tmod_eq_emod_of_nonneg (by omega)]
  exact ⟨Int.emod_nonneg _ (by omega), Int.emod_lt_of_pos _ (by omega)⟩

theorem InRing.setFlag (ring : InRing queue capacity) (slot : Nat) (flag : BufferFlag) :
    InRing (queue.setFlag slot flag) capacity :=
  { ring with slots := (List.length_modify ..).trans ring.slots }

theorem InRing.queueBuffer (ring : InRing queue capacity) (small : capacity < 2147483648) :
    ∃ marked slot, queue.queueBuffer = some (marked, slot) ∧ InRing marked capacity := by
  have kept := ring.setFlag queue.queueIndex.toNat .writing
  have next := next_inside small kept.natural kept.below
  rw [← kept.number] at next
  unfold RsBufferQueue.queueBuffer
  rw [ring.slotAt ring.natural ring.below]
  refine ⟨_, _, rfl, ?_⟩
  by_cases full : (queue.setFlag queue.queueIndex.toNat .writing).bufferFullFlag = true
  · rw [if_pos full]
    exact { kept with
      minNatural := next.1
      minBelow := lt_of_lt_of_eq next.2 kept.number
      early := fun early => absurd (early.symm.trans full) (by decide)
      minId := isInt32_wrap32 _ }
  · rw [if_neg full]
    exact kept

theorem InRing.updateBufferAttr (ring : InRing queue capacity) (small : capacity < 2147483648) (blockId : Int)
    (flag : BufferFlag) :
    ∃ after, queue.updateBufferAttr blockId flag = some after ∧ InRing after capacity := by
  have next := next_inside small ring.natural ring.below
  rw [← ring.number] at next
  unfold RsBufferQueue.updateBufferAttr
  rw [ring.slotAt ring.natural ring.below]
  refine ⟨_, rfl, ?_⟩
  constructor
  · exact ring.number
  · exact (List.length_modify ..).trans ring.slots
  · exact next.1
  · exact lt_of_lt_of_eq next.2 ring.number
  · exact ring.minNatural
  · exact ring.minBelow
  · intro early
    exact ring.early (Bool.or_eq_false_iff.mp early).1
  · exact ring.minId

theorem InRing.offsetIndex (ring : InRing queue capacity) (small : capacity < 2147483648) {offset : Int}
    (natural : 0 ≤ offset) (below : offset < capacity) :
    queue.offsetIndex offset = (queue.minBlockIndex + offset) % capacity := by
  have minNatural := ring.minNatural
  have minBelow := ring.minBelow
  have tail : wrap32 ((capacity : Int) - queue.minBlockIndex) = capacity - queue.minBlockIndex :=
    wrap32_of_isInt32 (by unfold IsInt32; omega)
  unfold RsBufferQueue.offsetIndex
  rw [ring.number, tail]
  dsimp only
  by_cases short : offset < capacity - queue.minBlockIndex
  · rw [if_pos short, wrap32_of_isInt32 (by unfold IsInt32; omega), Int.emod_eq_of_lt (by omega) (by omega)]
  · rw [if_neg short, wrap32_of_isInt32 (by unfold IsInt32; omega), ← Int.sub_emod_right,
      Int.emod_eq_of_lt (by omega) (by omega)]
    omega

theorem InRing.offset (ring : InRing queue capacity) (small : capacity < 2147483648) {blockId : Int}
    (reported : Reported queue blockId) :
    wrap32 (blockId - queue.minBlockId) = blockId - queue.minBlockId ∧ 0 ≤ blockId - queue.minBlockId ∧
      blockId - queue.minBlockId < capacity := by
  obtain ⟨first, last⟩ := reported
  obtain ⟨low, high⟩ := ring.minId
  have natural := ring.natural
  have below := ring.below
  have near : 0 ≤ blockId - queue.minBlockId ∧ blockId - queue.minBlockId < capacity := by
    unfold getBufferInterval wrap32 at first last
    split_ifs at first last
    · rw [ring.number] at last
      dsimp only at first last
      omega
    · dsimp only at first last
      omega
  exact ⟨wrap32_of_isInt32 (by unfold IsInt32; omega), near⟩

theorem InRing.dequeueBuffer (ring : InRing queue capacity) (small : capacity < 2147483648) (blockId : Int) :
    queue.dequeueBuffer blockId = some (if Reported queue blockId then
      some ((queue.minBlockIndex + (blockId - queue.minBlockId)) % capacity).toNat else none) := by
  have ends : queue.getBufferInterval = (queue.minBlockId,
      wrap32 (queue.minBlockId + if queue.bufferFullFlag then queue.bufferNumber else queue.queueIndex)) := by
    unfold getBufferInterval
    split_ifs <;> rfl
  unfold RsBufferQueue.dequeueBuffer
  dsimp only
  by_cases reported : Reported queue blockId
  · obtain ⟨value, natural, below⟩ := ring.offset small reported
    rw [if_pos reported, value, ring.offsetIndex small natural below,
      ring.slotAt (Int.emod_nonneg _ (by omega)) (Int.emod_lt_of_pos _ (by omega))]
    unfold Reported at reported
    rw [ends] at reported
    exact if_neg fun outside => by omega
  · rw [if_neg reported]
    unfold Reported at reported
    rw [ends] at reported
    exact if_pos (by omega)

theorem InRing.dequeueBuffer_eq_some (ring : InRing queue capacity) (small : capacity < 2147483648) {blockId : Int}
    {slot : Nat} (found : queue.dequeueBuffer blockId = some (some slot)) : Reported queue blockId ∧
      (slot : Int) = (queue.minBlockIndex + (blockId - queue.minBlockId)) % capacity := by
  have positive : (0 : Int) < capacity := lt_of_le_of_lt ring.natural ring.below
  rw [ring.dequeueBuffer small, Option.some.injEq, Option.ite_none_right_eq_some, Option.some.injEq] at found
  refine ⟨found.1, ?_⟩
  rw [← found.2, Int.toNat_of_nonneg (Int.emod_nonneg _ (by omega))]

theorem InRing.indexed (ring : InRing queue capacity) (small : capacity < 2147483648) : Indexed queue capacity where
  queueIndex := ⟨ring.natural, ring.below⟩
  minBlockIndex := ⟨ring.minNatural, ring.minBelow⟩
  computed := by
    intro blockId reported
    obtain ⟨value, natural, below⟩ := ring.offset small reported
    rw [value, ring.offsetIndex small natural below]
    exact ⟨Int.emod_nonneg _ (by omega), Int.emod_lt_of_pos _ (by omega)⟩
  returned := by
    intro blockId
    refine ⟨_, ring.dequeueBuffer small blockId, ?_⟩
    split_ifs with reported
    · simp [reported]
    · simp [reported]
  distinct := by
    intro first second slot found other
    obtain ⟨reported, residue⟩ := ring.dequeueBuffer_eq_some small found
    obtain ⟨reportedToo, residueToo⟩ := ring.dequeueBuffer_eq_some small other
    obtain ⟨_, natural, below⟩ := ring.offset small reported
    obtain ⟨_, naturalToo, belowToo⟩ := ring.offset small reportedToo
    have same : (first - queue.minBlockId) % capacity = (second - queue.minBlockId) % capacity :=
      Int.emod_add_cancel_left.mp (residue.symm.trans residueToo)
    rw [Int.emod_eq_of_lt natural below, Int.emod_eq_of_lt naturalToo belowToo] at same
    omega

theorem InRing.step (ring : InRing queue capacity) (small : capacity < 2147483648) (call : Call) :
    ∃ next, step queue call = some next ∧ InRing next capacity := by
  cases call with
  | queueBuffer =>
    obtain ⟨marked, slot, queued, kept⟩ := ring.queueBuffer small
    exact ⟨marked, by rw [RingCalls.step, queued]; rfl, kept⟩
  | updateBufferAttr blockId flag => exact ring.updateBufferAttr small blockId flag
  | dequeueBuffer blockId =>
    exact ⟨queue, by rw [RingCalls.step, ring.dequeueBuffer small]; rfl, ring⟩

end Ring

theorem inRing_reserved (now : Int) (hash : MD5HashStr) (name : List UInt8) (source : Bool) {capacity : Nat}
    (positive : 0 < capacity) (unset : Nat → ByteArr MEDIA_BLOCK_SIZE) :
    InRing ((init now hash name source).reserveBuffer capacity unset) capacity where
  number := rfl
  slots := by simp [reserveBuffer, init]
  natural := Int.le_refl 0
  below := by simpa [reserveBuffer, init] using positive
  minNatural := Int.le_refl 0
  minBelow := by simpa [reserveBuffer, init] using positive
  early _ := rfl
  minId := show IsInt32 0 by decide

/-- After any calls in any order the indices lie in the ring, and exactly the ids that are reported
are found, each in a slot of its own. -/
theorem ring_indices_in_range (now : Int) (hash : MD5HashStr) (name : List UInt8) (source : Bool)
    (unset : Nat → ByteArr MEDIA_BLOCK_SIZE) (capacity : Int) (positive : 1 ≤ capacity) (isInt : IsInt32 capacity)
    (calls : List Call) :
    ∃ queue, run step ((init now hash name source).reserveBuffer capacity unset) calls = some queue ∧
      Indexed queue capacity := by
  obtain ⟨size, rfl⟩ : ∃ size : Nat, capacity = size := ⟨capacity.toNat, by omega⟩
  have small : size < 2147483648 := by
    unfold IsInt32 at isInt
    omega
  obtain ⟨queue, ran, ring⟩ := run_progress (fun _ queue => InRing queue size) calls
    (inRing_reserved now hash name source (by omega) unset)
    fun _ call _ state _ _ ring => ring.step small call
  exact ⟨queue, ran, ring.indexed small⟩

def unpaired : List Call :=
  [.updateBufferAttr 7 .available, .updateBufferAttr 7 .available, .queueBuffer, .queueBuffer, .dequeueBuffer 3]

theorem unpaired_calls_in_range : ∃ queue,
    run step ((init 0 (.ofMd5 (.fill _ 65) (.init 0)) [] true).reserveBuffer 2 fun _ => .fill _ 0) unpaired =
      some queue ∧ Indexed queue 2 :=
  ring_indices_in_range 0 (.ofMd5 (.fill _ 65) (.init 0)) [] true (fun _ => .fill _ 0) 2 (by decide) (by decide)
    unpaired

end RabbitStreamer.Protocol.RingCalls
