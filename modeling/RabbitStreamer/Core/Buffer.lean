import RabbitStreamer.Core.Streamer
import RabbitStreamer.Lib.Memory

/-! `RsSocket::read` and `RsBuffer`: the receive buffer that collects the bytes a TCP
socket hands over in pieces. Pointers are offsets from the start of the allocation. -/

namespace RabbitStreamer.Core.Buffer
open RabbitStreamer.Lib RabbitStreamer.Lib.Memory RabbitStreamer.Core.Streamer

abbrev ERROR_SUCCESS : Nat := 0
abbrev ERROR_SOCKET_READ : Nat := 1007
abbrev DEFAULT_RECV_BUFFER_SIZE : Nat := 131072
abbrev MAX_SOCKET_BUFFER : Nat := 262144

structure RsSocket where
  stream : List UInt8
  splits : List Nat

/-- One read: between one and `size` of the next bytes, none when none is asked for or left. -/
def RsSocket.read (io : RsSocket) (size : Nat) : List UInt8 × RsSocket :=
  let amount := min (max 1 (io.splits.headD size)) (min size io.stream.length)
  (io.stream.take amount, ⟨io.stream.drop amount, io.splits.tail⟩)

structure RsBuffer where
  memory : Memory
  bufferSize : Nat
  currPtr : Nat
  endPtr : Nat

namespace RsBuffer

/-- The constructor; the bytes of the allocation are unset. -/
def init (memory : Memory) : RsBuffer := ⟨memory, DEFAULT_RECV_BUFFER_SIZE, 0, 0⟩

/-- `realloc` keeps the bytes and the offsets; a size above the maximum is refused. -/
def setBuffer (buffer : RsBuffer) (size : Nat) : RsBuffer :=
  if size > MAX_SOCKET_BUFFER then buffer
  else
    let nbResizeBuf := min size MAX_SOCKET_BUFFER
    if nbResizeBuf ≤ buffer.bufferSize then buffer else { buffer with bufferSize := nbResizeBuf }

/-- The returned pointer is the old position. Nothing stops it from passing `end_ptr`. -/
def readNbytes (buffer : RsBuffer) (size : Nat) : Nat × RsBuffer :=
  (buffer.currPtr, { buffer with currPtr := buffer.currPtr + size })

/-- The result of filling: the error code, the buffer and the socket. -/
abbrev Filled := Except Halt (Nat × RsBuffer × RsSocket)

/-- The loop of `fill_buffer`. Each turn takes at least one byte off the stream. -/
def fillLoop : Nat → RsBuffer → RsSocket → Nat → Nat → Filled
  | 0, _, _, _, _ => .error .unfinished
  | fuel + 1, buffer, io, size, freeSpace =>
      if buffer.currPtr + size ≤ buffer.endPtr then .ok (ERROR_SUCCESS, buffer, io)
      else
        let (bytes, rest) := io.read freeSpace
        if bytes = [] then .ok (ERROR_SOCKET_READ, buffer, rest)
        else
          fillLoop fuel
            { buffer with
              memory := write buffer.memory buffer.endPtr bytes
              endPtr := buffer.endPtr + bytes.length }
            rest size (freeSpace - bytes.length)

def fillBuffer (buffer : RsBuffer) (io : RsSocket) (size : Int) : Filled :=
  if size < 0 then .error .assertion
  else
    let size := size.toNat
    if buffer.currPtr + size ≤ buffer.endPtr then .ok (ERROR_SUCCESS, buffer, io)
    else
      let fuel := io.stream.length + 1
      let grown := if buffer.bufferSize < size then buffer.setBuffer size else buffer
      -- computed before the reset below and not again after it
      let freeSpace := grown.bufferSize - grown.endPtr
      if buffer.currPtr = buffer.endPtr then
        fillLoop fuel { grown with currPtr := 0, endPtr := 0 } io size freeSpace
      else if freeSpace < size then
        -- `memmove` takes the negative count for a huge one
        if buffer.endPtr < buffer.currPtr then .error .fault
        else
          let existsBytes := buffer.endPtr - buffer.currPtr
          let moved := write grown.memory 0 (view grown.memory grown.currPtr existsBytes)
          fillLoop fuel { grown with memory := moved, currPtr := 0, endPtr := existsBytes } io size
            (grown.bufferSize - existsBytes)
      else fillLoop fuel grown io size freeSpace

def pending (buffer : RsBuffer) : List UInt8 :=
  view buffer.memory buffer.currPtr (buffer.endPtr - buffer.currPtr)

structure Ordered (buffer : RsBuffer) : Prop where
  consumed : buffer.currPtr ≤ buffer.endPtr
  inside : buffer.endPtr ≤ buffer.bufferSize
  least : DEFAULT_RECV_BUFFER_SIZE ≤ buffer.bufferSize
  most : buffer.bufferSize ≤ MAX_SOCKET_BUFFER

theorem ordered_init (memory : Memory) : (init memory).Ordered :=
  by
  refine ⟨Nat.le_refl 0, Nat.zero_le _, Nat.le_refl _, ?_⟩
  show DEFAULT_RECV_BUFFER_SIZE ≤ MAX_SOCKET_BUFFER
  decide

theorem Ordered.pending_length {buffer : RsBuffer} : buffer.pending.length = buffer.endPtr - buffer.currPtr := by
  simp [pending]

def receive (buffer : RsBuffer) (bytes : List UInt8) : RsBuffer :=
  { buffer with memory := write buffer.memory buffer.endPtr bytes, endPtr := buffer.endPtr + bytes.length }

theorem pending_receive {buffer : RsBuffer} (consumed : buffer.currPtr ≤ buffer.endPtr) (bytes : List UInt8) :
    (buffer.receive bytes).pending = buffer.pending ++ bytes := by
  have place : buffer.currPtr + (buffer.endPtr - buffer.currPtr) = buffer.endPtr := by omega
  have more : buffer.endPtr + bytes.length - buffer.currPtr =
      buffer.endPtr - buffer.currPtr + bytes.length := by omega
  have behind := view_write_behind buffer.memory buffer.currPtr (buffer.endPtr - buffer.currPtr) bytes
  rw [place] at behind
  simp only [pending, receive, more, behind]

theorem Ordered.consume {buffer : RsBuffer} (ordered : buffer.Ordered) {size : Nat}
    (enough : size ≤ buffer.pending.length) :
    (buffer.readNbytes size).2.Ordered ∧
      buffer.pending = view buffer.memory buffer.currPtr size ++ (buffer.readNbytes size).2.pending := by
  have consumed := ordered.consumed
  rw [Ordered.pending_length] at enough
  refine ⟨⟨?_, ordered.inside, ordered.least, ordered.most⟩, ?_⟩
  · simp only [readNbytes]
    omega
  · have split : buffer.endPtr - buffer.currPtr = size + (buffer.endPtr - (buffer.currPtr + size)) := by omega
    simp only [pending, readNbytes]
    rw [split, view_append]

theorem read_spec (io : RsSocket) (size : Nat) :
    (io.read size).1 ++ (io.read size).2.stream = io.stream ∧ (io.read size).1.length ≤ size ∧
      ((io.read size).1 = [] → size = 0 ∨ io.stream = []) := by
  refine ⟨List.take_append_drop _ _, ?_, fun empty => ?_⟩
  · simp only [RsSocket.read, List.length_take]
    omega
  · have length := congrArg List.length empty
    simp only [RsSocket.read, List.length_take, List.length_nil] at length
    by_cases dry : io.stream = []
    · exact Or.inr dry
    · have positive := List.length_pos_of_ne_nil dry
      omega

/-- How the loop ends: it has moved some bytes from the stream to behind the end, and either
that is enough, or the room it was given is used up, or the stream is dry. -/
structure LoopEnd (buffer : RsBuffer) (io : RsSocket) (size freeSpace : Nat) (code : Nat)
    (after : RsBuffer) (rest : RsSocket) (taken : List UInt8) : Prop where
  stream : io.stream = taken ++ rest.stream
  pending : after.pending = buffer.pending ++ taken
  currPtr : after.currPtr = buffer.currPtr
  endPtr : after.endPtr = buffer.endPtr + taken.length
  bufferSize : after.bufferSize = buffer.bufferSize
  room : taken.length ≤ freeSpace
  code : code = ERROR_SUCCESS ∧ buffer.currPtr + size ≤ after.endPtr ∨
    code = ERROR_SOCKET_READ ∧ after.endPtr < buffer.currPtr + size ∧
      (taken.length = freeSpace ∨ rest.stream = [])

theorem fillLoop_spec (fuel : Nat) (buffer : RsBuffer) (io : RsSocket) (size freeSpace : Nat)
    (ordered : buffer.currPtr ≤ buffer.endPtr) (fueled : io.stream.length < fuel) :
    ∃ code after rest taken, fillLoop fuel buffer io size freeSpace = .ok (code, after, rest) ∧
      LoopEnd buffer io size freeSpace code after rest taken := by
  induction fuel generalizing buffer io freeSpace with
  | zero => omega
  | succ fuel ih =>
    unfold fillLoop
    by_cases enough : buffer.currPtr + size ≤ buffer.endPtr
    · refine ⟨_, _, _, [], if_pos enough, ?_⟩
      constructor <;> simp [enough]
    · have ⟨split, atMost, starved⟩ := read_spec io freeSpace
      simp only [if_neg enough]
      generalize io.read freeSpace = result at split atMost starved ⊢
      obtain ⟨bytes, rest⟩ := result
      simp only at split atMost starved ⊢
      by_cases empty : bytes = []
      · subst empty
        simp only [List.nil_append] at split
        refine ⟨_, _, _, [], if_pos rfl, ?_⟩
        have dry := starved rfl
        rw [← split] at dry
        constructor
        case code => exact Or.inr ⟨rfl, by omega, dry.imp (fun full => full.symm) id⟩
        all_goals simp [split]
      · have positive := List.length_pos_of_ne_nil empty
        have shorter : rest.stream.length < fuel := by
          have lengths := congrArg List.length split
          simp only [List.length_append] at lengths
          omega
        obtain ⟨code, after, left, taken, ran, ended⟩ :=
          ih (buffer.receive bytes) rest (freeSpace - bytes.length) (Nat.le_trans ordered (Nat.le_add_right _ _))
            shorter
        refine ⟨code, after, left, bytes ++ taken, by rw [if_neg empty]; exact ran, ?_⟩
        have extended : (buffer.receive bytes).pending = buffer.pending ++ bytes := pending_receive ordered bytes
        constructor
        case stream => rw [List.append_assoc, ← ended.stream, split]
        case pending => rw [ended.pending, extended, List.append_assoc]
        case currPtr => exact ended.currPtr
        case endPtr =>
          rw [ended.endPtr, List.length_append]
          exact Nat.add_assoc ..
        case bufferSize => exact ended.bufferSize
        case room =>
          have room := ended.room
          simp only [List.length_append]
          omega
        case code =>
          rcases ended.code with ⟨success, reached⟩ | ⟨failed, short, why⟩
          · exact Or.inl ⟨success, reached⟩
          · refine Or.inr ⟨failed, short, why.imp (fun full => ?_) id⟩
            simp only [List.length_append]
            omega

theorem LoopEnd.ordered {buffer : RsBuffer} {io : RsSocket} {size freeSpace code : Nat} {after : RsBuffer}
    {rest : RsSocket} {taken : List UInt8} (ended : LoopEnd buffer io size freeSpace code after rest taken)
    (before : buffer.Ordered) (fits : buffer.endPtr + freeSpace ≤ buffer.bufferSize) : after.Ordered := by
  have consumed := before.consumed
  have room := ended.room
  refine ⟨?_, ?_, ?_, ?_⟩
  · rw [ended.currPtr, ended.endPtr]
    omega
  · rw [ended.bufferSize, ended.endPtr]
    omega
  · exact ended.bufferSize ▸ before.least
  · exact ended.bufferSize ▸ before.most

/-- A consumed buffer with too little room behind its end: `fill_buffer` resets the pointers
but goes on with the room it had before. -/
def Cramped (buffer : RsBuffer) (size : Nat) : Prop :=
  buffer.currPtr = buffer.endPtr ∧ max buffer.bufferSize size < buffer.endPtr + size

instance (buffer : RsBuffer) (size : Nat) : Decidable (buffer.Cramped size) :=
  inferInstanceAs (Decidable (_ ∧ _))

structure FillEnd (buffer : RsBuffer) (io : RsSocket) (size code : Nat) (after : RsBuffer)
    (rest : RsSocket) (taken : List UInt8) : Prop where
  ordered : after.Ordered
  stream : io.stream = taken ++ rest.stream
  pending : after.pending = buffer.pending ++ taken
  code : code = ERROR_SUCCESS ∧ size ≤ after.pending.length ∨
    code = ERROR_SOCKET_READ ∧ after.pending.length < size ∧
      (rest.stream = [] ∨ buffer.Cramped size ∧ after.currPtr = 0)

theorem LoopEnd.fillEnd {buffer start : RsBuffer} {io : RsSocket} {size freeSpace code : Nat}
    {after : RsBuffer} {rest : RsSocket} {taken : List UInt8}
    (ended : LoopEnd start io size freeSpace code after rest taken) (before : start.Ordered)
    (fits : start.endPtr + freeSpace ≤ start.bufferSize) (same : start.pending = buffer.pending)
    (room : start.currPtr + size ≤ start.endPtr + freeSpace ∨ buffer.Cramped size ∧ start.currPtr = 0) :
    FillEnd buffer io size code after rest taken := by
  have ordered := ended.ordered before fits
  have length : after.pending.length = after.endPtr - start.currPtr := by
    rw [Ordered.pending_length, ended.currPtr]
  have behind := ended.endPtr
  have start_le : start.currPtr ≤ after.endPtr := ended.currPtr ▸ ordered.consumed
  refine ⟨ordered, ended.stream, same ▸ ended.pending, ?_⟩
  rcases ended.code with ⟨success, reached⟩ | ⟨failed, short, why⟩
  · exact Or.inl ⟨success, by omega⟩
  · refine Or.inr ⟨failed, by omega, ?_⟩
    rcases why with full | dry
    · rcases room with enough | ⟨cramped, reset⟩
      · omega
      · exact Or.inr ⟨cramped, ended.currPtr.trans reset⟩
    · exact Or.inl dry

theorem setBuffer_eq {buffer : RsBuffer} {size : Nat} (small : size ≤ MAX_SOCKET_BUFFER) :
    (if buffer.bufferSize < size then buffer.setBuffer size else buffer) =
      { buffer with bufferSize := max buffer.bufferSize size } := by
  by_cases less : buffer.bufferSize < size
  · rw [if_pos less, Nat.max_eq_right (Nat.le_of_lt less)]
    unfold setBuffer
    rw [if_neg (Nat.not_lt.mpr small), Nat.min_eq_left small]
    exact if_neg (Nat.not_le.mpr less)
  · rw [if_neg less, Nat.max_eq_left (Nat.not_lt.mp less)]

theorem fillBuffer_spec {buffer : RsBuffer} (io : RsSocket) (size : Nat) (ordered : buffer.Ordered)
    (small : size ≤ MAX_SOCKET_BUFFER) :
    ∃ code after rest taken, buffer.fillBuffer io size = .ok (code, after, rest) ∧
      FillEnd buffer io size code after rest taken := by
  have ⟨consumed, inside, least, most⟩ := ordered
  have natural : ¬((size : Int) < 0) := by omega
  unfold fillBuffer
  rw [if_neg natural]
  simp only [Int.toNat_natCast, setBuffer_eq small]
  by_cases enough : buffer.currPtr + size ≤ buffer.endPtr
  · refine ⟨_, _, _, [], if_pos enough, ordered, rfl, (List.append_nil _).symm, Or.inl ⟨rfl, ?_⟩⟩
    rw [Ordered.pending_length]
    omega
  · have fueled : io.stream.length < io.stream.length + 1 := Nat.lt_succ_self _
    have larger : buffer.bufferSize ≤ max buffer.bufferSize size := Nat.le_max_left _ _
    have limited : max buffer.bufferSize size ≤ MAX_SOCKET_BUFFER := Nat.max_le.mpr ⟨most, small⟩
    rw [if_neg enough]
    by_cases empty : buffer.currPtr = buffer.endPtr
    · obtain ⟨code, after, rest, taken, ran, ended⟩ := fillLoop_spec (io.stream.length + 1)
        { buffer with bufferSize := max buffer.bufferSize size, currPtr := 0, endPtr := 0 } io size
        (max buffer.bufferSize size - buffer.endPtr) (Nat.le_refl _) fueled
      refine ⟨code, after, rest, taken, by rw [if_pos empty]; exact ran, ?_⟩
      refine ended.fillEnd ⟨Nat.le_refl _, Nat.zero_le _, Nat.le_trans least larger, limited⟩ ?_ ?_ ?_
      · simp only
        omega
      · simp [pending, empty]
      · by_cases cramped : buffer.Cramped size
        · exact Or.inr ⟨cramped, rfl⟩
        · unfold Cramped at cramped
          simp only
          omega
    · rw [if_neg empty]
      by_cases tight : max buffer.bufferSize size - buffer.endPtr < size
      · have most : buffer.endPtr - buffer.currPtr ≤ max buffer.bufferSize size := by omega
        obtain ⟨code, after, rest, taken, ran, ended⟩ := fillLoop_spec (io.stream.length + 1)
          { buffer with
            memory := write buffer.memory 0 (view buffer.memory buffer.currPtr (buffer.endPtr - buffer.currPtr))
            bufferSize := max buffer.bufferSize size
            currPtr := 0
            endPtr := buffer.endPtr - buffer.currPtr } io size
          (max buffer.bufferSize size - (buffer.endPtr - buffer.currPtr)) (Nat.zero_le _) fueled
        refine ⟨code, after, rest, taken, ?_, ?_⟩
        · rw [if_pos tight, if_neg (Nat.not_lt.mpr consumed)]
          exact ran
        · refine ended.fillEnd ⟨Nat.zero_le _, most, Nat.le_trans least larger, limited⟩ ?_ ?_ (Or.inl ?_)
          · simp only
            omega
          · have copied := view_write buffer.memory 0
              (view buffer.memory buffer.currPtr (buffer.endPtr - buffer.currPtr))
            rw [view_length] at copied
            simp only [pending, Nat.sub_zero, copied]
          · simp only
            omega
      · obtain ⟨code, after, rest, taken, ran, ended⟩ := fillLoop_spec (io.stream.length + 1)
          { buffer with bufferSize := max buffer.bufferSize size } io size
          (max buffer.bufferSize size - buffer.endPtr) consumed fueled
        refine ⟨code, after, rest, taken, by rw [if_neg tight]; exact ran, ?_⟩
        refine ended.fillEnd
          ⟨consumed, Nat.le_trans inside larger, Nat.le_trans least larger, limited⟩ ?_ rfl (Or.inl ?_)
        · simp only
          omega
        · simp only
          omega

theorem fillBuffer_cramped {buffer : RsBuffer} (io : RsSocket) {size : Nat} (ordered : buffer.Ordered)
    (small : size ≤ MAX_SOCKET_BUFFER) (cramped : buffer.Cramped size) :
    ∃ after rest, buffer.fillBuffer io size = .ok (ERROR_SOCKET_READ, after, rest) := by
  have ⟨empty, tight⟩ := cramped
  have inside := ordered.inside
  obtain ⟨code, after, rest, taken, ran, ended⟩ := fillLoop_spec (io.stream.length + 1)
    { buffer with bufferSize := max buffer.bufferSize size, currPtr := 0, endPtr := 0 } io size
    (max buffer.bufferSize size - buffer.endPtr) (Nat.le_refl _) (Nat.lt_succ_self _)
  have filled : buffer.fillBuffer io size = .ok (code, after, rest) := by
    unfold fillBuffer
    simp only [Int.toNat_natCast, setBuffer_eq small]
    rw [if_neg (by omega), if_neg (by omega), if_pos empty]
    exact ran
  rcases ended.code with ⟨_, reached⟩ | ⟨failed, _⟩
  · have room := ended.room
    have last := ended.endPtr
    simp only at reached last
    omega
  · exact ⟨after, rest, failed ▸ filled⟩

theorem fillBuffer_success_iff {buffer : RsBuffer} {io : RsSocket} {size : Nat} (ordered : buffer.Ordered)
    (small : size ≤ MAX_SOCKET_BUFFER) (coming : size ≤ buffer.pending.length + io.stream.length) :
    (∃ after rest, buffer.fillBuffer io size = .ok (ERROR_SUCCESS, after, rest)) ↔ ¬buffer.Cramped size := by
  constructor
  · rintro ⟨after, rest, succeeded⟩ cramped
    obtain ⟨_, _, failed⟩ := fillBuffer_cramped io ordered small cramped
    rw [succeeded] at failed
    simp at failed
  · intro roomy
    obtain ⟨code, after, rest, taken, ran, ended⟩ := fillBuffer_spec io size ordered small
    rcases ended.code with ⟨success, _⟩ | ⟨_, short, dry | ⟨cramped, _⟩⟩
    · exact ⟨after, rest, success ▸ ran⟩
    · have all := congrArg List.length ended.pending
      have split := congrArg List.length ended.stream
      rw [dry, List.append_nil] at split
      rw [List.length_append] at all
      omega
    · exact absurd cramped roomy

theorem fillBuffer_enough {buffer : RsBuffer} (io : RsSocket) {size : Nat}
    (enough : buffer.currPtr + size ≤ buffer.endPtr) :
    buffer.fillBuffer io size = .ok (ERROR_SUCCESS, buffer, io) := by
  unfold fillBuffer
  simp only [Int.toNat_natCast]
  rw [if_neg (by omega), if_pos enough]

end RsBuffer

end RabbitStreamer.Core.Buffer
