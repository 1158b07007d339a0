import RabbitStreamer.Core.Buffer

/-! `fill_buffer` on any socket: what it asks for and what it leaves behind, whatever the socket
delivers and wherever it fails. -/

namespace RabbitStreamer.Core.BufferFill
open RabbitStreamer.Lib RabbitStreamer.Lib.Memory RabbitStreamer.Core.Streamer
open RabbitStreamer.Core.Buffer RabbitStreamer.Core.Buffer.RsBuffer

/-- A socket as `RsSocket::read` shows it: asked to put `size` bytes at `buf`, it delivers some of
them or fails with a code. -/
structure Socket where
  State : Type
  read : State → Nat → Nat → Except Nat (List UInt8) × State
  delivers : ∀ state buf size bytes, (read state buf size).1 = .ok bytes → 0 < bytes.length ∧ bytes.length ≤ size
  fails : ∀ state buf size code, (read state buf size).1 = .error code → code ≠ ERROR_SUCCESS

def fillLoopFrom (io : Socket) : Nat → RsBuffer → io.State → Nat → Nat → Except Halt (Nat × RsBuffer × io.State)
  | 0, _, _, _, _ => .error .unfinished
  | fuel + 1, buffer, state, size, freeSpace =>
      if buffer.currPtr + size ≤ buffer.endPtr then .ok (ERROR_SUCCESS, buffer, state)
      else
        match io.read state buffer.endPtr freeSpace with
        | (.error code, rest) => .ok (code, buffer, rest)
        | (.ok bytes, rest) => fillLoopFrom io fuel (buffer.receive bytes) rest size (freeSpace - bytes.length)

/-- What `fill_buffer` does before its loop: the buffer and the room it counts on. -/
def prepare (buffer : RsBuffer) (size : Nat) : Except Halt (RsBuffer × Nat) :=
  let grown := if buffer.bufferSize < size then buffer.setBuffer size else buffer
  let freeSpace := grown.bufferSize - grown.endPtr
  if buffer.currPtr = buffer.endPtr then .ok ({ grown with currPtr := 0, endPtr := 0 }, freeSpace)
  else if freeSpace < size then
    if buffer.endPtr < buffer.currPtr then .error .fault
    else
      let existsBytes := buffer.endPtr - buffer.currPtr
      let moved := write grown.memory 0 (view grown.memory grown.currPtr existsBytes)
      .ok ({ grown with memory := moved, currPtr := 0, endPtr := existsBytes }, grown.bufferSize - existsBytes)
  else .ok (grown, freeSpace)

/-- `fill_buffer`. Each turn of the loop adds a byte, so it has ended when it has taken this many. -/
def fillFrom (io : Socket) (buffer : RsBuffer) (state : io.State) (size : Int) :
    Except Halt (Nat × RsBuffer × io.State) :=
  if size < 0 then .error .assertion
  else if buffer.currPtr + size.toNat ≤ buffer.endPtr then .ok (ERROR_SUCCESS, buffer, state)
  else
    match prepare buffer size.toNat with
    | .error reason => .error reason
    | .ok (start, freeSpace) =>
        fillLoopFrom io (start.currPtr + size.toNat + 1) start state size.toNat freeSpace

section Turns
variable {io : Socket} {fuel : Nat} {buffer : RsBuffer} {state rest : io.State} {size freeSpace : Nat}

theorem fillLoopFrom_enough (enough : buffer.currPtr + size ≤ buffer.endPtr) :
    fillLoopFrom io (fuel + 1) buffer state size freeSpace = .ok (ERROR_SUCCESS, buffer, state) := if_pos enough

theorem fillLoopFrom_failed (short : ¬buffer.currPtr + size ≤ buffer.endPtr) {code : Nat}
    (read : io.read state buffer.endPtr freeSpace = (.error code, rest)) :
    fillLoopFrom io (fuel + 1) buffer state size freeSpace = .ok (code, buffer, rest) := by
  rw [fillLoopFrom, if_neg short, read]

theorem fillLoopFrom_received (short : ¬buffer.currPtr + size ≤ buffer.endPtr) {bytes : List UInt8}
    (read : io.read state buffer.endPtr freeSpace = (.ok bytes, rest)) :
    fillLoopFrom io (fuel + 1) buffer state size freeSpace =
      fillLoopFrom io fuel (buffer.receive bytes) rest size (freeSpace - bytes.length) := by
  rw [fillLoopFrom, if_neg short, read]

end Turns

/-- A call of `read` with what it was asked for. -/
structure Exchange where
  buf : Nat
  size : Nat
  answer : Except Nat (List UInt8)

def Exchange.delivered (exchange : Exchange) : List UInt8 :=
  match exchange.answer with
  | .ok bytes => bytes
  | .error _ => []

/-- The socket with a log of the calls made on it, oldest first. -/
def Socket.watched (io : Socket) : Socket where
  State := io.State × List Exchange
  read state buf size :=
    let (answer, rest) := io.read state.1 buf size
    (answer, rest, state.2 ++ [⟨buf, size, answer⟩])
  delivers state := io.delivers state.1
  fails state := io.fails state.1

theorem watched_read {io : Socket} {state rest : io.State} {buf size : Nat} {answer : Except Nat (List UInt8)}
    (read : io.read state buf size = (answer, rest)) (log : List Exchange) :
    io.watched.read (state, log) buf size = (answer, rest, log ++ [⟨buf, size, answer⟩]) := by
  simp only [Socket.watched, read]

/-- How the loop ends when it has made these calls: it has asked for what fits, and it has moved the
end by what came. -/
structure LoopFill (buffer : RsBuffer) (size freeSpace : Nat) (calls : List Exchange) (code : Nat)
    (after : RsBuffer) : Prop where
  asked : ∀ call ∈ calls, call.buf + call.size ≤ buffer.endPtr + freeSpace
  currPtr : after.currPtr = buffer.currPtr
  bufferSize : after.bufferSize = buffer.bufferSize
  endPtr : after.endPtr = buffer.endPtr + (calls.flatMap Exchange.delivered).length
  room : (calls.flatMap Exchange.delivered).length ≤ freeSpace
  pending : after.pending = buffer.pending ++ calls.flatMap Exchange.delivered
  code : code = ERROR_SUCCESS → buffer.currPtr + size ≤ after.endPtr

theorem fillLoopFrom_spec (io : Socket) (fuel : Nat) (buffer : RsBuffer) (state : io.State) (log : List Exchange)
    (size freeSpace : Nat) (ordered : buffer.currPtr ≤ buffer.endPtr)
    (fueled : buffer.currPtr + size - buffer.endPtr < fuel) :
    ∃ code after rest calls, fillLoopFrom io fuel buffer state size freeSpace = .ok (code, after, rest) ∧
      fillLoopFrom io.watched fuel buffer (state, log) size freeSpace = .ok (code, after, rest, log ++ calls) ∧
      LoopFill buffer size freeSpace calls code after := by
  induction fuel generalizing buffer state log freeSpace with
  | zero => exact absurd fueled (Nat.not_lt_zero _)
  | succ fuel ih =>
    by_cases enough : buffer.currPtr + size ≤ buffer.endPtr
    · refine ⟨_, _, state, [], fillLoopFrom_enough enough, ?_, ?_⟩
      · rw [List.append_nil]
        exact fillLoopFrom_enough enough
      refine ⟨?_, rfl, rfl, rfl, Nat.zero_le _, (List.append_nil _).symm, fun _ => enough⟩
      exact fun call other => absurd other List.not_mem_nil
    · cases read : io.read state buffer.endPtr freeSpace with | mk answer rest =>
      cases answer with
      | error code =>
        refine ⟨code, buffer, rest, [⟨buffer.endPtr, freeSpace, .error code⟩],
          fillLoopFrom_failed enough read, fillLoopFrom_failed enough (watched_read read log), ?_⟩
        refine ⟨?_, rfl, rfl, rfl, Nat.zero_le _, (List.append_nil _).symm, ?_⟩
        · intro call member
          rw [List.mem_singleton.mp member]
        · intro success
          exact absurd success (io.fails state buffer.endPtr freeSpace code (by rw [read]))
      | ok bytes =>
        obtain ⟨positive, fits⟩ := io.delivers state buffer.endPtr freeSpace bytes (by rw [read])
        have less : (buffer.receive bytes).currPtr + size - (buffer.receive bytes).endPtr < fuel := by
          show buffer.currPtr + size - (buffer.endPtr + bytes.length) < fuel
          omega
        obtain ⟨code, after, last, calls, ran, watched, ended⟩ := ih (buffer.receive bytes) rest
          (log ++ [⟨buffer.endPtr, freeSpace, .ok bytes⟩]) (freeSpace - bytes.length)
          (Nat.le_trans ordered (Nat.le_add_right _ _)) less
        have same : (buffer.receive bytes).endPtr + (freeSpace - bytes.length) = buffer.endPtr + freeSpace := by
          show buffer.endPtr + bytes.length + (freeSpace - bytes.length) = _
          omega
        refine ⟨code, after, last, ⟨buffer.endPtr, freeSpace, .ok bytes⟩ :: calls,
          (fillLoopFrom_received enough read).trans ran, ?_, ?_⟩
        · rw [fillLoopFrom_received enough (watched_read read log), watched, List.append_assoc]
          rfl
        constructor
        case asked =>
          intro call member
          rcases List.mem_cons.mp member with rfl | later
          · exact Nat.le_refl _
          · exact same ▸ ended.asked call later
        case currPtr => exact ended.currPtr
        case bufferSize => exact ended.bufferSize
        case endPtr =>
          rw [ended.endPtr, List.flatMap_cons, List.length_append]
          exact Nat.add_assoc ..
        case room =>
          have room := ended.room
          rw [List.flatMap_cons, List.length_append]
          show bytes.length + _ ≤ _
          omega
        case pending =>
          rw [ended.pending, pending_receive ordered, List.flatMap_cons, List.append_assoc]
          rfl
        case code => exact ended.code

/-- What the loop starts from: what was unread is still there, and the room ends in the buffer. -/
structure Prepared (buffer start : RsBuffer) (freeSpace : Nat) : Prop where
  consumed : start.currPtr ≤ start.endPtr
  inside : start.endPtr + freeSpace ≤ start.bufferSize
  grown : start.bufferSize ≤ max buffer.bufferSize MAX_SOCKET_BUFFER
  pending : start.pending = buffer.pending

theorem setBuffer_grows (buffer : RsBuffer) (size : Nat) : ∃ bufferSize, buffer.bufferSize ≤ bufferSize ∧
    bufferSize ≤ max buffer.bufferSize MAX_SOCKET_BUFFER ∧
    (if buffer.bufferSize < size then buffer.setBuffer size else buffer) = { buffer with bufferSize } := by
  have same : buffer.bufferSize ≤ max buffer.bufferSize MAX_SOCKET_BUFFER := Nat.le_max_left ..
  unfold setBuffer
  dsimp only
  split_ifs with less large enough
  · exact ⟨_, Nat.le_refl _, same, rfl⟩
  · exact ⟨_, Nat.le_refl _, same, rfl⟩
  · exact ⟨_, Nat.le_of_lt (Nat.not_le.mp enough), (Nat.min_le_right ..).trans (Nat.le_max_right ..), rfl⟩
  · exact ⟨_, Nat.le_refl _, same, rfl⟩

theorem prepare_spec {buffer : RsBuffer} (consumed : buffer.currPtr ≤ buffer.endPtr)
    (inside : buffer.endPtr ≤ buffer.bufferSize) (size : Nat) :
    ∃ start freeSpace, prepare buffer size = .ok (start, freeSpace) ∧ Prepared buffer start freeSpace := by
  obtain ⟨bufferSize, grows, most, grown⟩ := setBuffer_grows buffer size
  unfold prepare
  rw [grown]
  dsimp only
  by_cases empty : buffer.currPtr = buffer.endPtr
  · -- the room is that behind the old end, which is no more than there is
    refine ⟨_, _, if_pos empty, Nat.le_refl _, ?_, most, ?_⟩
    · simp only
      omega
    · simp [pending, empty]
  · rw [if_neg empty]
    by_cases tight : bufferSize - buffer.endPtr < size
    · rw [if_pos tight, if_neg (Nat.not_lt.mpr consumed)]
      refine ⟨_, _, rfl, Nat.zero_le _, ?_, most, ?_⟩
      · simp only
        omega
      · have copied := view_write buffer.memory 0 (view buffer.memory buffer.currPtr (buffer.endPtr - buffer.currPtr))
        rw [view_length] at copied
        exact copied
    · rw [if_neg tight]
      refine ⟨_, _, rfl, consumed, ?_, most, rfl⟩
      simp only
      omega

/-- What `fill_buffer` leaves behind when it has made these calls. -/
structure FillKept (buffer : RsBuffer) (size : Nat) (calls : List Exchange) (code : Nat) (after : RsBuffer) :
    Prop where
  asked : ∀ call ∈ calls, call.buf + call.size ≤ after.bufferSize
  consumed : after.currPtr ≤ after.endPtr
  inside : after.endPtr ≤ after.bufferSize
  grown : after.bufferSize ≤ max buffer.bufferSize MAX_SOCKET_BUFFER
  pending : after.pending = buffer.pending ++ calls.flatMap Exchange.delivered
  enough : code = ERROR_SUCCESS → size ≤ after.endPtr - after.currPtr

theorem fillFrom_spec (io : Socket) {buffer : RsBuffer} (state : io.State) (size : Nat)
    (consumed : buffer.currPtr ≤ buffer.endPtr) (inside : buffer.endPtr ≤ buffer.bufferSize) :
    ∃ code after rest calls, fillFrom io buffer state size = .ok (code, after, rest) ∧
      fillFrom io.watched buffer (state, []) size = .ok (code, after, rest, calls) ∧
      FillKept buffer size calls code after := by
  have natural : ¬(size : Int) < 0 := Int.not_lt.mpr (Int.natCast_nonneg size)
  unfold fillFrom
  rw [if_neg natural, if_neg natural, Int.toNat_natCast]
  by_cases enough : buffer.currPtr + size ≤ buffer.endPtr
  · refine ⟨_, _, state, [], if_pos enough, if_pos enough, ?_⟩
    refine ⟨?_, consumed, inside, Nat.le_max_left .., (List.append_nil _).symm, fun _ => ?_⟩
    · exact fun call other => absurd other List.not_mem_nil
    · omega
  · obtain ⟨start, freeSpace, prepared, ready⟩ := prepare_spec consumed inside size
    obtain ⟨code, after, rest, calls, ran, watched, ended⟩ := fillLoopFrom_spec io (start.currPtr + size + 1) start
      state [] size freeSpace ready.consumed (by omega)
    have room := ended.room
    have last := ended.endPtr
    have fits := ready.inside
    have ordered := ready.consumed
    rw [if_neg enough, if_neg enough, prepared]
    refine ⟨code, after, rest, calls, ran, watched, ?_⟩
    constructor
    case asked =>
      intro call member
      rw [ended.bufferSize]
      exact (ended.asked call member).trans fits
    case consumed =>
      rw [ended.currPtr, last]
      omega
    case inside =>
      rw [ended.bufferSize, last]
      omega
    case grown => exact ended.bufferSize ▸ ready.grown
    case pending => rw [ended.pending, ready.pending]
    case enough =>
      intro success
      have reached := ended.code success
      rw [ended.currPtr]
      omega

/-- `fill_buffer` ends whatever the socket does. It asks only for what fits into the buffer, it
leaves what was unread and what came, and where it reports success there is enough. -/
theorem fill_keeps_bytes (io : Socket) (buffer : RsBuffer) (state : io.State) (size : Nat)
    (consumed : buffer.currPtr ≤ buffer.endPtr) (inside : buffer.endPtr ≤ buffer.bufferSize) :
    ∃ code after rest calls, fillFrom io buffer state size = .ok (code, after, rest) ∧
      fillFrom io.watched buffer (state, []) size = .ok (code, after, rest, calls) ∧
      (∀ call ∈ calls, call.buf + call.size ≤ after.bufferSize) ∧
      after.currPtr ≤ after.endPtr ∧ after.endPtr ≤ after.bufferSize ∧
      after.pending = buffer.pending ++ calls.flatMap Exchange.delivered ∧
      (code = ERROR_SUCCESS → size ≤ after.endPtr - after.currPtr) := by
  obtain ⟨code, after, rest, calls, ran, watched, kept⟩ := fillFrom_spec io state size consumed inside
  exact ⟨code, after, rest, calls, ran, watched, kept.asked, kept.consumed, kept.inside, kept.pending, kept.enough⟩

def streamSocket : Socket where
  State := RsSocket
  read io _ size :=
    let (bytes, rest) := RsSocket.read io size
    (if bytes = [] then .error ERROR_SOCKET_READ else .ok bytes, rest)
  delivers io buf size bytes delivered := by
    dsimp only at delivered
    split_ifs at delivered with dry
    cases delivered
    exact ⟨List.length_pos_of_ne_nil dry, (read_spec io size).2.1⟩
  fails io buf size code failed := by
    dsimp only at failed
    split_ifs at failed
    cases failed
    decide

theorem three_bytes_kept :
    ∃ code after rest calls,
      fillFrom streamSocket (.init fun _ => 0) ⟨[1, 2, 3], [1, 2]⟩ (3 : Nat) = .ok (code, after, rest) ∧
      fillFrom streamSocket.watched (.init fun _ => 0) (⟨[1, 2, 3], [1, 2]⟩, []) (3 : Nat) =
        .ok (code, after, rest, calls) ∧
      (∀ call ∈ calls, call.buf + call.size ≤ after.bufferSize) ∧
      after.currPtr ≤ after.endPtr ∧ after.endPtr ≤ after.bufferSize ∧
      after.pending = (RsBuffer.init fun _ => 0).pending ++ calls.flatMap Exchange.delivered ∧
      (code = ERROR_SUCCESS → 3 ≤ after.endPtr - after.currPtr) :=
  fill_keeps_bytes streamSocket (.init fun _ => 0) ⟨[1, 2, 3], [1, 2]⟩ 3 (Nat.le_refl _) (Nat.zero_le _)

theorem fillLoopFrom_eq (fuel more : Nat) (buffer : RsBuffer) (io : RsSocket) (size freeSpace : Nat)
    (fueled : buffer.currPtr + size - buffer.endPtr < fuel) (fueledToo : io.stream.length < more) :
    fillLoopFrom streamSocket fuel buffer io size freeSpace = fillLoop more buffer io size freeSpace := by
  induction fuel generalizing more buffer io freeSpace with
  | zero => exact absurd fueled (Nat.not_lt_zero _)
  | succ fuel ih =>
    obtain ⟨more, rfl⟩ := Nat.exists_eq_succ_of_ne_zero (Nat.ne_of_gt (Nat.zero_lt_of_lt fueledToo))
    unfold fillLoop
    by_cases enough : buffer.currPtr + size ≤ buffer.endPtr
    · rw [if_pos enough]
      exact fillLoopFrom_enough enough
    · rw [if_neg enough]
      have split := congrArg List.length (read_spec io freeSpace).1
      rw [List.length_append] at split
      by_cases dry : (io.read freeSpace).1 = []
      · have failed : streamSocket.read io buffer.endPtr freeSpace =
            (.error ERROR_SOCKET_READ, (io.read freeSpace).2) := congrArg (·, _) (if_pos dry)
        exact (fillLoopFrom_failed enough failed).trans (if_pos dry).symm
      · have positive := List.length_pos_of_ne_nil dry
        have received : streamSocket.read io buffer.endPtr freeSpace =
            (.ok (io.read freeSpace).1, (io.read freeSpace).2) := congrArg (·, _) (if_neg dry)
        rw [fillLoopFrom_received enough received, ih more]
        · exact (if_neg dry).symm
        · show buffer.currPtr + size - (buffer.endPtr + _) < fuel
          omega
        · omega

theorem fillFrom_eq (buffer : RsBuffer) (io : RsSocket) (size : Int) :
    fillFrom streamSocket buffer io size = buffer.fillBuffer io size := by
  have loops : ∀ start freeSpace, fillLoopFrom streamSocket (start.currPtr + size.toNat + 1) start io size.toNat
      freeSpace = fillLoop (io.stream.length + 1) start io size.toNat freeSpace := fun start freeSpace =>
    fillLoopFrom_eq _ _ start io size.toNat freeSpace (by omega) (Nat.lt_succ_self _)
  unfold fillFrom fillBuffer prepare
  dsimp only
  by_cases negative : size < 0
  · rw [if_pos negative, if_pos negative]
    rfl
  rw [if_neg negative, if_neg negative]
  by_cases enough : buffer.currPtr + size.toNat ≤ buffer.endPtr
  · rw [if_pos enough, if_pos enough]
    rfl
  rw [if_neg enough, if_neg enough]
  generalize (if buffer.bufferSize < size.toNat then buffer.setBuffer size.toNat else buffer) = grown
  by_cases empty : buffer.currPtr = buffer.endPtr
  · rw [if_pos empty, if_pos empty]
    exact loops ..
  rw [if_neg empty, if_neg empty]
  by_cases tight : grown.bufferSize - grown.endPtr < size.toNat
  · rw [if_pos tight, if_pos tight]
    by_cases backwards : buffer.endPtr < buffer.currPtr
    · rw [if_pos backwards, if_pos backwards]
      rfl
    · rw [if_neg backwards, if_neg backwards]
      exact loops ..
  · rw [if_neg tight, if_neg tight]
    exact loops ..

theorem fillBuffer_inside {buffer : RsBuffer} (io : RsSocket) (size : Nat) (ordered : buffer.Ordered) :
    ∃ code after rest, buffer.fillBuffer io size = .ok (code, after, rest) ∧
      after.currPtr ≤ after.endPtr ∧ after.endPtr ≤ MAX_SOCKET_BUFFER := by
  obtain ⟨code, after, rest, calls, ran, _, kept⟩ :=
    fillFrom_spec streamSocket io size ordered.consumed ordered.inside
  rw [fillFrom_eq] at ran
  refine ⟨code, after, rest, ran, kept.consumed, kept.inside.trans (kept.grown.trans ?_)⟩
  exact Nat.max_le.mpr ⟨ordered.most, Nat.le_refl _⟩

end RabbitStreamer.Core.BufferFill
