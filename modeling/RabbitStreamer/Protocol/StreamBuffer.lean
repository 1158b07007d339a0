import RabbitStreamer.Core.BufferFill
import RabbitStreamer.Protocol.Framing

/-! The pointers of the receive buffer over any stream of bytes, well formed or not. -/

namespace RabbitStreamer.Protocol.StreamBuffer
open RabbitStreamer.Lib RabbitStreamer.Lib.Bytes RabbitStreamer.Lib.Memory RabbitStreamer.Lib.Transition
open RabbitStreamer.Core.Streamer RabbitStreamer.Core.Buffer RabbitStreamer.Core.Buffer.RsBuffer
open RabbitStreamer.Core.BufferFill RabbitStreamer.Protocol.Framing

def InOrder (buffer : RsBuffer) : Prop := buffer.currPtr ≤ buffer.endPtr ∧ buffer.endPtr ≤ buffer.bufferSize

/-- The turn is taken, which it is not where an assertion fails, and it leaves the pointers in order. -/
def Kept (turn : Option Receiver) : Prop := ∃ next, turn = some next ∧ InOrder next.conn.buffer

def unread (conn : Connection) : List UInt8 := conn.buffer.pending ++ conn.socket.stream

def announced (conn : Connection) : Int := toInt32 (ofLe32 ((unread conn).take 4))

def SizeComes (conn : Connection) : Prop := 4 ≤ (unread conn).length ∧ ¬conn.buffer.Cramped 4

/-- The message that is announced comes whole: its size counts itself, the rest is there or to come,
and there is room for it. -/
structure Whole (conn : Connection) : Prop where
  counted : 4 ≤ announced conn
  comes : announced conn ≤ (unread conn).length
  fits : announced conn ≤ 4 + MAX_SOCKET_BUFFER
  roomy : ¬CrampedBody conn

theorem readHeader_cases {conn : Connection} (ordered : conn.buffer.Ordered) :
    (¬SizeComes conn ∧ ∃ code filled, code ≠ ERROR_SUCCESS ∧ readHeader conn = .ok (code, filled, 0) ∧
      filled.buffer.Ordered) ∨
    (SizeComes conn ∧ ∃ after, readHeader conn = .ok (ERROR_SUCCESS, after, announced conn) ∧
      after.buffer.Ordered ∧ (unread conn).length = 4 + (unread after).length) := by
  obtain ⟨code, filled, rest, taken, ran, ended⟩ := fillBuffer_spec conn.socket 4 ordered (by decide)
  rw [show ((4 : Nat) : Int) = 4 from rfl] at ran
  have whole : unread conn = filled.pending ++ rest.stream := by
    rw [unread, ended.pending, ended.stream, List.append_assoc]
  have lengths := congrArg List.length whole
  rw [List.length_append] at lengths
  rcases ended.code with ⟨success, enough⟩ | ⟨failed, short, why⟩
  · subst success
    right
    have roomy : ¬conn.buffer.Cramped 4 := by
      intro cramped
      obtain ⟨_, _, other⟩ := fillBuffer_cramped conn.socket ordered (by decide) cramped
      rw [show ((4 : Nat) : Int) = 4 from rfl, ran] at other
      cases other
    obtain ⟨after, split⟩ := ended.ordered.consume enough
    have parts : unread conn = view filled.memory filled.currPtr 4 ++ unread ⟨(filled.readNbytes 4).2, rest⟩ := by
      rw [whole, split, List.append_assoc]
      rfl
    have four : (view filled.memory filled.currPtr 4).length = 4 := view_length _ _ _
    have size : announced conn = toInt32 (ofLe32 (view filled.memory filled.currPtr 4)) := by
      rw [announced, parts, List.take_left' four]
    refine ⟨⟨by omega, roomy⟩, ⟨(filled.readNbytes 4).2, rest⟩, ?_, after, ?_⟩
    · rw [size]
      exact readHeader_eq conn ran
    · rw [parts, List.length_append, four]
  · subst failed
    left
    refine ⟨fun ⟨coming, roomy⟩ => ?_, ERROR_SOCKET_READ, ⟨filled, rest⟩, by decide, ?_, ended.ordered⟩
    · rw [unread, List.length_append] at coming
      obtain ⟨_, _, success⟩ := (fillBuffer_success_iff ordered (by decide) coming).mpr roomy
      rw [show ((4 : Nat) : Int) = 4 from rfl, ran] at success
      cases success
    · rw [readHeader, ran]
      rfl

theorem readBody_inOrder_iff {after : Connection} {msgSize : Int} {code size : Nat} {filled : RsBuffer}
    {rest : RsSocket} (sized : wrap32 (msgSize - 4) = size)
    (ran : after.buffer.fillBuffer after.socket size = .ok (code, filled, rest)) :
    (∃ next message, readBody after msgSize = .ok (next, message) ∧ InOrder next.buffer) ↔
      filled.currPtr + size ≤ filled.endPtr ∧ filled.endPtr ≤ filled.bufferSize := by
  have read := readBody_eq after msgSize sized rfl ran rfl
  constructor
  · rintro ⟨next, message, other, inOrder⟩
    cases read.symm.trans other
    exact inOrder
  · exact fun inOrder => ⟨_, _, read, inOrder⟩

theorem readBody_whole {after : Connection} {msgSize : Int} (ordered : after.buffer.Ordered) (word : IsInt32 msgSize)
    (counted : 4 ≤ msgSize) (coming : msgSize ≤ 4 + (unread after).length) (fits : msgSize ≤ 4 + MAX_SOCKET_BUFFER)
    (roomy : ¬after.buffer.Cramped (wrap32 (msgSize - 4)).toNat) :
    ∃ next message, readBody after msgSize = .ok (next, message) ∧ next.buffer.Ordered := by
  have near : wrap32 (msgSize - 4) = msgSize - 4 := wrap32_of_isInt32 (by unfold IsInt32 at word ⊢; omega)
  obtain ⟨size, sized⟩ := Int.eq_ofNat_of_zero_le (show 0 ≤ msgSize - 4 by omega)
  rw [near, sized, Int.toNat_natCast] at roomy
  have small : size ≤ MAX_SOCKET_BUFFER := by omega
  obtain ⟨code, filled, rest, taken, ran, ended⟩ := fillBuffer_spec after.socket size ordered small
  rw [unread, List.length_append] at coming
  obtain ⟨_, _, success⟩ := (@fillBuffer_success_iff _ after.socket _ ordered small (by omega)).mpr roomy
  cases ran.symm.trans success
  rcases ended.code with ⟨_, enough⟩ | ⟨failed, _⟩
  · obtain ⟨behind, _⟩ := ended.ordered.consume enough
    exact ⟨_, _, readBody_eq after msgSize (near.trans sized) rfl ran rfl, behind⟩
  · exact absurd failed (by decide)

theorem readBody_kept_iff {after : Connection} {msgSize : Int} (ordered : after.buffer.Ordered)
    (word : IsInt32 msgSize) :
    (∃ next message, readBody after msgSize = .ok (next, message) ∧ InOrder next.buffer) ↔
      4 ≤ msgSize ∧ msgSize ≤ 4 + (unread after).length ∧ msgSize ≤ 4 + MAX_SOCKET_BUFFER ∧
        ¬after.buffer.Cramped (wrap32 (msgSize - 4)).toNat := by
  constructor
  · rintro ⟨next, message, read, inOrder⟩
    have natural : ¬wrap32 (msgSize - 4) < 0 := by
      intro negative
      unfold readBody fillBuffer at read
      rw [if_pos negative] at read
      cases read
    obtain ⟨size, sized⟩ := Int.eq_ofNat_of_zero_le (Int.not_lt.mp natural)
    obtain ⟨_, filled, rest, ran, consumed, inside⟩ := fillBuffer_inside after.socket size ordered
    obtain ⟨reached, _⟩ := (readBody_inOrder_iff sized ran).mp ⟨next, message, read, inOrder⟩
    have small : size ≤ 262144 := by
      have most : filled.endPtr ≤ 262144 := inside
      omega
    have exactly : msgSize = size + 4 := by
      unfold IsInt32 at word
      unfold wrap32 at sized
      omega
    obtain ⟨_, _, _, taken, again, ended⟩ := fillBuffer_spec after.socket size ordered small
    cases ran.symm.trans again
    have unconsumed : filled.pending.length = filled.endPtr - filled.currPtr := Ordered.pending_length
    have most : (unread after).length = filled.pending.length + rest.stream.length := by
      rw [unread, ended.stream, ← List.append_assoc, ← ended.pending, List.length_append]
    refine ⟨by omega, by omega, by rw [exactly]; show _ ≤ 4 + ((262144 : Nat) : Int); omega, fun cramped => ?_⟩
    rw [sized, Int.toNat_natCast] at cramped
    obtain ⟨_, _, failed⟩ := fillBuffer_cramped after.socket ordered small cramped
    cases ran.symm.trans failed
    rcases ended.code with ⟨success, _⟩ | ⟨_, short, _⟩
    · exact absurd success (by decide)
    · omega
  · rintro ⟨counted, coming, fits, roomy⟩
    obtain ⟨next, message, read, behind⟩ := readBody_whole ordered word counted coming fits roomy
    exact ⟨next, message, read, behind.consumed, behind.inside⟩

theorem readMessage_body {conn after : Connection} {msgSize : Int}
    (header : readHeader conn = .ok (ERROR_SUCCESS, after, msgSize)) :
    readMessage conn = (readBody after msgSize).map fun read => (ERROR_SUCCESS, read.1, some read.2) := by
  unfold readMessage
  rw [header]
  show (readBody after msgSize >>= _) = _
  cases readBody after msgSize <;> rfl

theorem isInt32_announced (conn : Connection) : IsInt32 (announced conn) := isInt32_toInt32 _

theorem crampedBody_iff {conn after : Connection}
    (ran : readHeader conn = .ok (ERROR_SUCCESS, after, announced conn)) :
    CrampedBody conn ↔ after.buffer.Cramped (wrap32 (announced conn - 4)).toNat := by
  constructor
  · rintro ⟨other, msgSize, again, cramped⟩
    cases ran.symm.trans again
    exact cramped
  · exact fun cramped => ⟨after, _, ran, cramped⟩

theorem readMessage_whole {conn : Connection} (ordered : conn.buffer.Ordered) (whole : SizeComes conn → Whole conn) :
    ∃ code next message, readMessage conn = .ok (code, next, message) ∧ next.buffer.Ordered := by
  rcases readHeader_cases ordered with ⟨_, code, filled, failed, ran, after⟩ | ⟨comes, after, ran, behind, length⟩
  · refine ⟨code, filled, none, ?_, after⟩
    unfold readMessage
    rw [ran]
    exact if_pos failed
  · obtain ⟨counted, coming, fits, roomy⟩ := whole comes
    rw [crampedBody_iff ran] at roomy
    obtain ⟨next, message, read, kept⟩ :=
      readBody_whole behind (isInt32_announced conn) counted (by omega) fits roomy
    exact ⟨_, next, some message, readMessage_eq ran read, kept⟩

theorem readMessage_kept_iff {conn : Connection} (ordered : conn.buffer.Ordered) :
    (∃ code next message, readMessage conn = .ok (code, next, message) ∧ InOrder next.buffer) ↔
      (SizeComes conn → Whole conn) := by
  constructor
  · rintro ⟨code, next, message, turned, inOrder⟩ comes
    rcases readHeader_cases ordered with ⟨dry, _⟩ | ⟨_, after, ran, behind, length⟩
    · exact absurd comes dry
    · rw [readMessage_body ran] at turned
      cases read : readBody after (announced conn) with
      | error reason => rw [read] at turned; cases turned
      | ok pair =>
        rw [read] at turned
        cases turned
        obtain ⟨counted, coming, fits, roomy⟩ :=
          (readBody_kept_iff behind (isInt32_announced conn)).mp ⟨pair.1, pair.2, read, inOrder⟩
        exact ⟨counted, by omega, fits, fun cramped => roomy ((crampedBody_iff ran).mp cramped)⟩
  · intro whole
    obtain ⟨code, next, message, turned, kept⟩ := readMessage_whole ordered whole
    exact ⟨code, next, message, turned, kept.consumed, kept.inside⟩

theorem csLoop_kept_iff {thread : Receiver} (ordered : thread.conn.buffer.Ordered) :
    Kept (csLoop thread ()) ↔ (SizeComes thread.conn → Whole thread.conn) := by
  rw [← readMessage_kept_iff ordered]
  constructor
  · rintro ⟨next, turned, inOrder⟩
    cases read : readMessage thread.conn with
    | error reason => simp only [csLoop, read, reduceCtorEq] at turned
    | ok result =>
      rw [csLoop_eq read] at turned
      cases turned
      exact ⟨_, _, _, rfl, inOrder⟩
  · rintro ⟨code, next, message, read, inOrder⟩
    exact ⟨_, csLoop_eq read, inOrder⟩

theorem npLoop_kept_iff {thread : Receiver} (counter : Nat) (ordered : thread.conn.buffer.Ordered) :
    Kept (npLoop thread counter) ↔ (thread.loopFlag = true → SizeComes thread.conn → Whole thread.conn) := by
  cases flag : thread.loopFlag with
  | false =>
    refine iff_of_true ⟨thread, ?_, ordered.consumed, ordered.inside⟩ fun running => absurd running (by decide)
    unfold npLoop
    exact if_pos flag
  | true =>
    rw [forall_prop_of_true rfl, ← readMessage_kept_iff ordered]
    have running : ¬thread.loopFlag = false := by rw [flag]; decide
    unfold npLoop
    rw [if_neg running]
    cases read : readMessage thread.conn with
    | error reason =>
      refine iff_of_false ?_ ?_
      · rintro ⟨_, turned, _⟩
        cases turned
      · rintro ⟨_, _, _, turned, _⟩
        cases turned
    | ok result =>
      obtain ⟨code, next, message⟩ := result
      dsimp only
      constructor
      · rintro ⟨_, turned, inOrder⟩
        split_ifs at turned <;> cases turned <;> exact ⟨_, _, _, rfl, inOrder⟩
      · rintro ⟨_, _, _, turned, inOrder⟩
        cases turned
        split_ifs
        · exact ⟨_, rfl, inOrder⟩
        · exact ⟨_, rfl, inOrder⟩

theorem csLoop_ordered {thread next : Receiver} (ordered : thread.conn.buffer.Ordered)
    (whole : SizeComes thread.conn → Whole thread.conn) (turned : csLoop thread () = some next) :
    next.conn.buffer.Ordered := by
  obtain ⟨code, after, message, read, kept⟩ := readMessage_whole ordered whole
  rw [csLoop_eq read] at turned
  cases turned
  exact kept

theorem npLoop_ordered {thread next : Receiver} {counter : Nat} (ordered : thread.conn.buffer.Ordered)
    (whole : thread.loopFlag = true → SizeComes thread.conn → Whole thread.conn)
    (turned : npLoop thread counter = some next) : next.conn.buffer.Ordered := by
  unfold npLoop at turned
  split_ifs at turned with closed
  · cases turned
    exact ordered
  · obtain ⟨code, after, message, read, kept⟩ := readMessage_whole ordered (whole (by simpa using closed))
    rw [read] at turned
    dsimp only at turned
    split_ifs at turned <;> cases turned <;> exact kept

/-- Along every run of either loop the pointers stay in order, and the assertion holds, as long as
every message whose size is read comes whole, and no longer. -/
theorem stream_in_order_iff_whole (memory : Memory) (stream : List UInt8) (splits : List Nat) :
    (∀ turns : List Unit,
      Along csLoop (.start memory stream splits) turns (fun thread event => Kept (csLoop thread event)) ↔
        Along csLoop (.start memory stream splits) turns fun thread _ =>
          SizeComes thread.conn → Whole thread.conn) ∧
    (∀ counters : List Nat,
      Along npLoop (.start memory stream splits) counters (fun thread counter => Kept (npLoop thread counter)) ↔
        Along npLoop (.start memory stream splits) counters fun thread _ =>
          thread.loopFlag = true → SizeComes thread.conn → Whole thread.conn) := by
  constructor
  · intro turns
    refine along_iff_of_invariant (fun thread => thread.conn.buffer.Ordered) (ordered_init memory)
      (fun thread _ ordered => csLoop_kept_iff ordered) fun thread _ next ordered kept turned => ?_
    exact csLoop_ordered ordered ((csLoop_kept_iff ordered).mp kept) turned
  · intro counters
    refine along_iff_of_invariant (fun thread => thread.conn.buffer.Ordered) (ordered_init memory)
      (fun thread counter ordered => npLoop_kept_iff counter ordered)
      fun thread counter next ordered kept turned => ?_
    exact npLoop_ordered ordered ((npLoop_kept_iff counter ordered).mp kept) turned

/-- Four zero bytes announce a message that is shorter than its own size field. -/
theorem zero_size_asserts :
    ¬∀ turns : List Unit, Along csLoop (.start (fun _ => 0) [0, 0, 0, 0] []) turns
      fun thread event => Kept (csLoop thread event) := by
  intro always
  obtain ⟨next, turned, _⟩ := always [()] [] () [] _ rfl rfl
  have stopped : csLoop (.start (fun _ => 0) [0, 0, 0, 0] []) () = none := by decide
  rw [stopped] at turned
  cases turned

end RabbitStreamer.Protocol.StreamBuffer
