import RabbitStreamer.Core.Buffer
import RabbitStreamer.Core.Struct
import RabbitStreamer.Lib.Transition

/-! The receive loops of the super peer's two TCP protocols, and which streams of frames
they take apart exactly. -/

namespace RabbitStreamer.Protocol.Framing
open RabbitStreamer.Lib RabbitStreamer.Lib.Bytes RabbitStreamer.Lib.Memory
open RabbitStreamer.Core.Streamer RabbitStreamer.Core.Buffer RabbitStreamer.Core.Buffer.RsBuffer

/-- What a loop hands to a handler: the type byte, a pointer behind it and the size left. -/
structure Message where
  msgType : UInt8
  msg : Memory
  size : Int

def Message.content (message : Message) : UInt8 × List UInt8 :=
  (message.msgType, view message.msg 0 message.size.toNat)

structure Connection where
  buffer : RsBuffer
  socket : RsSocket

def readHeader (conn : Connection) : Except Halt (Nat × Connection × Int) := do
  let (code, filled, rest) ← conn.buffer.fillBuffer conn.socket 4
  if code ≠ ERROR_SUCCESS then pure (code, ⟨filled, rest⟩, 0)
  else
    let (temp, after) := filled.readNbytes 4
    pure (code, ⟨after, rest⟩, toInt32 (ofLe32 (view after.memory temp 4)))

/-- Both loops then read the message, whatever the second `fill_buffer` returns. -/
def readBody (conn : Connection) (msgSize : Int) : Except Halt (Connection × Message) := do
  let (_, filled, rest) ← conn.buffer.fillBuffer conn.socket (wrap32 (msgSize - 4))
  let (temp, after) := filled.readNbytes (wrap32 (msgSize - 4)).toNat
  pure (⟨after, rest⟩, ⟨after.memory temp, fun i => after.memory (temp + 1 + i), wrap32 (msgSize - 5)⟩)

/-- What the two loops share: the error code and the message for the handlers. -/
def readMessage (conn : Connection) : Except Halt (Nat × Connection × Option Message) := do
  let (code, after, msgSize) ← readHeader conn
  if code ≠ ERROR_SUCCESS then pure (code, after, none)
  else
    let (next, message) ← readBody after msgSize
    pure (ERROR_SUCCESS, next, some message)

/-- A protocol thread with the messages it has dispatched so far. -/
structure Receiver where
  conn : Connection
  loopFlag : Bool
  dispatched : List Message

def Receiver.start (memory : Memory) (stream : List UInt8) (splits : List Nat) : Receiver :=
  ⟨⟨.init memory, ⟨stream, splits⟩⟩, true, []⟩

/-- `RsCsSpProtocol::loop`: an error only ends this turn. -/
def csLoop (thread : Receiver) (_ : Unit) : Option Receiver :=
  match readMessage thread.conn with
  | .error _ => none
  | .ok (_, conn, message) => some ⟨conn, thread.loopFlag, thread.dispatched ++ message.toList⟩

theorem csLoop_eq {thread : Receiver} {code : Nat} {next : Connection} {message : Option Message}
    (read : readMessage thread.conn = .ok (code, next, message)) :
    csLoop thread () = some ⟨next, thread.loopFlag, thread.dispatched ++ message.toList⟩ := by
  simp only [csLoop, read]

/-- `RsNpSpProtocol::loop`, given the counter of failed turns as this turn finds it: all
connections share it and no success resets it. A closed connection takes no turn. -/
def npLoop (thread : Receiver) (noReceiveCounter : Nat) : Option Receiver :=
  if thread.loopFlag = false then some thread
  else
    match readMessage thread.conn with
    | .error _ => none
    | .ok (code, conn, message) =>
        if code ≠ ERROR_SUCCESS then
          some ⟨conn, noReceiveCounter + 1 ≠ 150, thread.dispatched⟩
        else some ⟨conn, thread.loopFlag, thread.dispatched ++ message.toList⟩

theorem npLoop_eq {thread : Receiver} {counter : Nat} {next : Connection} {message : Option Message}
    (flag : thread.loopFlag = true)
    (read : readMessage thread.conn = .ok (ERROR_SUCCESS, next, message)) :
    npLoop thread counter = some ⟨next, thread.loopFlag, thread.dispatched ++ message.toList⟩ := by
  simp [npLoop, flag, read]

/-- A frame on the wire: a type byte and a body, in a total size that the buffer can hold. -/
structure Frame where
  msgType : UInt8
  body : List UInt8
  small : 5 + body.length ≤ MAX_SOCKET_BUFFER

def Frame.content (frame : Frame) : UInt8 × List UInt8 := (frame.msgType, frame.body)

def Frame.encode (frame : Frame) : List UInt8 :=
  le32 (UInt32.ofNat (5 + frame.body.length)) ++ frame.msgType :: frame.body

structure Awaits (conn : Connection) (frames : List Frame) : Prop where
  ordered : conn.buffer.Ordered
  bytes : conn.buffer.pending ++ conn.socket.stream = frames.flatMap Frame.encode

/-- When the header is read, the body has to go into a cramped buffer. -/
def CrampedBody (conn : Connection) : Prop :=
  ∃ after msgSize, readHeader conn = .ok (ERROR_SUCCESS, after, msgSize) ∧
    after.buffer.Cramped (wrap32 (msgSize - 4)).toNat

instance (conn : Connection) : Decidable (CrampedBody conn) :=
  match read : readHeader conn with
  | .error _ => isFalse fun ⟨_, _, header, _⟩ => nomatch read.symm.trans header
  | .ok (code, after, msgSize) =>
      decidable_of_iff (code = ERROR_SUCCESS ∧ after.buffer.Cramped (wrap32 (msgSize - 4)).toNat) (by
        simp only [CrampedBody, read, Except.ok.injEq, Prod.mk.injEq, and_assoc, exists_and_left, exists_eq_left'])

theorem Frame.encode_length (frame : Frame) : frame.encode.length = 5 + frame.body.length := by
  simp only [Frame.encode, List.length_append, le32_length, List.length_cons]
  omega

theorem bodySize_eq (frame : Frame) :
    wrap32 (((5 + frame.body.length : Nat) : Int) - 4) = ((1 + frame.body.length : Nat) : Int) := by
  have small : 5 + frame.body.length ≤ 262144 := frame.small
  rw [wrap32_of_isInt32 (by unfold IsInt32; omega)]
  omega

theorem consume_exact (conn : Connection) {front back : List UInt8} (ordered : conn.buffer.Ordered)
    (bytes : conn.buffer.pending ++ conn.socket.stream = front ++ back)
    (enough : front.length ≤ conn.buffer.pending.length) :
    view conn.buffer.memory conn.buffer.currPtr front.length = front ∧
      (conn.buffer.readNbytes front.length).2.Ordered ∧
      (conn.buffer.readNbytes front.length).2.pending ++ conn.socket.stream = back := by
  have ⟨after, split⟩ := ordered.consume enough
  rw [split, List.append_assoc] at bytes
  have ⟨same, rest⟩ := List.append_inj bytes (view_length _ _ _)
  exact ⟨same, after, rest⟩

inductive Turn (conn : Connection) (frames : List Frame) : Nat → Connection → Option Message → Prop where
  /-- Nothing is left to receive. -/
  | idle {next : Connection} (done : frames = []) (dry : conn.socket.stream = []) (awaits : Awaits next []) :
      Turn conn frames ERROR_SOCKET_READ next none
  /-- The buffer was cramped; the reset has cured that. -/
  | stalled {next : Connection} (cramped : conn.buffer.Cramped 4) (more : conn.socket.stream ≠ [])
      (cured : ¬next.buffer.Cramped 4) (awaits : Awaits next frames) :
      Turn conn frames ERROR_SOCKET_READ next none
  | received {next : Connection} {message : Message} (frame : Frame) (rest : List Frame)
      (first : frames = frame :: rest) (same : message.content = frame.content) (awaits : Awaits next rest) :
      Turn conn frames ERROR_SUCCESS next (some message)

inductive HeaderTurn (conn : Connection) (frames : List Frame) : Nat → Connection → Int → Prop where
  | idle {next : Connection} (done : frames = []) (dry : conn.socket.stream = []) (awaits : Awaits next []) :
      HeaderTurn conn frames ERROR_SOCKET_READ next 0
  | stalled {next : Connection} (cramped : conn.buffer.Cramped 4) (more : conn.socket.stream ≠ [])
      (cured : ¬next.buffer.Cramped 4) (awaits : Awaits next frames) :
      HeaderTurn conn frames ERROR_SOCKET_READ next 0
  | received {next : Connection} (frame : Frame) (rest : List Frame) (first : frames = frame :: rest)
      (ordered : next.buffer.Ordered)
      (bytes : next.buffer.pending ++ next.socket.stream =
        (frame.msgType :: frame.body) ++ rest.flatMap Frame.encode) :
      HeaderTurn conn frames ERROR_SUCCESS next (5 + frame.body.length : Nat)

theorem not_cramped_at_start {buffer : RsBuffer} (ordered : buffer.Ordered) (start : buffer.currPtr = 0) :
    ¬buffer.Cramped 4 := by
  have least := ordered.least
  unfold Cramped
  omega

theorem readHeader_eq (conn : Connection) {filled : RsBuffer} {rest : RsSocket}
    (ran : conn.buffer.fillBuffer conn.socket 4 = .ok (ERROR_SUCCESS, filled, rest)) :
    readHeader conn = .ok (ERROR_SUCCESS, ⟨(filled.readNbytes 4).2, rest⟩,
      toInt32 (ofLe32 (view filled.memory filled.currPtr 4))) := by
  unfold readHeader
  rw [ran]
  rfl

theorem readBody_eq (conn : Connection) (msgSize : Int) {code size stop : Nat} {left : Int} {filled : RsBuffer}
    {rest : RsSocket} (sized : wrap32 (msgSize - 4) = size) (behind : wrap32 (msgSize - 5) = left)
    (ran : conn.buffer.fillBuffer conn.socket size = .ok (code, filled, rest))
    (stops : filled.currPtr + size = stop) :
    readBody conn msgSize = .ok (⟨{ filled with currPtr := stop }, rest⟩, ⟨filled.memory filled.currPtr,
      fun i => filled.memory (filled.currPtr + 1 + i), left⟩) := by
  subst stops behind
  unfold readBody
  rw [sized, ran]
  rfl

theorem readMessage_eq {conn after next : Connection} {msgSize : Int} {message : Message}
    (header : readHeader conn = .ok (ERROR_SUCCESS, after, msgSize))
    (body : readBody after msgSize = .ok (next, message)) :
    readMessage conn = .ok (ERROR_SUCCESS, next, some message) := by
  unfold readMessage
  rw [header]
  show (readBody after msgSize >>= _) = _
  rw [body]
  rfl

theorem readHeader_spec {conn : Connection} {frames : List Frame} (awaits : Awaits conn frames) :
    ∃ code next msgSize, readHeader conn = .ok (code, next, msgSize) ∧
      HeaderTurn conn frames code next msgSize := by
  obtain ⟨code, filled, rest, taken, ran, ended⟩ :=
    fillBuffer_spec conn.socket 4 awaits.ordered (by decide)
  have bytes : filled.pending ++ rest.stream = frames.flatMap Frame.encode := by
    rw [ended.pending, List.append_assoc, ← ended.stream, awaits.bytes]
  have lengths := congrArg List.length bytes
  rw [List.length_append] at lengths
  rw [show ((4 : Nat) : Int) = 4 from rfl] at ran
  rcases ended.code with ⟨success, enough⟩ | ⟨failed, short, why⟩
  · subst success
    cases frames with
    | nil =>
      simp only [List.flatMap_nil, List.length_nil] at lengths
      omega
    | cons frame later =>
      have header : (le32 (UInt32.ofNat (5 + frame.body.length))).length = 4 := le32_length _
      have parts : filled.pending ++ rest.stream = le32 (UInt32.ofNat (5 + frame.body.length)) ++
          ((frame.msgType :: frame.body) ++ later.flatMap Frame.encode) := by
        rw [bytes, List.flatMap_cons, Frame.encode, List.append_assoc]
      have ⟨same, ordered, left⟩ :=
        consume_exact ⟨filled, rest⟩ ended.ordered parts (by rw [header]; exact enough)
      rw [header] at same ordered left
      have small : 5 + frame.body.length ≤ 262144 := frame.small
      have size : toInt32 (ofLe32 (view filled.memory filled.currPtr 4)) = (5 + frame.body.length : Nat) := by
        rw [same, ofLe32_le32, toInt32_of_lt]
        · rw [UInt32.toNat_ofNat']
          omega
        · rw [UInt32.toNat_ofNat']
          omega
      exact ⟨_, ⟨(filled.readNbytes 4).2, rest⟩, _, size ▸ readHeader_eq conn ran,
        .received frame later rfl ordered left⟩
  · subst failed
    have after : ∀ {frames}, filled.pending ++ rest.stream = frames.flatMap Frame.encode →
        Awaits ⟨filled, rest⟩ frames := fun together => ⟨ended.ordered, together⟩
    cases frames with
    | nil =>
      have dry : conn.socket.stream = [] := (List.append_eq_nil_iff.mp awaits.bytes).2
      refine ⟨_, ⟨filled, rest⟩, _, ?_, .idle rfl dry (after bytes)⟩
      rw [readHeader, ran]
      rfl
    | cons frame later =>
      rw [List.flatMap_cons, List.length_append, Frame.encode_length] at lengths
      rcases why with dry | ⟨cramped, start⟩
      · rw [dry, List.length_nil] at lengths
        omega
      · have more : conn.socket.stream ≠ [] := by
          intro dry
          rw [ended.stream] at dry
          rw [(List.append_eq_nil_iff.mp dry).2, List.length_nil] at lengths
          omega
        have cured := not_cramped_at_start ended.ordered start
        refine ⟨_, ⟨filled, rest⟩, _, ?_, .stalled cramped more cured (after bytes)⟩
        rw [readHeader, ran]
        rfl

theorem readBody_spec {conn : Connection} {frame : Frame} {rest : List Frame} (ordered : conn.buffer.Ordered)
    (bytes : conn.buffer.pending ++ conn.socket.stream =
      (frame.msgType :: frame.body) ++ rest.flatMap Frame.encode)
    (roomy : ¬conn.buffer.Cramped (1 + frame.body.length)) :
    ∃ next message, readBody conn (5 + frame.body.length : Nat) = .ok (next, message) ∧
      message.content = frame.content ∧ Awaits next rest := by
  have small : 5 + frame.body.length ≤ 262144 := frame.small
  have size : wrap32 (((5 + frame.body.length : Nat) : Int) - 5) = (frame.body.length : Int) := by
    rw [wrap32_of_isInt32 (by unfold IsInt32; omega)]
    omega
  obtain ⟨code, filled, left, taken, ran, ended⟩ :=
    fillBuffer_spec conn.socket (1 + frame.body.length) ordered (by show _ ≤ 262144; omega)
  have received : filled.pending ++ left.stream =
      (frame.msgType :: frame.body) ++ rest.flatMap Frame.encode := by
    rw [ended.pending, List.append_assoc, ← ended.stream, bytes]
  have width : (frame.msgType :: frame.body).length = 1 + frame.body.length := by simp [Nat.add_comm]
  have enough : (frame.msgType :: frame.body).length ≤ filled.pending.length := by
    rw [width]
    rcases ended.code with ⟨_, enough⟩ | ⟨_, short, dry | ⟨cramped, _⟩⟩
    · exact enough
    · have lengths := congrArg List.length received
      rw [dry, List.append_nil, List.length_append, width] at lengths
      omega
    · exact absurd cramped roomy
  have ⟨same, after, later⟩ := consume_exact ⟨filled, left⟩ ended.ordered received enough
  rw [width] at same after later
  have head : view filled.memory filled.currPtr 1 = [frame.msgType] ∧
      view filled.memory (filled.currPtr + 1) frame.body.length = frame.body := by
    rw [view_append] at same
    exact List.append_inj same (view_length _ _ _)
  refine ⟨⟨(filled.readNbytes (1 + frame.body.length)).2, left⟩,
    ⟨filled.memory filled.currPtr, fun i => filled.memory (filled.currPtr + 1 + i), frame.body.length⟩, ?_, ?_,
    ⟨after, later⟩⟩
  · exact readBody_eq conn _ (bodySize_eq frame) size ran rfl
  · have type : filled.memory filled.currPtr = frame.msgType := by simpa [view] using head.1
    have body : view (fun i => filled.memory (filled.currPtr + 1 + i)) 0 frame.body.length = frame.body :=
      calc
        view (fun i => filled.memory (filled.currPtr + 1 + i)) 0 frame.body.length =
            view filled.memory (filled.currPtr + 1) frame.body.length :=
          view_congr fun i _ => by simp only [Nat.zero_add]
        _ = frame.body := head.2
    simp only [Message.content, Frame.content, type, Int.toNat_natCast, body]

theorem readMessage_spec {conn : Connection} {frames : List Frame} (awaits : Awaits conn frames)
    (roomy : ¬CrampedBody conn) :
    ∃ code next message, readMessage conn = .ok (code, next, message) ∧ Turn conn frames code next message := by
  obtain ⟨code, next, msgSize, ran, turn⟩ := readHeader_spec awaits
  cases turn with
  | idle done dry after => exact ⟨_, next, none, by rw [readMessage, ran]; rfl, .idle done dry after⟩
  | stalled cramped more cured after =>
    exact ⟨_, next, none, by rw [readMessage, ran]; rfl, .stalled cramped more cured after⟩
  | received frame rest first ordered bytes =>
    have fits : ¬next.buffer.Cramped (1 + frame.body.length) := by
      intro cramped
      exact roomy ⟨next, _, ran, by rw [bodySize_eq frame, Int.toNat_natCast]; exact cramped⟩
    obtain ⟨final, message, read, same, after⟩ := readBody_spec ordered bytes fits
    exact ⟨_, final, some message, readMessage_eq ran read, .received frame rest first same after⟩

/-- A thread that has dispatched the frames in `done` and still awaits the `remaining` ones. At
most every other turn stalls, and never one right after a stall. -/
structure Progress (done remaining : List Frame) (turns : Nat) (thread : Receiver) : Prop where
  contents : thread.dispatched.map Message.content = done.map Frame.content
  awaits : Awaits thread.conn remaining
  running : remaining ≠ [] → thread.loopFlag = true
  pace : remaining ≠ [] → turns ≤ 2 * done.length + if thread.conn.buffer.Cramped 4 then 0 else 1

theorem Progress.turn {done remaining : List Frame} {turns code : Nat} {thread : Receiver} {next : Connection}
    {message : Option Message} (progress : Progress done remaining turns thread)
    (turn : Turn thread.conn remaining code next message) (flag : Bool)
    (running : remaining ≠ [] → flag = true) :
    ∃ done' remaining', done' ++ remaining' = done ++ remaining ∧
      Progress done' remaining' (turns + 1) ⟨next, flag, thread.dispatched ++ message.toList⟩ := by
  have ⟨contents, awaits, _, pace⟩ := progress
  cases turn with
  | idle empty dry after =>
    subst empty
    refine ⟨done, [], rfl, by simpa using contents, after, running, fun more => absurd rfl more⟩
  | stalled cramped more cured after =>
    refine ⟨done, remaining, rfl, by simpa using contents, after, running, fun left => ?_⟩
    have before := pace left
    rw [if_pos cramped] at before
    simp only [if_neg cured]
    omega
  | received frame rest first same after =>
    subst first
    refine ⟨done ++ [frame], rest, by simp, ?_, after, fun _ => running (by simp), fun left => ?_⟩
    · simp only [Option.toList_some, List.map_append, contents, List.map_cons, same, List.map_nil]
    · have before := pace (by simp)
      simp only [List.length_append, List.length_singleton]
      split_ifs at before ⊢ <;> omega

/-- What a thread dispatched in some turns: a part of the frames from the first on, and all of
them once there were two turns for each. -/
structure Delivers (frames : List Frame) (turns : Nat) (thread : Receiver) : Prop where
  inOrder : thread.dispatched.map Message.content <+: frames.map Frame.content
  all : 2 * frames.length ≤ turns → thread.dispatched.map Message.content = frames.map Frame.content

theorem Progress.delivers {done remaining frames : List Frame} {turns : Nat} {thread : Receiver}
    (progress : Progress done remaining turns thread) (whole : done ++ remaining = frames) :
    Delivers frames turns thread := by
  subst whole
  refine ⟨?_, fun long => ?_⟩
  · rw [progress.contents, List.map_append]
    exact List.prefix_append _ _
  · have finished : remaining = [] := by
      by_contra left
      have pace := progress.pace left
      have more := List.length_pos_of_ne_nil left
      rw [List.length_append] at long
      split_ifs at pace <;> omega
    rw [progress.contents, finished, List.append_nil]

theorem progress_start (memory : Memory) (frames : List Frame) (splits : List Nat) :
    Progress [] frames 0 (.start memory (frames.flatMap Frame.encode) splits) where
  contents := rfl
  awaits := ⟨ordered_init memory, rfl⟩
  running _ := rfl
  pace _ := Nat.zero_le _

theorem delivers_of_turns {E : Type} {loop : Receiver → E → Option Receiver} (memory : Memory)
    (frames : List Frame) (splits : List Nat) (events : List E)
    (turn : ∀ past event rest thread remaining, events = past ++ event :: rest →
      Transition.run loop (.start memory (frames.flatMap Frame.encode) splits) past = some thread →
      Awaits thread.conn remaining → (remaining ≠ [] → thread.loopFlag = true) →
      ∃ next, loop thread event = some next ∧ (next = thread ∧ remaining = [] ∨
        ∃ code message, Turn thread.conn remaining code next.conn message ∧
          (remaining ≠ [] → next.loopFlag = true) ∧
          next.dispatched = thread.dispatched ++ message.toList)) :
    ∃ thread, Transition.run loop (.start memory (frames.flatMap Frame.encode) splits) events = some thread ∧
      Delivers frames events.length thread := by
  obtain ⟨thread, ran, done, remaining, whole, progress⟩ := Transition.run_progress
    (fun past thread => ∃ done remaining, done ++ remaining = frames ∧
      Progress done remaining past.length thread) events
    ⟨[], frames, rfl, progress_start memory frames splits⟩ (by
      rintro past event rest thread split ran ⟨done, remaining, whole, progress⟩
      obtain ⟨next, taken, outcome⟩ :=
        turn past event rest thread remaining split ran progress.awaits progress.running
      refine ⟨next, taken, ?_⟩
      rw [List.length_append, List.length_singleton]
      rcases outcome with ⟨rfl, rfl⟩ | ⟨code, message, turned, running, logged⟩
      · exact ⟨done, [], whole, progress.contents, progress.awaits, progress.running,
          fun more => absurd rfl more⟩
      · obtain ⟨done', remaining', same, after⟩ := progress.turn turned next.loopFlag running
        rw [← logged] at after
        exact ⟨done', remaining', same.trans whole, after⟩)
  exact ⟨thread, ran, progress.delivers whole⟩

/-- Both loops dispatch exactly the frames sent, as long as no body meets a cramped buffer. The
other protocol also must not stall for the 150th time, because then it closes the socket. -/
theorem framing_exact (memory : Memory) (frames : List Frame) (splits : List Nat) :
    (∀ turns : List Unit,
      (∀ past rest thread, turns = past ++ () :: rest →
        Transition.run csLoop (.start memory (frames.flatMap Frame.encode) splits) past = some thread →
        ¬CrampedBody thread.conn) →
      ∃ thread,
        Transition.run csLoop (.start memory (frames.flatMap Frame.encode) splits) turns = some thread ∧
        Delivers frames turns.length thread) ∧
    (∀ counters : List Nat,
      (∀ past counter rest thread, counters = past ++ counter :: rest →
        Transition.run npLoop (.start memory (frames.flatMap Frame.encode) splits) past = some thread →
        ¬CrampedBody thread.conn ∧
          (thread.conn.buffer.Cramped 4 → thread.conn.socket.stream ≠ [] → counter + 1 ≠ 150)) →
      ∃ thread,
        Transition.run npLoop (.start memory (frames.flatMap Frame.encode) splits) counters = some thread ∧
        Delivers frames counters.length thread) := by
  constructor
  · intro turns roomy
    refine delivers_of_turns memory frames splits turns ?_
    intro past event rest thread remaining split ran awaits running
    obtain ⟨code, next, message, read, turned⟩ := readMessage_spec awaits (roomy past rest thread split ran)
    exact ⟨_, csLoop_eq read, Or.inr ⟨code, message, turned, running, rfl⟩⟩
  · intro counters good
    refine delivers_of_turns memory frames splits counters ?_
    intro past counter rest thread remaining split ran awaits running
    have ⟨roomy, patient⟩ := good past counter rest thread split ran
    cases flag : thread.loopFlag with
    | false =>
      refine ⟨thread, by simp only [npLoop, flag, if_true], Or.inl ⟨rfl, ?_⟩⟩
      by_contra left
      exact absurd (running left) (by rw [flag]; decide)
    | true =>
      obtain ⟨code, next, message, read, turned⟩ := readMessage_spec awaits roomy
      have failed : code = ERROR_SOCKET_READ → message = none →
          npLoop thread counter = some ⟨next, counter + 1 ≠ 150, thread.dispatched ++ message.toList⟩ := by
        rintro rfl rfl
        simp [npLoop, flag, read]
      cases turned with
      | idle empty dry after =>
        exact ⟨_, failed rfl rfl, Or.inr ⟨_, _, .idle empty dry after, fun left => absurd empty left, rfl⟩⟩
      | stalled cramped more cured after =>
        refine ⟨_, failed rfl rfl, Or.inr ⟨_, _, .stalled cramped more cured after, fun _ => ?_, rfl⟩⟩
        exact decide_eq_true (patient cramped more)
      | received frame later first same after =>
        exact ⟨_, npLoop_eq flag read, Or.inr ⟨_, _, .received frame later first same after, fun _ => flag, rfl⟩⟩

def twoFrames : List Frame := [⟨0x10, [7], by decide⟩, ⟨0x11, [8, 9], by decide⟩]

theorem framing_two_frames :
    (∃ thread, Transition.run csLoop (.start (fun _ => 0) (twoFrames.flatMap Frame.encode) [8, 1])
        [(), (), (), ()] = some thread ∧ Delivers twoFrames 4 thread) ∧
    (∃ thread, Transition.run npLoop (.start (fun _ => 0) (twoFrames.flatMap Frame.encode) [8, 1])
        [0, 0, 0, 1] = some thread ∧ Delivers twoFrames 4 thread) := by
  have ⟨cs, np⟩ := framing_exact (fun _ => 0) twoFrames [8, 1]
  have roomy : Transition.check csLoop (fun thread _ => decide (¬CrampedBody thread.conn))
      (.start (fun _ => 0) (twoFrames.flatMap Frame.encode) [8, 1]) [(), (), (), ()] = true := by decide +kernel
  have patient : Transition.check npLoop (fun thread counter => decide (¬CrampedBody thread.conn ∧
      (thread.conn.buffer.Cramped 4 → thread.conn.socket.stream ≠ [] → counter + 1 ≠ 150)))
      (.start (fun _ => 0) (twoFrames.flatMap Frame.encode) [8, 1]) [0, 0, 0, 1] = true := by decide +kernel
  exact ⟨cs _ fun past rest => Transition.along_of_check (fun _ _ => of_decide_eq_true) roomy past () rest,
    np _ (Transition.along_of_check (fun _ _ => of_decide_eq_true) patient)⟩

theorem fillBuffer_brimful (memory : Memory) (stream : List UInt8)
    (long : DEFAULT_RECV_BUFFER_SIZE < stream.length) :
    (RsBuffer.init memory).fillBuffer ⟨stream, [DEFAULT_RECV_BUFFER_SIZE]⟩ 4 = .ok (ERROR_SUCCESS,
      ⟨write memory 0 (stream.take DEFAULT_RECV_BUFFER_SIZE), DEFAULT_RECV_BUFFER_SIZE, 0,
        DEFAULT_RECV_BUFFER_SIZE⟩, ⟨stream.drop DEFAULT_RECV_BUFFER_SIZE, []⟩) := by
  obtain ⟨count, length⟩ : ∃ count, stream.length = count + 1 := ⟨stream.length - 1, by omega⟩
  have width : (stream.take DEFAULT_RECV_BUFFER_SIZE).length = DEFAULT_RECV_BUFFER_SIZE :=
    List.length_take_of_le (Nat.le_of_lt long)
  have nonempty : stream.take DEFAULT_RECV_BUFFER_SIZE ≠ [] := by
    intro empty
    rw [empty] at width
    simp at width
  have read : RsSocket.read ⟨stream, [DEFAULT_RECV_BUFFER_SIZE]⟩ DEFAULT_RECV_BUFFER_SIZE =
      (stream.take DEFAULT_RECV_BUFFER_SIZE, ⟨stream.drop DEFAULT_RECV_BUFFER_SIZE, []⟩) := by
    have amount : min (max 1 DEFAULT_RECV_BUFFER_SIZE) (min DEFAULT_RECV_BUFFER_SIZE stream.length) =
        DEFAULT_RECV_BUFFER_SIZE := by
      rw [Nat.min_eq_left (Nat.le_of_lt long)]
      rfl
    simp only [RsSocket.read, List.headD_cons, amount, List.tail_cons]
  show fillLoop (stream.length + 1) ⟨memory, DEFAULT_RECV_BUFFER_SIZE, 0, 0⟩ _ 4 DEFAULT_RECV_BUFFER_SIZE = _
  unfold fillLoop
  rw [if_neg (by simp), read, length]
  simp only [if_neg nonempty, width]
  rfl

theorem fillBuffer_brimful_consumed (memory : Memory) (stream : List UInt8) :
    (RsBuffer.mk memory DEFAULT_RECV_BUFFER_SIZE DEFAULT_RECV_BUFFER_SIZE DEFAULT_RECV_BUFFER_SIZE).fillBuffer
      ⟨stream, []⟩ 2 = .ok (ERROR_SOCKET_READ, ⟨memory, DEFAULT_RECV_BUFFER_SIZE, 0, 0⟩, ⟨stream, []⟩) := by
  have idle : fillLoop (stream.length + 1) ⟨memory, DEFAULT_RECV_BUFFER_SIZE, 0, 0⟩ ⟨stream, []⟩ 2 0 =
      .ok (ERROR_SOCKET_READ, ⟨memory, DEFAULT_RECV_BUFFER_SIZE, 0, 0⟩, ⟨stream, []⟩) := by
    unfold fillLoop
    simp [RsSocket.read]
  have two : ¬DEFAULT_RECV_BUFFER_SIZE < 2 := by decide
  unfold fillBuffer
  rw [if_neg (by decide)]
  simp only [Int.reduceToNat]
  rw [if_neg (by omega)]
  simp only [if_true, if_neg two, Nat.sub_self]
  exact idle

theorem second_frame_garbled (memory : Memory) (long short : Frame) (longSize : long.body.length = 131063)
    (shortSize : short.body.length = 1) :
    ∃ thread, Transition.run csLoop
        (.start memory ([long, short].flatMap Frame.encode) [DEFAULT_RECV_BUFFER_SIZE]) [(), ()] = some thread ∧
      (thread.dispatched.map Message.content)[1]? = some (0xFC, [0xFF]) := by
  generalize streamIs : [long, short].flatMap Frame.encode = stream
  have parts : stream = (le32 131068 ++ ((long.msgType :: long.body) ++ le32 6)) ++
      (short.msgType :: short.body) := by
    rw [← streamIs]
    simp only [List.flatMap_cons, List.flatMap_nil, Frame.encode, longSize, shortSize, List.append_nil,
      List.append_assoc]
    rfl
  have front : (le32 131068 ++ ((long.msgType :: long.body) ++ le32 6)).length = DEFAULT_RECV_BUFFER_SIZE := by
    simp only [List.length_append, le32_length, List.length_cons, longSize]
  have brim : DEFAULT_RECV_BUFFER_SIZE < stream.length := by
    rw [parts, List.length_append, front, List.length_cons]
    omega
  have first : stream.take DEFAULT_RECV_BUFFER_SIZE = le32 131068 ++ ((long.msgType :: long.body) ++ le32 6) := by
    rw [parts, ← front, List.take_left]
  have received := fillBuffer_brimful memory stream brim
  generalize fullIs : write memory 0 (stream.take DEFAULT_RECV_BUFFER_SIZE) = full at received
  generalize stream.drop DEFAULT_RECV_BUFFER_SIZE = left at received
  have lies : view full 0 4 = le32 131068 ∧ view full 131068 4 = le32 6 := by
    have whole := view_write memory 0 (stream.take DEFAULT_RECV_BUFFER_SIZE)
    rw [fullIs, first, front, show DEFAULT_RECV_BUFFER_SIZE = 4 + (131064 + 4) from rfl, view_append,
      view_append] at whole
    have ⟨header, behind⟩ := List.append_inj whole (by simp)
    have ⟨_, next⟩ := List.append_inj behind (by simp [longSize])
    exact ⟨header, next⟩
  have stale : full 0 = 0xFC ∧ full 1 = 0xFF := by
    have bytes : view full 0 4 = [0xFC, 0xFF, 0x01, 0x00] := lies.1.trans (by decide)
    simp only [view, List.range_succ, List.range_zero] at bytes
    simp only [List.nil_append, List.cons_append, List.map_cons, Nat.zero_add, List.cons.injEq] at bytes
    exact ⟨bytes.1, bytes.2.1⟩
  have header1 := readHeader_eq ⟨.init memory, ⟨stream, [DEFAULT_RECV_BUFFER_SIZE]⟩⟩ received
  rw [lies.1, show toInt32 (ofLe32 (le32 131068)) = 131068 by decide] at header1
  simp only [RsBuffer.readNbytes, Nat.zero_add] at header1
  have present : (RsBuffer.mk full DEFAULT_RECV_BUFFER_SIZE 4 DEFAULT_RECV_BUFFER_SIZE).currPtr + 131064 ≤
      DEFAULT_RECV_BUFFER_SIZE := by show 4 + 131064 ≤ 131072; decide
  have body1 := readBody_eq ⟨⟨full, DEFAULT_RECV_BUFFER_SIZE, 4, DEFAULT_RECV_BUFFER_SIZE⟩, ⟨left, []⟩⟩
    131068 (by decide) (by decide : wrap32 (131068 - 5) = 131063) (fillBuffer_enough ⟨left, []⟩ present)
    (by decide : 4 + 131064 = 131068)
  have exactly : (RsBuffer.mk full DEFAULT_RECV_BUFFER_SIZE 131068 DEFAULT_RECV_BUFFER_SIZE).currPtr + 4 ≤
      DEFAULT_RECV_BUFFER_SIZE := by show 131068 + 4 ≤ 131072; decide
  have header2 := readHeader_eq ⟨⟨full, DEFAULT_RECV_BUFFER_SIZE, 131068, DEFAULT_RECV_BUFFER_SIZE⟩, ⟨left, []⟩⟩
    (fillBuffer_enough ⟨left, []⟩ exactly)
  rw [lies.2, show toInt32 (ofLe32 (le32 6)) = 6 by decide] at header2
  simp only [RsBuffer.readNbytes, Nat.reduceAdd] at header2
  have body2 := readBody_eq
    ⟨⟨full, DEFAULT_RECV_BUFFER_SIZE, DEFAULT_RECV_BUFFER_SIZE, DEFAULT_RECV_BUFFER_SIZE⟩, ⟨left, []⟩⟩
    6 (by decide) (by decide : wrap32 (6 - 5) = 1) (fillBuffer_brimful_consumed full left) (Nat.zero_add 2)
  refine ⟨⟨⟨⟨full, DEFAULT_RECV_BUFFER_SIZE, 2, 0⟩, ⟨left, []⟩⟩, true,
    [⟨full 4, fun i => full (5 + i), 131063⟩, ⟨full 0, fun i => full (1 + i), 1⟩]⟩, ?_, ?_⟩
  · refine Transition.run_cons_eq_some.mpr ⟨_, csLoop_eq (readMessage_eq header1 body1), ?_⟩
    exact Transition.run_cons_eq_some.mpr ⟨_, csLoop_eq (readMessage_eq header2 body2), rfl⟩
  · simp [Message.content, view, stale]

/-- A frame of 131068 bytes and one of 6, with the first 131072 bytes in one read: the second frame
is dispatched with the first two bytes of the buffer as its type and body. -/
theorem framing_broken :
    ∃ thread, Transition.run csLoop (.start (fun _ => 0) ([⟨0, List.replicate 131063 0, by
        rw [List.length_replicate]; decide⟩, ⟨0x10, [7], by decide⟩].flatMap Frame.encode) [131072]) [(), ()] =
        some thread ∧
      ¬thread.dispatched.map Message.content <+:
        [(0, List.replicate 131063 0), (0x10, [7])] := by
  obtain ⟨thread, ran, second⟩ := second_frame_garbled (fun _ => 0)
    ⟨0, List.replicate 131063 0, by rw [List.length_replicate]; decide⟩ ⟨0x10, [7], by decide⟩
    List.length_replicate rfl
  refine ⟨thread, ran, fun inOrder => ?_⟩
  obtain ⟨more, whole⟩ := inOrder
  have same := congrArg (fun list => list[1]?) whole
  have ⟨inside, _⟩ := List.getElem?_eq_some_iff.mp second
  simp only [List.getElem?_append_left inside, second, List.getElem?_cons_succ, List.getElem?_cons_zero,
    Option.some.injEq, Prod.mk.injEq] at same
  exact absurd same.1 (by decide)

end RabbitStreamer.Protocol.Framing
