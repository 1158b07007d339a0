import RabbitStreamer.Sp.Streams

/-! Capture servers that keep to the protocol: none of their messages brings the super peer to a fault,
and none is lost, whatever the normal peers do in between. -/

namespace RabbitStreamer.Sp.CaptureStreams
open RabbitStreamer.Lib RabbitStreamer.Lib.Bytes RabbitStreamer.Lib.Memory
open RabbitStreamer.Lib.Transition RabbitStreamer.Lib.Interleaving
open RabbitStreamer.Core.Struct RabbitStreamer.Core.Message.P2PMESSAGE
open RabbitStreamer.Protocol.BufferQueue RabbitStreamer.Protocol.Framing RabbitStreamer.Sp.SourceManager
open RabbitStreamer.Sp.CsConnector RabbitStreamer.Sp.BlockRelay RabbitStreamer.Sp.ChannelDigest
open RabbitStreamer.Sp.Streams

/-- Where the size of the header stands in a register: behind the name, the user id, the password and
four fields more. -/
def headerPlace (body : List UInt8) : Nat := 1 + (body.headD 0).toInt8.toInt.toNat + 4 + MD5_LEN + 4 + 4 + 4 + 1

def intIn (body : List UInt8) (place : Nat) : Int := toInt32 (ofLe32 ((body.drop place).take 4))

/-- A message as the protocol has it: no size is negative, the header and the fields are inside, and a
block fits a slot. -/
structure Good (content : Content) : Prop where
  complete : Complete content
  register : content.1 = CS2SP_REGISTER → 0 ≤ (content.2.headD 0).toInt8.toInt ∧
    0 ≤ intIn content.2 (headerPlace content.2) ∧
    headerPlace content.2 + 4 + (intIn content.2 (headerPlace content.2)).toNat ≤ content.2.length
  mediatype : content.1 = CS2SP_MEDIA_TYPE → 0 ≤ intIn content.2 0 ∧
    4 + (intIn content.2 0).toNat ≤ content.2.length
  block : content.1 = CS2SP_BLOCK → 0 ≤ intIn content.2 4 ∧ intIn content.2 4 ≤ MEDIA_BLOCK_SIZE ∧
    12 ≤ content.2.length

/-- Messages as the protocol has them, with a register before any block. -/
structure Sendable (contents : List Content) : Prop where
  good : ∀ content ∈ contents, Good content
  opened : ∀ before content behind, contents = before ++ content :: behind → content.1 = CS2SP_BLOCK →
    ∃ other ∈ before, other.1 = CS2SP_REGISTER

theorem intIn_content {message : Message} {place : Nat} (inside : place + 4 ≤ message.content.2.length) :
    intAt message.msg place = intIn message.content.2 place := by
  rw [intAt, inside_content inside, intIn]

section Message

variable {recorded : Recorded} {message : Message} {conn : Nat}

theorem register_taken (good : Good message.content) (register : message.msgType = CS2SP_REGISTER) (around : Around) :
    ∃ next, CsConnector.step channelHash recorded ⟨conn, message, around⟩ = some next := by
  obtain ⟨name, header, inside⟩ := good.register register
  obtain ⟨nonempty, _⟩ := good.complete.1 register
  rw [head_of_content nonempty] at name
  have size : intAt message.msg (1 + (message.msg 0).toInt8.toInt.toNat + 4 + MD5_LEN + 4 + 4 + 4 + 1) =
      intIn message.content.2 (headerPlace message.content.2) := by
    rw [← intIn_content (by omega), headerPlace, head_of_content nonempty]
  simp only [CsConnector.step, if_pos register, getRegister, if_neg (Int.not_lt.mpr name)]
  split_ifs with without negative
  · exact ⟨_, rfl⟩
  · rw [size] at negative
    exact absurd header (Int.not_le.mpr negative)
  · exact ⟨_, rfl⟩

theorem mediatype_taken (good : Good message.content) (mediatype : message.msgType = CS2SP_MEDIA_TYPE)
    (around : Around) : ∃ next, CsConnector.step channelHash recorded ⟨conn, message, around⟩ = some next := by
  obtain ⟨natural, inside⟩ := good.mediatype mediatype
  rw [← @intIn_content message 0 (by omega)] at natural
  simp only [CsConnector.step, mediatype, if_neg (by decide : CS2SP_MEDIA_TYPE ≠ CS2SP_REGISTER),
    if_neg (by decide : CS2SP_MEDIA_TYPE ≠ CS2SP_BLOCK), if_true, getMediatype, if_neg (Int.not_lt.mpr natural)]
  split <;> exact ⟨_, rfl⟩

theorem good_taken {feed : Feed} (consistent : Consistent recorded.peer.sources recorded.fills)
    (carries : Carries recorded feed) (few : Few recorded.fills) (good : Good message.content)
    (opened : message.msgType = CS2SP_BLOCK → feed.channelOn conn ∈ feed.channels) (around : Around) :
    ∃ next, CsConnector.step channelHash recorded ⟨conn, message, around⟩ = some next := by
  by_cases register : message.msgType = CS2SP_REGISTER
  · exact register_taken good register around
  · by_cases block : message.msgType = CS2SP_BLOCK
    · obtain ⟨natural, fits, inside⟩ := good.block block
      rw [← @intIn_content message 4 (by omega)] at natural fits
      have listed := opened block
      rw [← carries.channelOn, ← carries.channels] at listed
      obtain ⟨entry, found⟩ := listed
      obtain ⟨next, _, taken, _⟩ := block_taken channelHash consistent ⟨conn, message, around⟩ block
        (getBufferQueue_eq_some.mpr ⟨entry.1, found⟩) (few _) ⟨natural, fits⟩
      exact ⟨next, taken⟩
    · by_cases mediatype : message.msgType = CS2SP_MEDIA_TYPE
      · exact mediatype_taken good mediatype around
      · exact ⟨recorded, by simp only [CsConnector.step, if_neg register, if_neg block, if_neg mediatype]⟩

end Message

theorem channel_opened (unset : Nat → MD5HashStr) (arrived : List (Nat × Content)) {conn : Nat}
    (opened : ∃ content ∈ own arrived conn, content.1 = CS2SP_REGISTER) :
    (feedOf unset arrived).channelOn conn ∈ (feedOf unset arrived).channels := by
  induction arrived using List.reverseRecOn with
  | nil =>
    obtain ⟨content, member, _⟩ := opened
    cases member
  | append_singleton arrived arrival ih =>
    obtain ⟨other, content⟩ := arrival
    rw [feedOf_snoc, Feed.receive]
    obtain ⟨old, member, register⟩ := opened
    split_ifs with registers block
    · show Function.update (feedOf unset arrived).channelOn other (channelIn content.2) conn ∈
        channelIn content.2 :: _
      by_cases self : conn = other
      · subst self
        rw [Function.update_self]
        exact List.mem_cons_self ..
      · rw [own_snoc_other _ (Ne.symm self)] at member
        rw [Function.update_of_ne self]
        exact List.mem_cons_of_mem _ (ih ⟨old, member, register⟩)
    all_goals
      refine ih ⟨old, ?_, register⟩
      by_cases self : conn = other
      · subst self
        rw [own_snoc_self, List.mem_append, List.mem_singleton] at member
        exact member.resolve_right fun same => registers (same ▸ register)
      · rwa [own_snoc_other _ (Ne.symm self)] at member

section Run

variable {unset : Nat → MD5HashStr} {capture normal : Nat → Arriving} {events : List Event} {world : World}

def isBlock (arrival : Nat × Content) : Bool := arrival.2.1 = CS2SP_BLOCK

def isTurn (conn : Nat) : Event → Bool
  | .capture other _ => other = conn
  | _ => false

structure Paced (arriving : Arriving) (taken : List Content) (conn : Connection) (turns : Nat) : Prop where
  progress : ∃ done rest dispatched, done ++ rest = arriving.frames ∧ taken = done.map Frame.content ∧
    Progress done rest turns ⟨conn, true, dispatched⟩

/-- What is left of a connection and what the turns and messages so far have come to. -/
structure Tended (capture : Nat → Arriving) (past : List Event) (world : World) : Prop where
  paced : ∀ conn, Paced (capture conn) (own world.arrived conn) (world.capture conn) (past.countP (isTurn conn))
  few : world.arrived.length ≤ past.length

theorem Paced.turn {arriving : Arriving} {taken : List Content} {conn next : Connection} {turns code : Nat}
    {message : Option Message} (paced : Paced arriving taken conn turns) (roomy : ¬CrampedBody conn)
    (read : readMessage conn = .ok (code, next, message)) :
    Paced arriving (taken ++ (message.map Message.content).toList) next (turns + 1) := by
  obtain ⟨done, rest, dispatched, whole, same, progress⟩ := paced.progress
  obtain ⟨_, _, _, again, turned⟩ := readMessage_spec progress.awaits roomy
  cases read.symm.trans again
  obtain ⟨done', rest', split, after⟩ := progress.turn turned true fun _ => rfl
  refine ⟨done', rest', _, split.trans whole, ?_, after⟩
  rw [← after.contents, List.map_append, progress.contents, same]
  cases message <;> rfl

theorem tended_start (unset : Nat → MD5HashStr) (capture normal : Nat → Arriving) :
    Tended capture [] (.start unset capture normal) where
  paced conn := ⟨[], (capture conn).frames, [], rfl, rfl,
    progress_start (capture conn).memory (capture conn).frames (capture conn).splits⟩
  few := Nat.le_refl _

theorem captureTurn_eq_some {after : World} {conn : Nat} {around : Around}
    (taken : captureTurn world conn around = some after) :
    ∃ code next message, readMessage (world.capture conn) = .ok (code, next, message) ∧
      after.capture = Function.update world.capture conn next ∧
      after.arrived = world.arrived ++ (message.map fun message => (conn, message.content)).toList := by
  unfold captureTurn at taken
  split at taken
  next => cases taken
  next code next read =>
    cases taken
    exact ⟨code, next, none, read, rfl, (List.append_nil _).symm⟩
  next code next message read =>
    obtain ⟨recorded, _, rfl⟩ := Option.map_eq_some_iff.mp taken
    exact ⟨code, next, some message, read, rfl, rfl⟩

theorem normal_keeps {after : World} {event : Event} (taken : Streams.step world event = some after)
    (other : ∀ conn around, event ≠ .capture conn around) :
    after.capture = world.capture ∧ after.arrived = world.arrived := by
  cases event with
  | capture conn around => exact absurd rfl (other conn around)
  | normal conn heap around =>
    simp only [Streams.step, normalTurn, Option.ite_none_left_eq_some] at taken
    obtain ⟨_, taken⟩ := taken
    split at taken
    next => cases taken
    next =>
      cases taken
      exact ⟨rfl, rfl⟩
    next =>
      obtain ⟨_, _, rfl⟩ := Option.map_eq_some_iff.mp taken
      exact ⟨rfl, rfl⟩
  | resume conn heap =>
    simp only [Streams.step] at taken
    split at taken
    next => cases taken
    next =>
      obtain ⟨_, _, rfl⟩ := Option.map_eq_some_iff.mp taken
      exact ⟨rfl, rfl⟩

theorem tended_step {past : List Event} {event : Event} {after : World} (tended : Tended capture past world)
    (roomy : Roomy world event) (taken : Streams.step world event = some after) :
    Tended capture (past ++ [event]) after := by
  have count : ∀ conn, (past ++ [event]).countP (isTurn conn) =
      past.countP (isTurn conn) + [event].countP (isTurn conn) :=
    fun conn => List.countP_append
  have length : (past ++ [event]).length = past.length + 1 := List.length_append
  cases event with
  | capture turned around =>
    obtain ⟨code, next, message, read, capture, arrived⟩ := captureTurn_eq_some taken
    refine ⟨fun conn => ?_, ?_⟩
    · rw [count, capture, arrived]
      by_cases self : conn = turned
      · subst self
        have paced := (tended.paced conn).turn roomy read
        have one : [Event.capture conn around].countP (isTurn conn) = 1 := by simp [isTurn]
        rw [one, Function.update_self]
        cases message with
        | none => simpa using paced
        | some message =>
          rw [Option.map_some, Option.toList_some, own_snoc_self]
          exact paced
      · have other : [Event.capture turned around].countP (isTurn conn) = 0 := by simp [isTurn, Ne.symm self]
        rw [other, Function.update_of_ne self]
        cases message with
        | none => simpa using tended.paced conn
        | some message =>
          rw [Option.map_some, Option.toList_some, own_snoc_other _ (Ne.symm self)]
          exact tended.paced conn
    · have few := tended.few
      rw [arrived, length, List.length_append]
      cases message <;> simp <;> omega
  | normal turned heap around =>
    obtain ⟨capture, arrived⟩ := normal_keeps taken (by simp)
    refine ⟨fun conn => ?_, ?_⟩
    · rw [count, capture, arrived]
      exact tended.paced conn
    · rw [arrived, length]
      exact Nat.le_succ_of_le tended.few
  | resume turned heap =>
    obtain ⟨capture, arrived⟩ := normal_keeps taken (by simp)
    refine ⟨fun conn => ?_, ?_⟩
    · rw [count, capture, arrived]
      exact tended.paced conn
    · rw [arrived, length]
      exact Nat.le_succ_of_le tended.few

theorem run_tended {capture normal : Nat → Arriving}
    (roomy : Along Streams.step (.start unset capture normal) events Roomy)
    (ran : run Streams.step (.start unset capture normal) events = some world) : Tended capture events world := by
  refine run_history (fun past world => Along Streams.step (.start unset capture normal) past Roomy →
    Tended capture past world) (fun _ => tended_start unset capture normal) ?_ ran roomy
  intro past state event next reached tended taken along
  obtain ⟨before, current⟩ := along_snoc.mp along
  exact tended_step (tended before) (current state reached) taken

theorem few_of_tended (relaying : Relaying unset capture normal world) (tended : Tended capture events world)
    (short : events.length < 2147483648) : Few world.recorded.fills := by
  intro hash
  have bound := @few_pieces unset _ (Nat.lt_of_le_of_lt tended.few short) hash.rank
  rwa [← relaying.carries.pieces, piecesOn_map, List.length_map] at bound

theorem next_content {arriving : Arriving} {taken : List Content} {conn next : Connection} {message : Message}
    {code : Nat} (arrives : Arrives arriving taken conn) (roomy : ¬CrampedBody conn)
    (read : readMessage conn = .ok (code, next, some message)) :
    ∃ behind, arriving.frames.map Frame.content = taken ++ message.content :: behind := by
  obtain ⟨⟨rest, _, whole⟩, _⟩ := arrives.next roomy read
  exact ⟨rest.map Frame.content, by rw [← whole, List.append_assoc, List.singleton_append]⟩

theorem channel_there {conn : Nat} {next : Connection} {message : Message} {code : Nat}
    (sendable : Sendable ((capture conn).frames.map Frame.content)) (relaying : Relaying unset capture normal world)
    (roomy : ¬CrampedBody (world.capture conn))
    (read : readMessage (world.capture conn) = .ok (code, next, some message)) :
    Good message.content ∧ (message.msgType = CS2SP_BLOCK →
      (feedOf unset world.arrived).channelOn conn ∈ (feedOf unset world.arrived).channels) := by
  obtain ⟨behind, whole⟩ := next_content (relaying.captures conn) roomy read
  have member : message.content ∈ (capture conn).frames.map Frame.content := by
    rw [whole]
    exact List.mem_append_right _ (List.mem_cons_self ..)
  exact ⟨sendable.good _ member, fun block => channel_opened unset world.arrived (sendable.opened _ _ _ whole block)⟩

theorem capture_never_faults {conn : Nat} (sendable : Sendable ((capture conn).frames.map Frame.content))
    (relaying : Relaying unset capture normal world) (few : Few world.recorded.fills)
    (roomy : ¬CrampedBody (world.capture conn)) (around : Around) :
    ∃ next, Streams.step world (.capture conn around) = some next := by
  obtain ⟨rest, awaits, _⟩ := relaying.captures conn
  obtain ⟨code, after, message, read, _⟩ := readMessage_spec awaits roomy
  simp only [Streams.step, captureTurn, read]
  cases message with
  | none => exact ⟨_, rfl⟩
  | some message =>
    obtain ⟨good, opened⟩ := channel_there sendable relaying roomy read
    obtain ⟨next, taken⟩ := good_taken relaying.consistent relaying.carries few good opened around
    exact ⟨_, congrArg (Option.map _) taken⟩

theorem pieces_step {event : Event} {after : World} (relaying : Relaying unset capture normal world)
    (sendable : ∀ conn, Sendable ((capture conn).frames.map Frame.content)) (roomy : Roomy world event)
    (taken : Streams.step world event = some after)
    (counted : (feedOf unset world.arrived).pieces.length = world.arrived.countP isBlock) :
    (feedOf unset after.arrived).pieces.length = after.arrived.countP isBlock := by
  by_cases turned : ∃ conn around, event = .capture conn around
  · obtain ⟨conn, around, rfl⟩ := turned
    obtain ⟨code, next, message, read, _, arrived⟩ := captureTurn_eq_some taken
    rw [arrived]
    cases message with
    | none => simpa using counted
    | some message =>
      obtain ⟨_, opened⟩ := channel_there (sendable conn) relaying roomy read
      rw [Option.map_some, Option.toList_some, feedOf_snoc, List.countP_append, List.countP_singleton, ← counted,
        Feed.receive]
      have register : CS2SP_REGISTER ≠ CS2SP_BLOCK := by decide
      by_cases block : message.content.1 = CS2SP_BLOCK
      · rw [if_neg (block ▸ register.symm), if_pos ⟨block, opened block⟩, isBlock, if_pos (decide_eq_true block),
          List.length_append, List.length_singleton]
      · rw [isBlock, if_neg (fun same => block (of_decide_eq_true same)), Nat.add_zero]
        split_ifs with registers both
        · rfl
        · exact absurd both.1 block
        · rfl
  · have other : ∀ conn around, event ≠ .capture conn around := fun conn around same => turned ⟨conn, around, same⟩
    rw [(normal_keeps taken other).2]
    exact counted

/-- Where capture servers keep to the protocol, no turn of one of their connections is a fault, all that
a connection sends is taken in twice as many turns, and each block sent on it is one of the feed. -/
theorem capture_streams_taken (unset : Nat → MD5HashStr) (capture normal : Nat → Arriving) (events : List Event)
    (world : World) (sendable : ∀ conn, Sendable ((capture conn).frames.map Frame.content))
    (short : events.length < 2147483648)
    (roomy : Along Streams.step (.start unset capture normal) events Roomy)
    (ran : run Streams.step (.start unset capture normal) events = some world) :
    (∀ conn around, ¬CrampedBody (world.capture conn) →
      ∃ next, Streams.step world (.capture conn around) = some next) ∧
    (∀ conn, 2 * (capture conn).frames.length ≤ events.countP (isTurn conn) →
      own world.arrived conn = (capture conn).frames.map Frame.content) ∧
    world.recorded.fills.map pieceOf = (feedOf unset world.arrived).pieces ∧
    world.recorded.fills.length = world.arrived.countP isBlock := by
  have complete : ∀ conn, ∀ frame ∈ (capture conn).frames, Complete frame.content := fun conn frame member =>
    ((sendable conn).good _ (List.mem_map_of_mem member)).complete
  have relaying := relaying_run complete roomy ran
  have tended := run_tended roomy ran
  have pieces := relaying.carries.pieces
  refine ⟨fun conn around room => ?_, fun conn long => ?_, pieces, ?_⟩
  · exact capture_never_faults (sendable conn) relaying (few_of_tended relaying tended short) room around
  · obtain ⟨done, rest, dispatched, whole, same, progress⟩ := (tended.paced conn).progress
    rw [same, ← (progress.delivers whole).all long, progress.contents]
  · obtain ⟨_, counted⟩ := run_along (fun world => Relaying unset capture normal world ∧
        (feedOf unset world.arrived).pieces.length = world.arrived.countP isBlock) Roomy
      (fun _ _ _ before current taken => ⟨relaying_step before.1 complete current taken,
        pieces_step before.1 sendable current taken before.2⟩)
      ⟨relaying_start unset capture normal, rfl⟩ roomy ran
    rw [← counted, ← pieces, List.length_map]

end Run

theorem sendable_capturing (conn : Nat) : Sendable ((capturing conn).frames.map Frame.content) := by
  by_cases first : conn = 0
  · rw [capturing, if_pos first]
    refine ⟨List.forall_mem_cons.mpr ⟨?_, List.forall_mem_singleton.mpr ?_⟩, ?_⟩
    · exact ⟨by decide, by decide, by decide, by decide⟩
    · exact ⟨by decide, by decide, by decide, by decide⟩
    · intro before content behind split block
      cases before with
      | nil =>
        rw [← (List.cons.inj split).1] at block
        exact absurd block (by decide)
      | cons other more =>
        exact ⟨other, List.mem_cons_self .., (List.cons.inj split).1 ▸ rfl⟩
  · rw [capturing, if_neg first]
    exact ⟨fun _ member => absurd member List.not_mem_nil, fun before content behind split => by simp at split⟩

theorem one_block_taken : ∃ world, run Streams.step blank [takeCapture, takeCapture, takeList] = some world ∧
    world.recorded.fills.length = world.arrived.countP isBlock := by
  have isSome : (run Streams.step blank [takeCapture, takeCapture, takeList]).isSome = true := by decide +kernel
  obtain ⟨world, ran⟩ := Option.isSome_iff_exists.mp isSome
  have roomy := along_of_append (along_of_append roomy_scene)
  exact ⟨world, ran, (capture_streams_taken _ capturing asking _ world sendable_capturing
    (by decide) roomy ran).2.2.2⟩

end RabbitStreamer.Sp.CaptureStreams
