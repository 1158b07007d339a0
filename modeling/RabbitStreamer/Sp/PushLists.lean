import RabbitStreamer.Sp.Streams

/-! The push lists of a normal peer among everything else that a super peer does: which of the blocks
they list go out. -/

namespace RabbitStreamer.Sp.PushLists
open RabbitStreamer.Lib RabbitStreamer.Lib.Bytes RabbitStreamer.Lib.Codec
open RabbitStreamer.Lib.Transition RabbitStreamer.Lib.SlidingWindow
open RabbitStreamer.Core.Struct RabbitStreamer.Core.Streamer
open RabbitStreamer.Core.Message RabbitStreamer.Core.Message.P2PMESSAGE
open RabbitStreamer.Protocol.BufferQueue RabbitStreamer.Protocol.Framing RabbitStreamer.Sp.SourceManager
open RabbitStreamer.Sp.CsConnector RabbitStreamer.Sp.NpConnector RabbitStreamer.Sp.BlockRelay
open RabbitStreamer.Sp.Streams RabbitStreamer.Sp.ChannelDigest
open RabbitStreamer.Sp.ChannelIdentity (requested)

/-- The block had arrived when the ring held `before`, and is in the ring while it holds `after`. -/
def Stays (before after : List Piece) (resourceMd5 : ByteArr MD5_LEN) (id : UInt32) : Prop :=
  (oldest MAX_BUFFER_SIZE (piecesOn after (requested resourceMd5).rank).length : Int) ≤ toInt32 id ∧
    toInt32 id < (piecesOn before (requested resourceMd5).rank).length

instance (before after : List Piece) (resourceMd5 : ByteArr MD5_LEN) (id : UInt32) :
    Decidable (Stays before after resourceMd5 id) := inferInstanceAs (Decidable (_ ∧ _))

/-- In the middle of an answer: of the ids that the loop has passed, those of blocks that have stayed
went out. -/
structure Answering (before pieces : List Piece) (base : List Sent) (pushList : Sp2SpPushList) (sent : List Sent)
    (pushing : Option (ByteArr MD5_LEN × List UInt32)) (answer : Answer) (gone : List UInt32) : Prop where
  list : answer.pushList = pushList
  wire : sent = base ++ answer.sent
  sound : answer.Sound pieces
  left : sortedBlocks pushList = gone ++ (pushing.map Prod.snd).getD []
  resource : ∀ resourceMd5 ids, pushing = some (resourceMd5, ids) → resourceMd5 = pushList.resourceMd5
  order : (answer.blocks.map Prod.fst).Sublist gone
  kept : (gone.filter fun id => Stays before pieces pushList.resourceMd5 id).Sublist (answer.blocks.map Prod.fst)

theorem piecesOn_grows {pieces more : List Piece} (grown : pieces <+: more) (channel : List Nat) :
    piecesOn pieces channel <+: piecesOn more channel := grown.filter _

theorem Stays.sooner {before pieces more : List Piece} {resourceMd5 : ByteArr MD5_LEN} {id : UInt32}
    (stays : Stays before more resourceMd5 id) (grown : pieces <+: more) : Stays before pieces resourceMd5 id := by
  have longer := (piecesOn_grows grown (requested resourceMd5).rank).length_le
  obtain ⟨recent, early⟩ := stays
  refine ⟨Int.le_trans (Int.ofNat_le.mpr ?_) recent, early⟩
  unfold oldest
  omega

section Answer

variable {before : List Piece} {fills more : List Fill} {base sent : List Sent} {pushList : Sp2SpPushList}
  {pushing : Option (ByteArr MD5_LEN × List UInt32)} {answer : Answer} {gone : List UInt32}

theorem Answering.grow (answering : Answering before (fills.map pieceOf) base pushList sent pushing answer gone)
    (grown : fills <+: more) : Answering before (more.map pieceOf) base pushList sent pushing answer gone where
  list := answering.list
  wire := answering.wire
  sound := ⟨answering.sound.ordered, fun block member => (answering.sound.genuine block member).grow (grown.map _)⟩
  left := answering.left
  resource := answering.resource
  order := answering.order
  kept := by
    refine List.Sublist.trans (List.monotone_filter_right _ fun id stays => ?_) answering.kept
    exact decide_eq_true ((of_decide_eq_true stays).sooner (grown.map _))

theorem there_of_stays {resourceMd5 : ByteArr MD5_LEN} {id : UInt32} (grown : before <+: fills.map pieceOf)
    (stays : Stays before (fills.map pieceOf) resourceMd5 id) : There fills resourceMd5 id := by
  have longer := (piecesOn_grows grown (requested resourceMd5).rank).length_le
  obtain ⟨recent, early⟩ := stays
  rw [piecesOn_map, List.length_map] at longer recent
  exact ⟨recent, Int.lt_of_lt_of_le early (Int.ofNat_le.mpr longer)⟩

theorem filter_passed {resourceMd5 : ByteArr MD5_LEN} {passed : List UInt32} (grown : before <+: fills.map pieceOf)
    (missing : ∀ id ∈ passed, ¬There fills resourceMd5 id) :
    (passed.filter fun id => Stays before (fills.map pieceOf) resourceMd5 id) = [] := by
  refine List.filter_eq_nil_iff.mpr fun id member stays => ?_
  exact missing id member (there_of_stays grown (of_decide_eq_true stays))

theorem Answering.pushOn {sources : SourceMap} {heap : Heap} {resourceMd5 : ByteArr MD5_LEN} {ids : List UInt32}
    {proto after : RsNpSpProtocol} {out : Option Sent} (consistent : Consistent sources fills) (few : Few fills)
    (grown : before <+: fills.map pieceOf)
    (answering : Answering before (fills.map pieceOf) base pushList sent (some (resourceMd5, ids)) answer gone)
    (pushed : NpConnector.pushOn proto sources heap resourceMd5 ids = .ok (after, out)) :
    ∃ next passed,
      Answering before (fills.map pieceOf) base pushList (sent ++ out.toList) after.pushing next passed := by
  obtain rfl := answering.resource _ _ rfl
  have left := answering.left
  rcases pushOn_cases consistent few pushed with
    ⟨ended, rfl, missing⟩ | ⟨passed, id, rest, data, rfl, going, rfl, genuine, missing⟩
  · refine ⟨answer, gone ++ ids, answering.list, ?_, answering.sound, ?_, ?_, ?_, ?_⟩
    · rw [Option.toList_none, List.append_nil]
      exact answering.wire
    · rw [ended, left]
      exact (List.append_nil _).symm
    · rw [ended]
      rintro _ _ ⟨⟩
    · exact answering.order.trans (List.sublist_append_left ..)
    · rw [List.filter_append, filter_passed grown missing, List.append_nil]
      exact answering.kept
  · obtain rfl := answering.list
    have split : sortedBlocks answer.pushList = (gone ++ passed) ++ id :: rest := by
      rw [left, List.append_assoc]
      rfl
    have order := answering.order.trans (List.sublist_append_left gone passed)
    refine ⟨{ answer with blocks := answer.blocks ++ [(id, data)] }, gone ++ passed ++ [id], rfl, ?_,
      answering.sound.extend split order genuine, ?_, ?_, ?_, ?_⟩
    · rw [answering.wire, Answer.sent_extend, List.append_assoc]
      rfl
    · rw [split, going, List.append_cons]
      rfl
    · rw [going]
      rintro _ _ ⟨⟩
      rfl
    · rw [List.map_append]
      exact order.append (List.Sublist.refl _)
    · rw [List.filter_append, List.filter_append, filter_passed grown missing, List.append_nil, List.map_append]
      exact answering.kept.append (List.filter_sublist ..)

theorem answering_opened (pieces : List Piece) (base : List Sent) (pushList : Sp2SpPushList)
    (introduction : Option (Sp2SpMediatype × List UInt8)) :
    Answering before pieces base pushList
      (base ++ (introduction.map fun message => Sent.mediatype message.1 message.2).toList)
      (some (pushList.resourceMd5, sortedBlocks pushList)) ⟨pushList, introduction, []⟩ [] where
  list := rfl
  wire := by rw [Answer.sent, List.map_nil, List.append_nil]
  sound := ⟨List.nil_sublist _, by simp⟩
  left := rfl
  resource := by
    rintro _ _ ⟨⟩
    rfl
  order := List.Sublist.refl _
  kept := List.Sublist.refl _

theorem answering_getPushList {sources : SourceMap} {heap : Heap} {unset : Unset} {proto after : RsNpSpProtocol}
    {out : Option Sent} (consistent : Consistent sources fills) (few : Few fills)
    (grown : before <+: fills.map pieceOf)
    (base : List Sent) (called : getPushList proto sources heap unset pushList = .ok (after, out)) :
    ∃ next passed,
      Answering before (fills.map pieceOf) base pushList (base ++ out.toList) after.pushing next passed := by
  have opened := @answering_opened before (fills.map pieceOf) base pushList none
  rw [Option.map_none, Option.toList_none, List.append_nil] at opened
  simp only [getPushList] at called
  split_ifs at called
  · exact opened.pushOn consistent few grown called
  · split at called
    next => cases called
    next => exact opened.pushOn consistent few grown called
    next message payload _ =>
      cases called
      exact ⟨_, _, answering_opened (fills.map pieceOf) base pushList (some (message, payload))⟩

end Answer

section List

variable {unset : Nat → MD5HashStr} {capture normal : Nat → Arriving} {world after : World} {conn : Nat}

def Quiet (conn : Nat) : Event → Prop
  | .normal other _ _ => other ≠ conn
  | _ => True

theorem captureTurn_keeps {around : Around} (taken : captureTurn world conn around = some after) :
    after.normal = world.normal ∧ world.recorded.fills <+: after.recorded.fills := by
  unfold captureTurn at taken
  split at taken
  next => cases taken
  next =>
    cases taken
    exact ⟨rfl, List.prefix_refl _⟩
  next =>
    obtain ⟨recorded, stepped, rfl⟩ := Option.map_eq_some_iff.mp taken
    obtain ⟨more, grows⟩ := step_fills stepped
    exact ⟨rfl, grows ▸ List.prefix_append _ _⟩

theorem normalTurn_keeps {heap : Heap} {around : Unset} (taken : normalTurn world conn heap around = some after) :
    after.recorded = world.recorded ∧ ∀ other ≠ conn, after.normal other = world.normal other := by
  simp only [normalTurn, Option.ite_none_left_eq_some] at taken
  obtain ⟨_, taken⟩ := taken
  split at taken
  next => cases taken
  next =>
    cases taken
    exact ⟨rfl, fun other differs => Function.update_of_ne differs ..⟩
  next =>
    obtain ⟨changed, _, rfl⟩ := Option.map_eq_some_iff.mp taken
    exact ⟨rfl, fun other differs => Function.update_of_ne differs ..⟩

structure Serving (before : List Piece) (base : List Sent) (pushList : Sp2SpPushList) (conn : Nat) (world : World) :
    Prop where
  grown : before <+: world.recorded.fills.map pieceOf
  answering : Few world.recorded.fills → ∃ answer gone, Answering before (world.recorded.fills.map pieceOf) base
    pushList (world.normal conn).sent (world.normal conn).proto.pushing answer gone

variable {before : List Piece} {base : List Sent} {pushList : Sp2SpPushList}

theorem serving_step {event : Event} (relaying : Relaying unset capture normal world)
    (serving : Serving before base pushList conn world) (quiet : Quiet conn event)
    (taken : step world event = some after) : Serving before base pushList conn after := by
  cases event with
  | capture other around =>
    obtain ⟨same, grown⟩ := captureTurn_keeps taken
    refine ⟨serving.grown.trans (grown.map pieceOf), fun few => ?_⟩
    obtain ⟨answer, gone, answering⟩ := serving.answering (few.of_grown grown)
    rw [same]
    exact ⟨answer, gone, answering.grow grown⟩
  | normal other heap around =>
    obtain ⟨recorded, same⟩ := normalTurn_keeps taken
    refine ⟨recorded ▸ serving.grown, ?_⟩
    rw [recorded, same conn (Ne.symm quiet)]
    exact serving.answering
  | resume other heap =>
    simp only [Streams.step] at taken
    split at taken
    next => cases taken
    next resourceMd5 ids pushing =>
      obtain ⟨changed, gone, rfl⟩ := Option.map_eq_some_iff.mp taken
      obtain ⟨proto, out, pushed, rfl⟩ := goOn_eq_some gone
      refine ⟨serving.grown, fun few => ?_⟩
      by_cases self : conn = other
      · subst self
        obtain ⟨answer, passed, answering⟩ := serving.answering few
        rw [pushing] at answering
        simp only [Function.update_self]
        exact answering.pushOn relaying.consistent few serving.grown pushed
      · simp only [Function.update_of_ne self]
        exact serving.answering few

theorem serving_listed {heap : Heap} {around : Unset} {content : Content}
    (relaying : Relaying unset capture normal world)
    (taken : normalTurn world conn heap around = some after) (read : after.asked = world.asked ++ [(conn, content)])
    (listed : listIn content = some pushList) :
    Serving (world.recorded.fills.map pieceOf) (world.normal conn).sent pushList conn after := by
  obtain ⟨recorded, _⟩ := normalTurn_keeps taken
  simp only [normalTurn, Option.ite_none_left_eq_some] at taken
  obtain ⟨_, taken⟩ := taken
  split at taken
  next => cases taken
  next =>
    cases taken
    exact absurd read (by simp)
  next next message reads =>
    obtain ⟨changed, dispatched, rfl⟩ := Option.map_eq_some_iff.mp taken
    obtain ⟨_, same⟩ := Prod.mk.inj (List.singleton_injective (List.append_cancel_left read))
    refine ⟨List.prefix_refl _, fun few => ?_⟩
    rcases dispatch_eq_some dispatched with ⟨unlisted, _⟩ | ⟨other, proto, out, found, called, rfl⟩
    · rw [same, listed] at unlisted
      cases unlisted
    · rw [same, listed] at found
      cases found
      simp only [Function.update_self]
      exact answering_getPushList relaying.consistent few (List.prefix_refl _) _ called

theorem list_answered {heap : Heap} {around : Unset} {later : List Event} {first last : World} {content : Content}
    (relaying : Relaying unset capture normal world)
    (complete : ∀ conn, ∀ frame ∈ (capture conn).frames, Complete frame.content)
    (current : Roomy world (.normal conn heap around)) (going : Along step first later Roomy)
    (taken : step world (.normal conn heap around) = some first)
    (read : first.asked = world.asked ++ [(conn, content)]) (listed : listIn content = some pushList)
    (rest : run step first later = some last) (quiet : ∀ event ∈ later, Quiet conn event)
    (done : (last.normal conn).proto.pushing = none)
    (few : ∀ channel, (piecesOn (feedOf unset last.arrived).pieces channel).length < 2147483648) :
    ∃ answer : Answer, answer.pushList = pushList ∧
      (last.normal conn).sent = (world.normal conn).sent ++ answer.sent ∧
      answer.Sound (feedOf unset last.arrived).pieces ∧
      ((sortedBlocks pushList).filter fun id => Stays (feedOf unset world.arrived).pieces
        (feedOf unset last.arrived).pieces pushList.resourceMd5 id).Sublist (answer.blocks.map Prod.fst) := by
  have opened := relaying_step relaying complete current taken
  obtain ⟨ended, serving⟩ := run_along
    (fun world' => Relaying unset capture normal world' ∧
      Serving (world.recorded.fills.map pieceOf) (world.normal conn).sent pushList conn world')
    (fun world' event => Roomy world' event ∧ Quiet conn event)
    (fun _ _ _ both condition moved =>
      ⟨relaying_step both.1 complete condition.1 moved, serving_step both.1 both.2 condition.2 moved⟩)
    ⟨opened, serving_listed relaying taken read listed⟩
    (fun before event behind state split reached => ⟨going before event behind state split reached,
      quiet event (split ▸ List.mem_append_right _ (List.mem_cons_self ..))⟩) rest
  have pieces := ended.carries.pieces
  have little : Few last.recorded.fills := fun hash => by
    have bound := few hash.rank
    rwa [← pieces, piecesOn_map, List.length_map] at bound
  obtain ⟨answer, gone, answering⟩ := serving.answering little
  have left := answering.left
  rw [done, Option.map_none, Option.getD_none, List.append_nil] at left
  refine ⟨answer, answering.list, answering.wire, pieces ▸ answering.sound, ?_⟩
  rw [← pieces, ← relaying.carries.pieces, left]
  exact answering.kept

/-- From a push list up to the end of its answer: of the blocks that it lists, those that the ring held
from the one moment to the other all go out, in ascending order and with nothing else in between. -/
theorem listed_blocks_sent (unset : Nat → MD5HashStr) (capture normal : Nat → Arriving) (conn : Nat) (heap : Heap)
    (around : Unset) (past later : List Event) (world first last : World) (content : Content)
    (pushList : Sp2SpPushList)
    (complete : ∀ conn, ∀ frame ∈ (capture conn).frames, Complete frame.content)
    (roomy : Along step (.start unset capture normal) (past ++ .normal conn heap around :: later) Roomy)
    (ran : run step (.start unset capture normal) past = some world)
    (taken : step world (.normal conn heap around) = some first)
    (read : first.asked = world.asked ++ [(conn, content)]) (listed : listIn content = some pushList)
    (rest : run step first later = some last) (quiet : ∀ event ∈ later, Quiet conn event)
    (done : (last.normal conn).proto.pushing = none)
    (few : ∀ channel, (piecesOn (feedOf unset last.arrived).pieces channel).length < 2147483648) :
    ∃ answer : Answer, answer.pushList = pushList ∧
      (last.normal conn).sent = (world.normal conn).sent ++ answer.sent ∧
      answer.Sound (feedOf unset last.arrived).pieces ∧
      ((sortedBlocks pushList).filter fun id => Stays (feedOf unset world.arrived).pieces
        (feedOf unset last.arrived).pieces pushList.resourceMd5 id).Sublist (answer.blocks.map Prod.fst) := by
  have relaying := relaying_run complete (along_of_append roomy) ran
  obtain ⟨atHead, going⟩ := along_cons.mp (along_behind roomy ran)
  exact list_answered relaying complete atHead (going first taken) taken read listed rest quiet done few

end List

theorem listed_block_sent : ∃ world first last answer,
    run Streams.step blank [takeCapture, takeCapture] = some world ∧
    Streams.step world takeList = some first ∧ run Streams.step first [sendOn, sendOn] = some last ∧
    (last.normal 0).sent = (world.normal 0).sent ++ Answer.sent answer ∧ answer.pushList.blockArray = [0] := by
  obtain ⟨last, ran, same⟩ := Option.map_eq_some_iff.mp block_sent
  obtain ⟨two, ended⟩ := Prod.mk.inj same
  have done := (Prod.mk.inj ended).2
  rw [List.append_assoc] at ran
  obtain ⟨first, before, rest⟩ := run_append_eq_some.mp ran
  have heard : (run Streams.step blank [takeCapture, takeCapture]).map World.asked = some [] ∧
      (run Streams.step blank [takeCapture, takeCapture, takeList]).map World.asked =
        some [(0, listFrame.content)] := by
    constructor <;> decide +kernel
  obtain ⟨world, reached, taken⟩ := run_snoc_eq_some.mp
    (show run Streams.step blank ([takeCapture, takeCapture] ++ [takeList]) =
    some first from before)
  rw [reached, before] at heard
  have listed : listIn listFrame.content = some ⟨channelHash [], ⟨0, 0, 0⟩, 1, [0]⟩ := by decide +kernel
  obtain ⟨answer, list, sent, _⟩ := listed_blocks_sent _ capturing asking 0 _ _ [takeCapture, takeCapture]
    [sendOn, sendOn]
    world first last listFrame.content _ complete_capturing roomy_scene reached taken
    (by rw [Option.some.inj heard.1, Option.some.inj heard.2]; rfl) listed rest (by simp [sendOn, Quiet]) done
    (few_pieces (by rw [two]; decide))
  exact ⟨world, first, last, answer, reached, taken, rest, sent, by rw [list]⟩

end RabbitStreamer.Sp.PushLists
