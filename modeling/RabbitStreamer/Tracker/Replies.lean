import RabbitStreamer.Tracker.IntervalReplies
import RabbitStreamer.Tracker.SpAddresses

/-! The bytes of the replies to normal peers, and what fresh objects hold before they are set. -/

namespace RabbitStreamer.Tracker.Replies
open RabbitStreamer.Lib RabbitStreamer.Lib.Bytes RabbitStreamer.Lib.Transition
open RabbitStreamer.Core.Struct RabbitStreamer.Core.StructDefine
open RabbitStreamer.Core.Streamer RabbitStreamer.Core.Message RabbitStreamer.Core.Message.P2PMESSAGE
open RabbitStreamer.Core.MessageCodec
open RabbitStreamer.Tracker.Uuid RabbitStreamer.Tracker.NpManager RabbitStreamer.Tracker.NpManager.NpnodeMap
open RabbitStreamer.Tracker.StreamerManager RabbitStreamer.Tracker.StreamerManager.ChannelMap
open RabbitStreamer.Tracker.State RabbitStreamer.Tracker.Server RabbitStreamer.Tracker.NpConnector
open RabbitStreamer.Tracker.Isolation (clock twoWatchers)

variable {R : Rand}

structure Fresh where
  heap : Heap
  unsetSize : UInt32
  unsetFlag : UInt8

def Fresh.env (fresh : Fresh) (env : Env) : Env :=
  { env with heap := fresh.heap, unsetSize := fresh.unsetSize, unsetFlag := fresh.unsetFlag }

/-- The same datagram to a tracker whose new objects lie in other memory. -/
def Fresh.datagram (fresh : Fresh) (datagram : Datagram) : Datagram := { datagram with env := fresh.env datagram.env }

def Determined (tracker : TrackerState R) (datagram : Datagram) : Prop :=
  ∀ first second : Fresh, replies tracker (first.datagram datagram) = replies tracker (second.datagram datagram)

def searched (tracker : TrackerState R) : Request → Option Query
  | .reqRes message => some ⟨.ofMd5 message.resourceMd5 (.init 0), .ofUuid message.uuid, 20, 0⟩
  | .needPeers message =>
      (tracker.npnodeMap.getNode (.ofUuid message.uuid)).map fun node =>
        ⟨node.channelIDMd5, .ofUuid message.uuid, 20, message.currentBlock⟩
  | _ => none

/-- Where the lists of super peers and of peers are sent, they are equally long. -/
def EvenLists (tracker : TrackerState R) (query : Query) (env : Env) : Prop :=
  ∀ stored peers rest, tracker.npnodeMap.getNode query.uuid = some stored →
    tracker.channelMap.getSpAddress query.resHash 1 ≠ [] →
    tracker.npnodeMap.getNpAddress R query env.passes tracker.rng = .ok (peers, rest) →
    (tracker.channelMap.getCpAddress R env.now 10).1.length = peers.length

/-- The requests that are answered with `TS2NP_MSG`: the uuid is not known, there is room for the
intervals of a report, and where peers are asked for, a super peer has the channel and the search
ends. -/
def TurnedAway (tracker : TrackerState R) (env : Env) : Request → Prop
  | .reqRes message =>
      let query : Query := ⟨.ofMd5 message.resourceMd5 (.init 0), .ofUuid message.uuid, 20, 0⟩
      tracker.npnodeMap.getNode query.uuid = none ∧ tracker.channelMap.getSpAddress query.resHash 1 ≠ [] ∧
        ∃ found, tracker.npnodeMap.getNpAddress R query env.passes tracker.rng = .ok found
  | .report message => HasRoom env message ∧ tracker.npnodeMap.getNode (.ofUuid message.uuid) = none
  | .resInterval message => tracker.npnodeMap.getNode (.ofUuid message.uuid) = none
  | _ => False

def peersFrame (cps : List NetAddress) (peers : List PeerInfoWithAddr) (sp : NetAddress) : List UInt8 :=
  frame TS2NP_PEERS ([UInt8.ofNat cps.length] ++ (cps.flatMap NetAddress.toBytes ++ ([UInt8.ofNat peers.length] ++
    (peers.flatMap PeerInfoWithAddr.toBytes ++ sp.toBytes))))

theorem getCpAddress_length (channelMap : ChannelMap) (now : Int) (inCount : Nat) :
    (channelMap.getCpAddress R now inCount).1.length ≤ inCount := by
  simp only [getCpAddress, List.length_map, List.length_take]
  omega

theorem sendLists_eq (env : Env) (lastReceiveAddr : NetAddress) {cps : List NetAddress}
    {peers : List PeerInfoWithAddr}
    (few : cps.length ≤ 10) (even : cps.length = peers.length) (sp : NetAddress) :
    sendBuffer env lastReceiveAddr
        (⟨UInt8.ofNat cps.length, cps, UInt8.ofNat peers.length, peers, sp⟩ : Ts2NpPeers) =
      .ok [.sendto lastReceiveAddr (peersFrame cps peers sp)] := by
  have count : (UInt8.ofNat cps.length).toNat = cps.length := UInt8.toNat_ofNat_of_lt' (show _ < 256 by omega)
  have encodes := encodes_peers ⟨UInt8.ofNat cps.length, cps, UInt8.ofNat peers.length, peers, sp⟩ count.symm
    (by rw [← even]; exact count.symm) (by rw [even])
  have packed := encodes.pack (by simp only [RsMessage.reservePackSize, basePackSize, ← even, count]; omega) env.heap
  rw [sendBuffer, packed]
  rfl

theorem wants_congr {resHash other : MD5HashStr} (same : resHash.hash = other.hash) (uuid : MapStr) (inCount : Nat)
    (currentblockID : UInt32) :
    Query.wants ⟨resHash, uuid, inCount, currentblockID⟩ = Query.wants ⟨other, uuid, inCount, currentblockID⟩ := by
  funext node
  simp only [Query.wants, MD5HashStr.same, same]

theorem getSpAddress_congr {resHash other : MD5HashStr} (same : resHash.hash = other.hash) (channelMap : ChannelMap)
    (inCount : Nat) : channelMap.getSpAddress resHash inCount = channelMap.getSpAddress other inCount := by
  simp only [getSpAddress, MD5HashStr.same, same]

theorem sendPeers_determined {tracker : TrackerState R} (query : Query) {env : Env} (count : query.inCount = 20)
    (even : EvenLists tracker query env)
    (known : ¬(tracker.npnodeMap.getNode query.uuid = none ∧ tracker.channelMap.getSpAddress query.resHash 1 ≠ [] ∧
      ∃ found, tracker.npnodeMap.getNpAddress R query env.passes tracker.rng = .ok found))
    (resHash other : MD5HashStr) (same : resHash.hash = query.resHash.hash)
    (sameToo : other.hash = query.resHash.hash)
    (lastReceiveAddr : NetAddress) (first second : Fresh) :
    (sendPeers query.uuid resHash query.currentblockID tracker lastReceiveAddr (first.env env)).map Prod.snd =
      (sendPeers query.uuid other query.currentblockID tracker lastReceiveAddr (second.env env)).map Prod.snd := by
  obtain ⟨hash, uuid, inCount, currentblockID⟩ := query
  cases count
  unfold sendPeers
  rw [getNpAddress_congr R tracker.npnodeMap (wants_congr same uuid 20 currentblockID) rfl,
    getNpAddress_congr R tracker.npnodeMap (wants_congr sameToo uuid 20 currentblockID) rfl,
    getSpAddress_congr same, getSpAddress_congr sameToo]
  have few := getCpAddress_length (R := R) tracker.channelMap env.now 10
  simp only [EvenLists] at even known
  simp only [Fresh.env]
  cases ended : tracker.npnodeMap.getNpAddress R ⟨hash, uuid, 20, currentblockID⟩ env.passes tracker.rng with
  | error reason => rfl
  | ok found =>
    have met := fun stored known sp => even stored found.1 found.2 known sp ended
    generalize tracker.channelMap.getCpAddress R env.now 10 = chosen at few met ⊢
    obtain ⟨cps, rng⟩ := chosen
    cases cps with
    | nil => rfl
    | cons cp more =>
      cases having : tracker.channelMap.getSpAddress hash 1 with
      | nil => rfl
      | cons sp others =>
        have nonempty : tracker.channelMap.getSpAddress hash 1 ≠ [] := by simp [having]
        cases stored : tracker.npnodeMap.getNode uuid with
        | none => exact absurd ⟨stored, nonempty, found, ended⟩ known
        | some node =>
          simp only [answerPeers, stored, sendLists_eq _ lastReceiveAddr few (met node stored nonempty) sp]
          rfl

theorem sendPeers_unknown {tracker : TrackerState R} (query : Query) {env : Env} (count : query.inCount = 20)
    (unknown : tracker.npnodeMap.getNode query.uuid = none)
    (nonempty : tracker.channelMap.getSpAddress query.resHash 1 ≠ []) {found : List PeerInfoWithAddr × R.State}
    (ended : tracker.npnodeMap.getNpAddress R query env.passes tracker.rng = .ok found)
    (resHash : MD5HashStr) (same : resHash.hash = query.resHash.hash) (lastReceiveAddr : NetAddress) (fresh : Fresh) :
    (sendPeers query.uuid resHash query.currentblockID tracker lastReceiveAddr (fresh.env env)).map Prod.snd =
      .ok [.sendto lastReceiveAddr (msgFrame fresh.unsetFlag)] := by
  obtain ⟨hash, uuid, inCount, currentblockID⟩ := query
  cases count
  have somebody := SpAddresses.getCpAddress_ne_nil (R := R) nonempty env.now
  unfold sendPeers
  rw [getNpAddress_congr R tracker.npnodeMap (wants_congr same uuid 20 currentblockID) rfl, getSpAddress_congr same]
  simp only [Fresh.env, ended]
  generalize tracker.channelMap.getCpAddress R env.now 10 = chosen at somebody ⊢
  obtain ⟨cps, rng⟩ := chosen
  cases cps with
  | nil => exact absurd rfl somebody
  | cons cp more =>
    cases having : tracker.channelMap.getSpAddress hash 1 with
    | nil => exact absurd having nonempty
    | cons sp others =>
      simp only [answerPeers, unknown, sendMsg_eq]
      rfl

theorem act_determined {request : Request} (peer : request.connector = .np) {tracker : TrackerState R} {env : Env}
    (even : ∀ query, searched tracker request = some query → EvenLists tracker query env)
    (answered : ¬TurnedAway tracker env request) (lastReceiveAddr : NetAddress) (first second : Fresh) :
    (request.act tracker lastReceiveAddr (first.env env)).map Prod.snd =
      (request.act tracker lastReceiveAddr (second.env env)).map Prod.snd := by
  cases request with
  | login message =>
    simp only [Request.act]
    by_cases addresses : message.localIpListSize = 0
    · rw [getLogin_none addresses, getLogin_none addresses]
    · rw [getLogin_some addresses rfl, getLogin_some addresses rfl]
      rfl
  | reqRes message =>
    exact sendPeers_determined ⟨.ofMd5 message.resourceMd5 (.init 0), .ofUuid message.uuid, 20, 0⟩ rfl (even _ rfl)
      answered (.ofMd5 message.resourceMd5 (.init first.unsetSize))
        (.ofMd5 message.resourceMd5 (.init second.unsetSize))
      rfl rfl lastReceiveAddr first second
  | report message =>
    simp only [Request.act, receiveReport]
    by_cases room : HasRoom env message
    · have firstRoom : HasRoom (first.env env) message := room
      have secondRoom : HasRoom (second.env env) message := room
      cases known : tracker.npnodeMap.getNode (.ofUuid message.uuid) with
      | none => exact absurd ⟨room, known⟩ answered
      | some stored =>
        rw [if_pos firstRoom, if_pos secondRoom, getReport_known known, getReport_known known]
    · have firstFull : ¬HasRoom (first.env env) message := room
      have secondFull : ¬HasRoom (second.env env) message := room
      rw [if_neg firstFull, if_neg secondFull]
  | needPeers message =>
    simp only [Request.act, getNeedPeers]
    cases known : tracker.npnodeMap.getNode (.ofUuid message.uuid) with
    | none => rfl
    | some stored =>
      refine sendPeers_determined ⟨stored.channelIDMd5, .ofUuid message.uuid, 20, message.currentBlock⟩ rfl
        (even _ ?_) ?_ _ _ rfl rfl lastReceiveAddr first second
      · simp only [searched, known, Option.map_some]
      · rintro ⟨unknown, _⟩
        cases known.symm.trans unknown
  | resInterval message =>
    simp only [Request.act, getResInterval]
    cases known : tracker.npnodeMap.getNode (.ofUuid message.uuid) with
    | none => exact absurd known answered
    | some stored =>
      cases interval : tracker.channelMap.getChannelInterval stored.channelIDMd5 with
      | none => simp only [sendResInterval, interval]
      | some blockInterval => simp only [sendResInterval_known interval]
  | logout message => rfl
  | _ => cases peer

theorem replies_of_turnedAway {request : Request} {tracker : TrackerState R} {env : Env}
    (turnedAway : TurnedAway tracker env request) (lastReceiveAddr : NetAddress) (fresh : Fresh) :
    (request.act tracker lastReceiveAddr (fresh.env env)).map Prod.snd =
      .ok [.sendto lastReceiveAddr (msgFrame fresh.unsetFlag)] := by
  cases request with
  | reqRes message =>
    obtain ⟨unknown, nonempty, found, ended⟩ := turnedAway
    exact sendPeers_unknown ⟨.ofMd5 message.resourceMd5 (.init 0), .ofUuid message.uuid, 20, 0⟩ rfl unknown nonempty
      ended (.ofMd5 message.resourceMd5 (.init fresh.unsetSize)) rfl lastReceiveAddr fresh
  | report message =>
    obtain ⟨room, unknown⟩ := turnedAway
    have found : HasRoom (fresh.env env) message := room
    simp only [Request.act, receiveReport_of_room found, getReport_unknown unknown]
    rfl
  | resInterval message =>
    simp only [Request.act, getResInterval_unknown turnedAway]
    rfl
  | _ => cases turnedAway

/-- The bytes of every reply are determined except where a message says that a peer is not known. -/
theorem replies_determined_iff {datagram : Datagram} {request : Request} (carries : datagram.Carries request)
    (peer : request.connector = .np) {tracker : TrackerState R}
    (even : ∀ query, searched tracker request = some query → EvenLists tracker query datagram.env) :
    Determined tracker datagram ↔ ¬TurnedAway tracker datagram.env request := by
  have acted : ∀ fresh : Fresh, replies tracker (fresh.datagram datagram) =
      (request.act tracker datagram.lastReceiveAddr (fresh.env datagram.env)).map Prod.snd := by
    intro fresh
    have carriesToo : (fresh.datagram datagram).Carries request :=
      ⟨carries.connector, carries.complete, carries.counted⟩
    rw [replies, receive_of_request carriesToo.request]
    rfl
  constructor
  · intro determined turnedAway
    have same := determined ⟨fun _ => 0, 0, 0x1c⟩ ⟨fun _ => 0, 0, 0xb0⟩
    rw [acted, acted, replies_of_turnedAway turnedAway, replies_of_turnedAway turnedAway] at same
    simp only [Except.ok.injEq, List.cons.injEq, Sent.sendto.injEq, true_and, and_true] at same
    exact absurd same (by decide)
  · intro answered first second
    rw [acted, acted]
    exact act_determined peer even answered datagram.lastReceiveAddr first second

def strangeReport : Request := .report ⟨.fill _ 97, .zero, 1, [⟨0, 10⟩], .zero, 0, 0, 0, 0, 0, 0, 0, 0, 0, 0⟩

/-- Its reply differs with what the flag of the new message happens to be. -/
theorem strange_report_undetermined :
    (strangeReport.datagram .init clock).Carries strangeReport ∧ strangeReport.connector = .np ∧
    ¬Determined (.start .counting (1 : Nat) 0) (strangeReport.datagram .init clock) := by
  refine ⟨Request.carries (show strangeReport.Counted from rfl) (by decide) .init clock, rfl, ?_⟩
  intro determined
  have same := congrArg Except.toOption (determined ⟨fun _ => 0, 0, 0x1c⟩ ⟨fun _ => 0, 0, 0xb0⟩)
  revert same
  decide +kernel

def evenTest (tracker : TrackerState R) (query : Query) (env : Env) : Bool :=
  match tracker.npnodeMap.getNpAddress R query env.passes tracker.rng with
  | .ok (peers, _) => (tracker.channelMap.getCpAddress R env.now 10).1.length = peers.length
  | .error _ => true

theorem evenTest_spec {tracker : TrackerState R} {query : Query} {env : Env}
    (passed : evenTest tracker query env = true) :
    EvenLists tracker query env := by
  intro stored peers rest known nonempty ended
  simpa [evenTest, ended] using passed

def onceMore : Request := .reqRes ⟨(uuidOf ⟨5, 6, 7, 8⟩).uuid, .fill _ 97⟩

theorem lists_determined : ∃ tracker, run step (.start .counting (1 : Nat) 0) (twoWatchers ++
      [.datagram ((Request.report ⟨(uuidOf ⟨9, 10, 11, 12⟩).uuid, .zero, 1, [⟨0, 10⟩], .zero, 0, 0, 0, 0, 0, 0, 0,
        0, 0, 0⟩).datagram .init clock)]) = some tracker ∧
    (Determined tracker (onceMore.datagram .init clock) ↔ ¬TurnedAway tracker clock onceMore) := by
  obtain ⟨tracker, reached, even⟩ := (Option.any_eq_true _ _).mp
    (show (run step (.start .counting (1 : Nat) 0) (twoWatchers ++ [.datagram ((Request.report
      ⟨(uuidOf ⟨9, 10, 11, 12⟩).uuid, .zero, 1, [⟨0, 10⟩], .zero, 0, 0, 0, 0, 0, 0, 0, 0, 0, 0⟩).datagram .init
        clock)])).any (fun tracker => evenTest tracker ⟨.ofMd5 (.fill _ 97) (.init 0),
          .ofUuid (uuidOf ⟨5, 6, 7, 8⟩).uuid, 20, 0⟩ clock) = true by decide +kernel)
  have carries : (onceMore.datagram .init clock).Carries onceMore :=
    Request.carries (show onceMore.Counted from trivial) (by decide) .init clock
  refine ⟨tracker, reached, replies_determined_iff carries rfl ?_⟩
  intro query asked
  cases asked
  exact evenTest_spec even

end RabbitStreamer.Tracker.Replies
