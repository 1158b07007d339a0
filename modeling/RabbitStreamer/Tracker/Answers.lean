import RabbitStreamer.Tracker.Endurance
import RabbitStreamer.Tracker.PeerSearch
import RabbitStreamer.Tracker.Refinement

/-! What the tracker answers, against the registry. -/

namespace RabbitStreamer.Tracker.Answers
open RabbitStreamer.Lib RabbitStreamer.Lib.Transition RabbitStreamer.Lib.Simulation
open RabbitStreamer.Core.Struct RabbitStreamer.Core.StructDefine RabbitStreamer.Core.IntervalSets
open RabbitStreamer.Core.Message RabbitStreamer.Core.Message.P2PMESSAGE RabbitStreamer.Core.MessageCodec
open RabbitStreamer.Tracker.Uuid RabbitStreamer.Tracker.NpManager RabbitStreamer.Tracker.NpManager.NpnodeMap
open RabbitStreamer.Tracker.StreamerManager RabbitStreamer.Tracker.SpAddresses RabbitStreamer.Tracker.State
open RabbitStreamer.Tracker.NpConnector RabbitStreamer.Tracker.PeerRounds RabbitStreamer.Tracker.Endurance
open RabbitStreamer.Tracker.Server RabbitStreamer.Tracker.Membership RabbitStreamer.Tracker.Refinement

variable {R : Rand}

theorem peers_of_mem {tracker : TrackerState R} {entry : MapStr × NPNode}
    (stored : entry ∈ tracker.npnodeMap.entries) : (registry tracker).peers entry.1.rank = some (peerOf entry.2) :=
  Option.map_eq_some_iff.mpr ⟨entry.2, OrderedMap.lookup_eq_some.mpr ⟨entry.1, stored, rfl⟩, rfl⟩

theorem carriers_of_mem {tracker : TrackerState R} {entry : MapStr × ChannelNode}
    (stored : entry ∈ tracker.channelMap.entries) :
    (registry tracker).carriers entry.1.rank = some (carrierOf entry.2) :=
  Option.map_eq_some_iff.mpr ⟨entry.2, OrderedMap.lookup_eq_some.mpr ⟨entry.1, stored, rfl⟩, rfl⟩

theorem carriers_of_getCpAddress {tracker : TrackerState R} {now : Int} {cps : List NetAddress} {rng : R.State}
    (drawn : tracker.channelMap.getCpAddress R now 10 = (cps, rng)) :
    ∀ address ∈ cps, ∃ name carrier, (registry tracker).carriers name = some carrier ∧ carrier.address = address := by
  intro address member
  rw [← show (tracker.channelMap.getCpAddress R now 10).1 = cps by rw [drawn], getCpAddress_eq] at member
  obtain ⟨entry, chosen, rfl⟩ := List.mem_map.mp member
  exact ⟨entry.1.rank, carrierOf entry.2, carriers_of_mem ((stretch_sublist _ _ _).subset chosen), rfl⟩

theorem carrier_of_getSpAddress {tracker : TrackerState R} {hash : MD5HashStr} {sp : NetAddress}
    {more : List NetAddress} (having : tracker.channelMap.getSpAddress hash 1 = sp :: more) :
    ∃ name carrier interval, (registry tracker).carriers name = some carrier ∧ carrier.address = sp ∧
      (channelText hash, interval) ∈ carrier.resources := by
  have member : sp ∈ tracker.channelMap.getSpAddress hash 1 := having ▸ List.mem_cons_self ..
  obtain ⟨entry, first, rfl⟩ := List.mem_map.mp member
  obtain ⟨stored, has⟩ := List.mem_filter.mp (List.mem_of_mem_take first)
  obtain ⟨own, listed, same⟩ := List.any_eq_true.mp has
  refine ⟨entry.1.rank, carrierOf entry.2, own.blockInterval, carriers_of_mem stored, rfl, ?_⟩
  exact List.mem_map.mpr ⟨own, listed, by rw [resourceOf, channelText_eq_iff.mpr same]⟩

theorem peers_of_answers {tracker : TrackerState R} (kept : Kept tracker) (named : Named tracker.npnodeMap)
    {query : Query} {contact : PeerInfoWithAddr} (answers : Answers tracker.npnodeMap query contact) :
    ∃ name peer, name ≠ query.uuid.rank ∧ (registry tracker).peers name = some peer ∧ peer.contact = contact ∧
      peer.channel = channelText query.resHash ∧ query.currentblockID.toNat ∈ peer.blocks := by
  obtain ⟨entry, stored, wanted, rfl⟩ := answers
  simp only [Query.wants, Bool.and_eq_true, MapStr.differs_iff] at wanted
  obtain ⟨⟨channel, apart⟩, has⟩ := wanted
  refine ⟨entry.1.rank, peerOf entry.2, ?_, peers_of_mem stored, rfl, channelText_eq_iff.mpr channel, ?_⟩
  · rw [← named entry stored]
    exact apart
  · exact (findBlock_iff (kept.ordered entry stored) _).mp has

def Replied (registry : Registry (List Nat) (List Nat)) (asker channel : List Nat) (block : Nat)
    (lastReceiveAddr : NetAddress) (env : Env) (message : Sent) : Prop :=
  registry.peers asker = none ∧ message = .sendto lastReceiveAddr (msgFrame env.unsetFlag) ∨
  (∃ peer, registry.peers asker = some peer) ∧ ∃ cps peers sp payload,
    message = .sendto lastReceiveAddr payload ∧
    pack env.heap (⟨UInt8.ofNat cps.length, cps, UInt8.ofNat peers.length, peers, sp⟩ : Ts2NpPeers) = .ok payload ∧
    registry.Tells asker channel block peers sp cps

structure Answered (registry : Registry (List Nat) (List Nat)) (asker channel : List Nat) (block : Nat)
    (lastReceiveAddr : NetAddress) (env : Env) (sent : List Sent) : Prop where
  silent : sent = [] ↔ ¬registry.Carried channel
  replied : ∀ message ∈ sent, Replied registry asker channel block lastReceiveAddr env message

theorem answered_one {registry : Registry (List Nat) (List Nat)} {asker channel : List Nat} {block : Nat}
    {lastReceiveAddr : NetAddress} {env : Env} {message : Sent} (carried : registry.Carried channel)
    (replied : Replied registry asker channel block lastReceiveAddr env message) :
    Answered registry asker channel block lastReceiveAddr env [message] where
  silent := iff_of_false (List.cons_ne_nil _ _) (not_not_intro carried)
  replied := fun _ member => List.mem_singleton.mp member ▸ replied

theorem answered_sendPeers {uuid : MapStr} {resHash : MD5HashStr} {currentblockID : UInt32}
    {tracker after : TrackerState R} (kept : Kept tracker) (named : Named tracker.npnodeMap)
    {lastReceiveAddr : NetAddress} {env : Env} {sent : List Sent}
    (answered : sendPeers uuid resHash currentblockID tracker lastReceiveAddr env = .ok (after, sent)) :
    Answered (registry tracker) uuid.rank (channelText resHash) currentblockID.toNat lastReceiveAddr env sent := by
  rcases sendPeers_cases uuid resHash currentblockID tracker lastReceiveAddr env with
    endless | ⟨cps, rng, peers, rest, drawn, found, ⟨nobody, nothing⟩ | ⟨sp, more, _, having, answer⟩⟩
  · cases endless.symm.trans answered
  · cases nothing.symm.trans answered
    refine ⟨iff_of_true rfl ?_, fun _ member => absurd member List.not_mem_nil⟩
    rw [carried_iff, not_not]
    exact nowhere_of_nobody drawn nobody
  · have carried : (registry tracker).Carried (channelText resHash) :=
      (carried_iff tracker resHash).mpr (by rw [having]; exact List.cons_ne_nil _ _)
    cases known : tracker.npnodeMap.getNode uuid with
    | none =>
      have unknown : ({ tracker with rng } : TrackerState R).npnodeMap.getNode uuid = none := known
      have ended := answerPeers_unknown unknown resHash peers cps sp lastReceiveAddr env
      cases (answer.trans ended).symm.trans answered
      exact answered_one carried (Or.inl ⟨peers_of_unknown known, rfl⟩)
    | some stored =>
      have present : ({ tracker with rng } : TrackerState R).npnodeMap.getNode uuid = some stored := known
      obtain ⟨payload, packed, ended⟩ := answerPeers_known present resHash peers cps sp lastReceiveAddr env
      cases (answer.trans ended).symm.trans answered
      refine answered_one carried (Or.inr ⟨⟨_, peers_of_getNode known⟩, cps, peers, sp, payload, rfl, packed, ?_⟩)
      constructor
      · obtain endless | ⟨_, _, same, sound⟩ := getNpAddress_spec R tracker.npnodeMap
          ⟨resHash, uuid, 20, currentblockID⟩ env.passes tracker.rng
        · cases endless.symm.trans found
        · cases same.symm.trans found
          exact fun contact one => peers_of_answers kept named (sound contact one)
      · exact carrier_of_getSpAddress having
      · exact carriers_of_getCpAddress drawn

/-- The request asks for peers: for the channel that it names from block 0 on, or from a block on
for the channel of the peer that sends it. -/
def AsksPeers (registry : Registry (List Nat) (List Nat)) (request : Request) (asker channel : List Nat)
    (block : Nat) : Prop :=
  (∃ reqRes, request = .reqRes reqRes ∧ asker = (MapStr.ofUuid reqRes.uuid).rank ∧
    channel = channelText (.ofMd5 reqRes.resourceMd5 (.init 0)) ∧ block = 0) ∨
  ∃ needPeers peer, request = .needPeers needPeers ∧ asker = (MapStr.ofUuid needPeers.uuid).rank ∧
    registry.peers asker = some peer ∧ channel = peer.channel ∧ block = needPeers.currentBlock.toNat

def Told (registry : Registry (List Nat) (List Nat)) (tracker : TrackerState R) (datagram : Datagram)
    (asker channel : List Nat) (block : Nat) : Prop :=
  (∃ passes after sent, receive tracker (granted datagram passes) = .ok (after, sent)) ∧
  ∀ passes after sent, receive tracker (granted datagram passes) = .ok (after, sent) →
    Answered registry asker channel block datagram.lastReceiveAddr datagram.env sent

theorem told_sendPeers {uuid : MapStr} {resHash : MD5HashStr} {id : UInt32} {tracker : TrackerState R}
    (kept : Kept tracker) (named : Named tracker.npnodeMap) (recurs : Recurs R tracker.rng) {datagram : Datagram}
    (searches : ∀ passes, receive tracker (granted datagram passes) =
      sendPeers uuid resHash id tracker datagram.lastReceiveAddr { datagram.env with passes }) :
    Told (registry tracker) tracker datagram uuid.rank (channelText resHash) id.toNat := by
  refine ⟨?_, fun passes after sent received => ?_⟩
  · obtain ⟨passes, after, sent, ended⟩ :=
      (settles_sendPeers uuid resHash id recurs datagram.lastReceiveAddr datagram.env).ends trivial
    exact ⟨passes, after, sent, (searches passes).trans ended⟩
  · have answered := answered_sendPeers kept named ((searches passes).symm.trans received)
    exact ⟨answered.silent, answered.replied⟩

/-- In every run a peer that asks for others is told what the deeds of the run have left in the
registry: peers and super peers that are there, and nothing where nobody carries the channel; a peer
that is not known and names no channel is told nothing. -/
theorem peers_told {rng : R.State} {unset : UInt32} {events : List Event} {tracker : TrackerState R}
    (plain : Along step (.start R rng unset) events Plain)
    (reached : run step (.start R rng unset) events = some tracker)
    (recurs : ∀ n, ∃ m, n ≤ m ∧ drawn R tracker.rng m ≠ 0) {datagram : Datagram} {request : Request}
    (found : datagram.request = .ok (some request)) :
    (∀ asker channel block,
      AsksPeers (Registry.empty.performAll (deeds step eventDeed (.start R rng unset) events)) request asker channel
        block →
      Told (Registry.empty.performAll (deeds step eventDeed (.start R rng unset) events)) tracker datagram asker
        channel block) ∧
    ∀ needPeers, request = .needPeers needPeers →
      (Registry.empty.performAll (deeds step eventDeed (.start R rng unset) events)).peers
        (MapStr.ofUuid needPeers.uuid).rank = none → receive tracker datagram = .ok (tracker, []) := by
  have kept := run_along Kept Plain (fun _ _ _ kept plain taken => kept_step kept plain taken) (kept_start rng unset)
    plain reached
  have named := PeerSearch.named_run reached
  have acted : ∀ passes, receive tracker (granted datagram passes) =
      request.act tracker datagram.lastReceiveAddr { datagram.env with passes } := fun passes =>
    @receive_of_request R (granted datagram passes) request found tracker
  rw [← run_is_registry plain reached]
  refine ⟨fun asker channel block asks => ?_, fun needPeers same unknown => ?_⟩
  · rcases asks with ⟨reqRes, rfl, rfl, rfl, rfl⟩ | ⟨needPeers, peer, rfl, rfl, known, rfl, rfl⟩
    · exact @told_sendPeers R (.ofUuid reqRes.uuid) (.ofMd5 reqRes.resourceMd5 (.init datagram.env.unsetSize)) 0
        tracker kept named recurs datagram acted
    · cases fetched : tracker.npnodeMap.getNode (.ofUuid needPeers.uuid) with
      | none => exact absurd ((peers_of_unknown fetched).symm.trans known) (by simp)
      | some node =>
        cases (peers_of_getNode fetched).symm.trans known
        refine told_sendPeers kept named recurs fun passes => (acted passes).trans ?_
        simp only [Request.act, getNeedPeers, fetched]
  · cases fetched : tracker.npnodeMap.getNode (.ofUuid needPeers.uuid) with
    | some node => exact absurd (unknown.symm.trans (peers_of_getNode fetched)) (by simp)
    | none =>
      rw [receive_of_request found, same]
      simp only [Request.act, getNeedPeers, fetched]

def oneCarried : List Event :=
  let env : Env := ⟨100, fun _ => 0, 0, 0, 5, 255⟩
  let login : Request := .login ⟨0, .fill _ 0, 0, 0, 1, [0x0100007f]⟩
  let resList : Request := .resList ⟨(uuidOf ⟨1, 2, 3, 4⟩).uuid, 1, [⟨.fill _ 97, ⟨3, 7⟩⟩]⟩
  [.datagram ((Request.register ⟨1, .fill _ 0, 0⟩).datagram .init env), .datagram (resList.datagram .init env),
    .datagram (login.datagram .init env)]

def asksChannel : Request := .reqRes ⟨(uuidOf ⟨5, 6, 7, 8⟩).uuid, .fill _ 97⟩

def askChannel : Datagram := asksChannel.datagram .init ⟨100, fun _ => 0, 0, 0, 5, 255⟩

theorem askChannel_request : askChannel.request = .ok (some asksChannel) :=
  (Request.carries (show asksChannel.Counted from trivial) (by decide) .init ⟨100, fun _ => 0, 0, 0, 5, 255⟩).request

theorem one_carried_told : ∃ (tracker : TrackerState .counting) (after : TrackerState .counting) (sent : List Sent),
    run step (.start .counting (1 : Nat) 0) oneCarried = some tracker ∧
    receive tracker askChannel = .ok (after, sent) ∧ sent ≠ [] ∧
    Answered (Registry.empty.performAll (deeds step eventDeed (.start .counting (1 : Nat) 0) oneCarried))
      (uuidOf ⟨5, 6, 7, 8⟩).rank (channelText (.ofMd5 (.fill _ 97) (.init 0))) 0 .init
      ⟨100, fun _ => 0, 0, 0, 5, 255⟩ sent := by
  obtain ⟨tracker, reached, answered⟩ := (Option.any_eq_true _ _).mp
    (show (run step (.start .counting (1 : Nat) 0) oneCarried).any (fun tracker =>
      (receive tracker askChannel).toOption.any fun result => decide (result.2 ≠ [])) = true by decide +kernel)
  cases received : receive tracker askChannel with
  | error reason => simp [received, Except.toOption] at answered
  | ok result =>
    simp only [received, Except.toOption, Option.any_some, decide_eq_true_eq] at answered
    have plain : check step plainCheck (.start .counting (1 : Nat) 0) oneCarried = true := by decide +kernel
    have name : MapStr.ofUuid (uuidOf ⟨5, 6, 7, 8⟩).uuid = uuidOf ⟨5, 6, 7, 8⟩ := by decide +kernel
    obtain ⟨told, _⟩ := peers_told (along_of_check plain_of_check plain) reached (recurs_counting tracker.rng)
      askChannel_request
    exact ⟨tracker, result.1, result.2, reached, received, answered,
      (told _ _ _ (Or.inl ⟨_, rfl, by rw [name], rfl, rfl⟩)).2 5 result.1 result.2 received⟩

theorem list_of_stock {uuid : MapStr} {lastReceiveAddr : NetAddress} {now : Int} {request : Request}
    {name : List Nat} {resources : List (List Nat × BlockInterval)}
    (stocks : requestDeed uuid lastReceiveAddr now request = .stock name resources) :
    ∃ resList, request = .resList resList ∧ (MapStr.ofUuid resList.spUuid).rank = name ∧
      resources = resList.resInfo.map fun info => resourceOf (SpConnector.resourceHash info) := by
  cases request with
  | resList resList =>
    obtain ⟨same, rfl⟩ := Deed.stock.inj stocks
    exact ⟨resList, rfl, same, rfl⟩
  | login login =>
    simp only [requestDeed] at stocks
    split_ifs at stocks
  | report report =>
    simp only [requestDeed] at stocks
    split_ifs at stocks
  | _ => cases stocks

theorem event_of_stock {tracker : TrackerState R} {event : Event} {name : List Nat}
    {resources : List (List Nat × BlockInterval)} (stocks : eventDeed tracker event = .stock name resources) :
    ∃ datagram resList, event = .datagram datagram ∧ datagram.request = .ok (some (.resList resList)) ∧
      (MapStr.ofUuid resList.spUuid).rank = name ∧
      resources = resList.resInfo.map fun info => resourceOf (SpConnector.resourceHash info) := by
  cases event with
  | timerCheck currTime => cases stocks
  | datagram datagram =>
    simp only [eventDeed] at stocks
    split at stocks
    case h_1 request found =>
      obtain ⟨resList, rfl, facts⟩ := list_of_stock stocks
      exact ⟨datagram, resList, rfl, found, facts⟩
    case h_2 => cases stocks

theorem first_of_getChannelInterval {channelMap : ChannelMap} {hash : MD5HashStr} {interval : BlockInterval}
    (found : channelMap.getChannelInterval hash = some interval) : ∃ entry ∈ channelMap.entries,
      channelMap.getSpAddress hash 1 = [entry.2.spAddress] ∧
      ∃ own ∈ entry.2.pHash, own.same hash = true ∧ own.blockInterval = interval := by
  obtain ⟨before, entry, behind, split, first, without⟩ := List.findSome?_eq_some_iff.mp found
  obtain ⟨own, listed, rfl⟩ := Option.map_eq_some_iff.mp first
  have same := List.find?_some listed
  have member := List.mem_of_find?_eq_some listed
  refine ⟨entry, split ▸ List.mem_append_right _ (List.mem_cons_self ..), ?_, own, member, same, rfl⟩
  have nothing : (before.filter fun entry => entry.2.pHash.any fun own => own.same hash) = [] := by
    refine List.filter_eq_nil_iff.mpr fun other present any => ?_
    have absent := List.find?_eq_none.mp (Option.map_eq_none_iff.mp (without other present))
    obtain ⟨one, among, equal⟩ := List.any_eq_true.mp any
    exact absent one among equal
  have current : (entry.2.pHash.any fun own => own.same hash) = true := List.any_eq_true.mpr ⟨own, member, same⟩
  simp only [ChannelMap.getSpAddress, split, List.filter_append, nothing, List.nil_append, List.filter_cons, current,
    if_true]
  rfl

theorem resource_of_getChannelInterval {tracker : TrackerState R} {hash : MD5HashStr} {interval : BlockInterval}
    (found : tracker.channelMap.getChannelInterval hash = some interval) :
    ∃ name carrier, (registry tracker).carriers name = some carrier ∧
      (channelText hash, interval) ∈ carrier.resources := by
  obtain ⟨entry, stored, _, own, listed, same, rfl⟩ := first_of_getChannelInterval found
  refine ⟨entry.1.rank, carrierOf entry.2, carriers_of_mem stored, ?_⟩
  exact List.mem_map.mpr ⟨own, listed, by rw [resourceOf, channelText_eq_iff.mpr same]⟩

theorem interval_answered {tracker after : TrackerState R} {datagram : Datagram} {resInterval : Np2TsReqInterval}
    (found : datagram.request = .ok (some (.resInterval resInterval))) {node : NPNode}
    (known : tracker.npnodeMap.getNode (.ofUuid resInterval.uuid) = some node) {sent : List Sent}
    (received : receive tracker datagram = .ok (after, sent)) {message : Sent} (member : message ∈ sent) :
    ∃ interval, tracker.channelMap.getChannelInterval node.channelIDMd5 = some interval ∧
      message = .sendto datagram.lastReceiveAddr (frame TS2NP_RES_INTERVAL interval.toBytes) := by
  have answer : getResInterval resInterval tracker datagram.lastReceiveAddr datagram.env =
      sendResInterval node.channelIDMd5 tracker datagram.lastReceiveAddr datagram.env := by
    simp only [getResInterval, known]
  rw [receive_of_request found] at received
  have answered := answer.symm.trans received
  cases interval : tracker.channelMap.getChannelInterval node.channelIDMd5 with
  | none =>
    simp only [sendResInterval, interval, Except.ok.injEq, Prod.mk.injEq] at answered
    rw [← answered.2] at member
    exact absurd member List.not_mem_nil
  | some blockInterval =>
    rw [sendResInterval_known interval] at answered
    obtain ⟨_, rfl⟩ := Prod.mk.inj (Except.ok.inj answered)
    refine ⟨blockInterval, rfl, ?_⟩
    split_ifs at member
    · exact absurd member List.not_mem_nil
    · exact List.mem_singleton.mp member

/-- The interval that a peer is told is that of its channel in the last list that some super peer
has sent. -/
theorem interval_told {rng : R.State} {unset : UInt32} {events : List Event} {tracker after : TrackerState R}
    (reached : run step (.start R rng unset) events = some tracker) {datagram : Datagram}
    {resInterval : Np2TsReqInterval} (found : datagram.request = .ok (some (.resInterval resInterval)))
    {node : NPNode} (known : tracker.npnodeMap.getNode (.ofUuid resInterval.uuid) = some node) {sent : List Sent}
    (received : receive tracker datagram = .ok (after, sent)) {message : Sent} (member : message ∈ sent) :
    ∃ past listing resList info later state next, events = past ++ .datagram listing :: later ∧
      run step (.start R rng unset) past = some state ∧ step state (.datagram listing) = some next ∧
      listing.request = .ok (some (.resList resList)) ∧
      (Along step next later fun state event =>
        ¬(eventDeed state event).Restocks (MapStr.ofUuid resList.spUuid).rank) ∧
      info ∈ resList.resInfo ∧ (SpConnector.resourceHash info).same node.channelIDMd5 = true ∧
      message = .sendto datagram.lastReceiveAddr (frame TS2NP_RES_INTERVAL info.blockInterval.toBytes) := by
  obtain ⟨blockInterval, interval, told⟩ := interval_answered found known received member
  obtain ⟨name, carrier, held, carried⟩ := resource_of_getChannelInterval interval
  rw [carriers_run reached] at held
  obtain ⟨past, resources, later, split, listed, last⟩ := listed_last held carried
  obtain ⟨before, event, behind, state, next, divided, early, taken, stocks, _, rfl⟩ := deeds_split reached split
  obtain ⟨listing, resList, rfl, asked, rfl, rfl⟩ := event_of_stock stocks.symm
  obtain ⟨info, among, same⟩ := List.mem_map.mp listed
  obtain ⟨text, own⟩ := Prod.mk.inj same
  refine ⟨before, listing, resList, info, behind, state, next, divided, early, taken, asked,
    along_deeds (fun deed : Deed (List Nat) (List Nat) => ¬deed.Restocks (MapStr.ofUuid resList.spUuid).rank) last,
    among, channelText_eq_iff.mp text, ?_⟩
  rw [told, ← own]
  rfl

def asksInterval : Request := .resInterval ⟨(uuidOf ⟨5, 6, 7, 8⟩).uuid⟩

def askInterval : Datagram := asksInterval.datagram .init ⟨100, fun _ => 0, 0, 0, 5, 255⟩

theorem askInterval_request : askInterval.request = .ok (some asksInterval) :=
  (Request.carries (show asksInterval.Counted from trivial) (by decide) .init ⟨100, fun _ => 0, 0, 0, 5, 255⟩).request

theorem one_interval_told : ∃ (tracker : TrackerState .counting) (message : Sent),
    run step (.start .counting (1 : Nat) 0) (oneCarried ++ [.datagram askChannel]) = some tracker ∧
    replies tracker askInterval = .ok [message] ∧
    ∃ past listing resList info later, oneCarried ++ [.datagram askChannel] = past ++ .datagram listing :: later ∧
      listing.request = .ok (some (.resList resList)) ∧ info ∈ resList.resInfo ∧
      message = .sendto .init (frame TS2NP_RES_INTERVAL info.blockInterval.toBytes) := by
  obtain ⟨tracker, reached, answered⟩ := (Option.any_eq_true _ _).mp
    (show (run step (.start .counting (1 : Nat) 0) (oneCarried ++ [.datagram askChannel])).any (fun tracker =>
      (tracker.npnodeMap.getNode (.ofUuid (uuidOf ⟨5, 6, 7, 8⟩).uuid)).isSome &&
      (receive tracker askInterval).toOption.any fun result => decide (result.2.length = 1)) = true by decide +kernel)
  obtain ⟨present, answered⟩ := Bool.and_eq_true_iff.mp answered
  obtain ⟨node, known⟩ := Option.isSome_iff_exists.mp present
  cases received : receive tracker askInterval with
  | error reason => simp [received, Except.toOption] at answered
  | ok result =>
    simp only [received, Except.toOption, Option.any_some, decide_eq_true_eq] at answered
    obtain ⟨message, one⟩ := List.length_eq_one_iff.mp answered
    obtain ⟨past, listing, resList, info, later, _, _, split, _, _, listed, _, among, _, told⟩ :=
      interval_told reached askInterval_request known received (one ▸ List.mem_singleton_self message)
    refine ⟨tracker, message, reached, ?_, past, listing, resList, info, later, split, listed, among, told⟩
    rw [replies, received, ← one]
    rfl

end RabbitStreamer.Tracker.Answers
