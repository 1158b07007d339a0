import RabbitStreamer.Core.IntervalSets
import RabbitStreamer.Lib.Lookup
import RabbitStreamer.Lib.Simulation
import RabbitStreamer.Sp.ChannelIdentity
import RabbitStreamer.Tracker.Advertised
import RabbitStreamer.Tracker.Membership
import RabbitStreamer.Tracker.ResourceList
import RabbitStreamer.Tracker.SpAddresses

/-! The maps of the tracker as a registry: every run of the tracker does to it what its requests
ask for. -/

namespace RabbitStreamer.Tracker.Refinement
open RabbitStreamer.Lib RabbitStreamer.Lib.CString RabbitStreamer.Lib.Spans RabbitStreamer.Lib.Transition
open RabbitStreamer.Lib.Simulation
open RabbitStreamer.Core.Struct RabbitStreamer.Core.StructDefine RabbitStreamer.Core.Streamer
open RabbitStreamer.Core.IntervalInvariant RabbitStreamer.Core.IntervalSets RabbitStreamer.Core.Message
open RabbitStreamer.Tracker.Uuid RabbitStreamer.Tracker.NpManager RabbitStreamer.Tracker.StreamerManager
open RabbitStreamer.Tracker.NpManager.NpnodeMap RabbitStreamer.Tracker.StreamerManager.ChannelMap
open RabbitStreamer.Tracker.State RabbitStreamer.Tracker.NpConnector RabbitStreamer.Tracker.SpConnector
open RabbitStreamer.Tracker.Server RabbitStreamer.Tracker.ShortDatagrams RabbitStreamer.Tracker.Membership
open RabbitStreamer.Tracker.ResourceList

variable {R : Rand}

/-- The text by which `operator==` compares hashes. -/
def channelText (hash : MD5HashStr) : List Nat := text UInt8.toNat MD5_LEN hash.hash.data

def blocksOf (intervals : List BlockInterval) : Set Nat := {id | Covers lower upper intervals id}

def peerOf (node : NPNode) : Peer (List Nat) where
  contact := ⟨node.coreInfo, node.clientAddress⟩
  channel := channelText node.channelIDMd5
  since := node.lastRecvReportTime
  blocks := blocksOf node.intervalArray.intervals

def resourceOf (hash : MD5HashStr) : List Nat × BlockInterval := (channelText hash, hash.blockInterval)

def carrierOf (node : ChannelNode) : Carrier (List Nat) where
  address := node.spAddress
  resources := node.pHash.map resourceOf

def registry (tracker : TrackerState R) : Registry (List Nat) (List Nat) where
  peers name := (tracker.npnodeMap.lookup name).map peerOf
  carriers name := (tracker.channelMap.lookup name).map carrierOf

def newPeer (address : P2PAddress) (now : Int) : Peer (List Nat) := ⟨⟨.zero, address⟩, [], now, ∅⟩

def requestDeed (uuid : MapStr) (lastReceiveAddr : NetAddress) (now : Int) :
    Request → Deed (List Nat) (List Nat)
  | .login login =>
      if login.localIpListSize = 0 then .idle
      else
        let remoteNormal : NetAddress := ⟨AF_INET, lastReceiveAddr.sinPort, lastReceiveAddr.sAddr⟩
        .join uuid.rank (newPeer (clientAddress remoteNormal login.listeningPort login.ipAddr) now)
  | .reqRes reqRes =>
      .ask (MapStr.ofUuid reqRes.uuid).rank (some (channelText (.ofMd5 reqRes.resourceMd5 (.init 0)))) now
  | .report report =>
      if report.intervalCount = 0 then .idle
      else .report (MapStr.ofUuid report.uuid).rank report.coreinfo (blocksOf report.blockinterval)
  | .needPeers needPeers => .ask (MapStr.ofUuid needPeers.uuid).rank none now
  | .resInterval _ => .idle
  | .logout logout => .leave (MapStr.ofUuid logout.uuid).rank
  | .register _ =>
      .announce uuid.rank { NetAddress.zero with sinPort := lastReceiveAddr.sinPort, sAddr := lastReceiveAddr.sAddr }
  | .status status => .trim (MapStr.ofUuid status.spUuid).rank status.resourceCount.toNat
  | .resList resList =>
      .stock (MapStr.ofUuid resList.spUuid).rank (resList.resInfo.map fun info => resourceOf (resourceHash info))
  | .getSp _ => .idle

/-- What an event amounts to. Of the state of the tracker it depends on the generator only. -/
def eventDeed (tracker : TrackerState R) : Event → Deed (List Nat) (List Nat)
  | .timerCheck currTime => .expire MAX_IDLE_TIME_SEC currTime
  | .datagram datagram =>
      match datagram.request with
      | .ok (some request) =>
          requestDeed (generateUuid R tracker.rng).1 datagram.lastReceiveAddr datagram.env.now request
      | _ => .idle

def Fits (tracker : TrackerState R) : Request → Prop
  | .report report => ∀ node ∈ tracker.npnodeMap.getNode (.ofUuid report.uuid),
      (∀ range ∈ report.blockinterval, upper range ≤ 4294967295) ∧
        node.intervalArray.intervals.length + report.blockinterval.length ≤ 65535
  | _ => True

instance (tracker : TrackerState R) (request : Request) : Decidable (Fits tracker request) :=
  match request with
  | .report report => inferInstanceAs (Decidable (∀ node ∈ tracker.npnodeMap.getNode (.ofUuid report.uuid), _ ∧ _))
  | .login _ | .reqRes _ | .needPeers _ | .resInterval _ | .logout _ | .register _ | .status _ | .resList _
  | .getSp _ => isTrue trivial

def Plain (tracker : TrackerState R) (event : Event) : Prop :=
  ∀ datagram request, event = .datagram datagram → datagram.request = .ok (some request) → Fits tracker request

def Ordered (npnodeMap : NpnodeMap) : Prop :=
  ∀ entry ∈ npnodeMap.entries, WellFormed entry.2.intervalArray.intervals

theorem channelText_eq_iff {first second : MD5HashStr} :
    channelText first = channelText second ↔ first.same second = true :=
  Sp.ChannelIdentity.same_iff.symm

theorem blocksOf_nil : blocksOf [] = ∅ := Set.eq_empty_of_forall_notMem not_covers_nil

theorem map_update {V W : Type} (held : List Nat → Option V) (name : List Nat) (value : Option V) (view : V → W) :
    (fun other => (Function.update held name value other).map view) =
      Function.update (fun other => (held other).map view) name (value.map view) :=
  Function.comp_update (Option.map view) held name value

theorem lookup_insertNode (npnodeMap : NpnodeMap) (digits : MapStr) (node : NPNode) :
    (npnodeMap.insertNode digits node).lookup = Function.update npnodeMap.lookup digits.rank (some node.assign) := by
  cases found : npnodeMap.find digits with
  | none => rw [insertNode_unknown found, OrderedMap.lookup_insert _ found]
  | some entry =>
    simp only [NpnodeMap.insertNode, found]
    exact OrderedMap.lookup_adjust_of_find found _

theorem peers_insertNode (npnodeMap : NpnodeMap) (digits : MapStr) (node : NPNode) :
    (fun name => ((npnodeMap.insertNode digits node).lookup name).map peerOf) =
      Function.update (fun name => (npnodeMap.lookup name).map peerOf) digits.rank (some (peerOf node)) := by
  rw [lookup_insertNode, map_update]
  rfl

theorem peers_of_getNode {tracker : TrackerState R} {digits : MapStr} {node : NPNode}
    (found : tracker.npnodeMap.getNode digits = some node) :
    (registry tracker).peers digits.rank = some (peerOf node) := by
  obtain ⟨entry, listed, rfl⟩ := getNode_eq_some.mp found
  show (tracker.npnodeMap.lookup digits.rank).map peerOf = _
  rw [OrderedMap.lookup_of_find listed]
  rfl

theorem peers_of_unknown {tracker : TrackerState R} {digits : MapStr}
    (unknown : tracker.npnodeMap.getNode digits = none) : (registry tracker).peers digits.rank = none := by
  show (tracker.npnodeMap.lookup digits.rank).map peerOf = _
  rw [OrderedMap.lookup_rank, getNode_eq_none.mp unknown]
  rfl

theorem carried_iff (tracker : TrackerState R) (hash : MD5HashStr) :
    (registry tracker).Carried (channelText hash) ↔ tracker.channelMap.getSpAddress hash 1 ≠ [] := by
  have scanned : tracker.channelMap.getSpAddress hash 1 ≠ [] ↔
      ∃ entry ∈ tracker.channelMap.entries, ∃ own ∈ entry.2.pHash, own.same hash = true := by
    unfold getSpAddress
    simp [List.map_eq_nil_iff, List.take_eq_nil_iff, List.filter_eq_nil_iff]
  rw [scanned]
  constructor
  · rintro ⟨name, carrier, interval, held, member⟩
    obtain ⟨node, present, rfl⟩ := Option.map_eq_some_iff.mp held
    obtain ⟨key, stored, _⟩ := OrderedMap.lookup_eq_some.mp present
    obtain ⟨own, listed, same⟩ := List.mem_map.mp member
    exact ⟨(key, node), stored, own, listed, channelText_eq_iff.mp (Prod.mk.inj same).1⟩
  · rintro ⟨entry, stored, own, listed, same⟩
    refine ⟨entry.1.rank, carrierOf entry.2, own.blockInterval, ?_, ?_⟩
    · exact Option.map_eq_some_iff.mpr ⟨entry.2, OrderedMap.lookup_eq_some.mpr ⟨entry.1, stored, rfl⟩, rfl⟩
    · exact List.mem_map.mpr ⟨own, listed, by rw [resourceOf, channelText_eq_iff.mpr same]⟩

theorem registry_of_peers {tracker after : TrackerState R} {peers : List Nat → Option (Peer (List Nat))}
    (channels : after.channelMap = tracker.channelMap)
    (held : (fun name => (after.npnodeMap.lookup name).map peerOf) = peers) :
    registry after = { registry tracker with peers } := by
  unfold registry
  rw [held, channels]

theorem registry_of_carriers {tracker after : TrackerState R} {carriers : List Nat → Option (Carrier (List Nat))}
    (nodes : after.npnodeMap = tracker.npnodeMap)
    (held : (fun name => (after.channelMap.lookup name).map carrierOf) = carriers) :
    registry after = { registry tracker with carriers } := by
  unfold registry
  rw [held, nodes]

theorem registry_congr {tracker after : TrackerState R} (nodes : after.npnodeMap = tracker.npnodeMap)
    (channels : after.channelMap = tracker.channelMap) : registry after = registry tracker := by
  unfold registry
  rw [nodes, channels]

theorem registry_insertNode {tracker after : TrackerState R} {digits : MapStr} {stored node : NPNode}
    (known : tracker.npnodeMap.getNode digits = some stored)
    (nodes : after.npnodeMap = tracker.npnodeMap.insertNode digits node)
    (channels : after.channelMap = tracker.channelMap) {change : Peer (List Nat) → Peer (List Nat)}
    (changed : peerOf node = change (peerOf stored)) :
    registry after = { registry tracker with peers := revise (registry tracker).peers digits.rank change } := by
  apply registry_of_peers channels
  rw [nodes, peers_insertNode, revise_known (peers_of_getNode known), changed]
  rfl

theorem revise_peers_of_unknown {tracker : TrackerState R} {digits : MapStr}
    (unknown : tracker.npnodeMap.getNode digits = none) (change : Peer (List Nat) → Peer (List Nat)) :
    { registry tracker with peers := revise (registry tracker).peers digits.rank change } = registry tracker := by
  rw [revise_unknown (peers_of_unknown unknown)]

theorem registry_sendPeers {uuid : MapStr} {resHash : MD5HashStr} {currentblockID : UInt32}
    {tracker after : TrackerState R} {lastReceiveAddr : NetAddress} {env : Env} {sent : List Sent}
    (answered : sendPeers uuid resHash currentblockID tracker lastReceiveAddr env = .ok (after, sent))
    {channel : Option (List Nat)} (means : ∀ stored, tracker.npnodeMap.getNode uuid = some stored →
      channel.getD (peerOf stored).channel = channelText resHash) :
    registry after = (registry tracker).perform (.ask uuid.rank channel env.now) := by
  show registry after = { registry tracker with
    peers := revise (registry tracker).peers uuid.rank (Membership.asked (registry tracker) channel env.now) }
  rcases sendPeers_cases uuid resHash currentblockID tracker lastReceiveAddr env with
    endless | ⟨cps, rng, peers, _, drawn, _, ⟨nobody, nothing⟩ | ⟨sp, more, _, having, answer⟩⟩
  · cases endless.symm.trans answered
  · -- without a super peer to name, the search is given up before the asking peer is looked up
    cases nothing.symm.trans answered
    have nowhere := SpAddresses.nowhere_of_nobody drawn nobody
    cases known : tracker.npnodeMap.getNode uuid with
    | none =>
      rw [revise_peers_of_unknown known]
      exact registry_congr rfl rfl
    | some stored =>
      have nowhere : ¬(registry tracker).Carried (channel.getD (peerOf stored).channel) := by
        rw [means stored known, carried_iff]
        exact not_not_intro nowhere
      rw [revise_known (peers_of_getNode known), asked_nowhere nowhere, ← peers_of_getNode known,
        Function.update_eq_self]
      exact registry_congr rfl rfl
  · have carried : (registry tracker).Carried (channelText resHash) :=
      (carried_iff tracker resHash).mpr (by rw [having]; exact List.cons_ne_nil _ _)
    cases known : tracker.npnodeMap.getNode uuid with
    | none =>
      have unknown : ({ tracker with rng } : TrackerState R).npnodeMap.getNode uuid = none := known
      have sent := answerPeers_unknown unknown resHash peers cps sp lastReceiveAddr env
      cases (answer.trans sent).symm.trans answered
      rw [revise_peers_of_unknown known]
      exact registry_congr rfl rfl
    | some stored =>
      have found : ({ tracker with rng } : TrackerState R).npnodeMap.getNode uuid = some stored := known
      obtain ⟨payload, _, sent⟩ := answerPeers_known found resHash peers cps sp lastReceiveAddr env
      obtain ⟨nodes, channels⟩ : after.npnodeMap = tracker.npnodeMap.insertNode uuid (asked stored resHash env.now) ∧
          after.channelMap = tracker.channelMap := by
        cases (answer.trans sent).symm.trans answered
        exact ⟨rfl, rfl⟩
      rw [← means stored known] at carried
      refine registry_insertNode known nodes channels ?_
      rw [asked_carried carried, means stored known]
      rfl

theorem peerOf_reported {stored : NPNode} {report : Np2TsReport} (formed : WellFormed stored.intervalArray.intervals)
    (bounded : ∀ range ∈ report.blockinterval, upper range ≤ 4294967295)
    (room : stored.intervalArray.intervals.length + report.blockinterval.length ≤ 65535) :
    peerOf (NpConnector.reported stored report) =
      Membership.reported report.coreinfo (blocksOf report.blockinterval) (peerOf stored) := by
  have union : blocksOf (addAll stored.intervalArray report.blockinterval).intervals =
      blocksOf stored.intervalArray.intervals ∪ blocksOf report.blockinterval :=
    Set.ext fun id => covers_addAll formed bounded room id
  unfold peerOf Membership.reported
  rw [← union]
  rfl

def Adds (tracker : TrackerState R) (request : Request) : Prop :=
  ∀ report stored, request = .report report → tracker.npnodeMap.getNode (.ofUuid report.uuid) = some stored →
    peerOf (NpConnector.reported stored report) =
      Membership.reported report.coreinfo (blocksOf report.blockinterval) (peerOf stored)

theorem carriers_insertChannel {channelMap after : ChannelMap} {uuid : MapStr} {now : Int} {chnl : ChannelNode}
    (inserted : channelMap.insertChannel now uuid chnl = .ok after) :
    (fun name => (after.lookup name).map carrierOf) =
      Function.update (fun name => (channelMap.lookup name).map carrierOf) uuid.rank
        (some ⟨chnl.spAddress, (chnl.pHash.take chnl.resourceCount.toNat).map resourceOf⟩) := by
  obtain ⟨pNode, copied, ⟨unknown, rfl⟩ | ⟨⟨entry, known⟩, rfl⟩⟩ := insertChannel_eq_ok inserted
  · obtain ⟨_, rfl⟩ := ChannelNode.assign_eq_ok.mp copied
    rw [OrderedMap.lookup_insert _ unknown, map_update]
    rfl
  · obtain ⟨_, rfl⟩ := ChannelNode.assign_eq_ok.mp copied
    rw [OrderedMap.lookup_adjust_of_find known, map_update]
    rfl

theorem registry_updateChannel {tracker after : TrackerState R} {uuid : MapStr} {change : ChannelNode → ChannelNode}
    {lastReceiveAddr : NetAddress} {env : Env} {sent : List Sent} (consistent : Consistent tracker.channelMap)
    (updated : updateChannel uuid change tracker lastReceiveAddr env = .ok (after, sent))
    {revision : Carrier (List Nat) → Carrier (List Nat)}
    (changed : ∀ stored : ChannelNode, stored.Consistent →
      (⟨(change stored).spAddress, ((change stored).pHash.take (change stored).resourceCount.toNat).map resourceOf⟩ :
        Carrier (List Nat)) = revision (carrierOf stored)) :
    registry after =
      { registry tracker with carriers := revise (registry tracker).carriers uuid.rank revision } := by
  have held : ∀ name, (registry tracker).carriers name = (tracker.channelMap.lookup name).map carrierOf :=
    fun _ => rfl
  obtain ⟨_, ⟨unknown, rfl⟩ | ⟨entry, pNode, node, known, copied, copiedToo, rfl⟩⟩ := updateChannel_eq_ok updated
  · have nobody : (registry after).carriers uuid.rank = none := by
      rw [held, OrderedMap.lookup_rank, unknown]
      rfl
    rw [revise_unknown nobody]
  · have somebody : (registry tracker).carriers uuid.rank = some (carrierOf entry.2) := by
      rw [held, OrderedMap.lookup_of_find known]
      rfl
    have whole := consistent.find known
    cases copied.symm.trans (whole.assign env.now)
    obtain ⟨_, rfl⟩ := ChannelNode.assign_eq_ok.mp copiedToo
    have taken := changed { entry.2 with lastRecvReportTime := env.now } whole
    apply registry_of_carriers rfl
    rw [OrderedMap.lookup_adjust_of_find known, map_update, revise_known somebody]
    rw [show revision (carrierOf entry.2) = _ from taken.symm]
    rfl

theorem registry_insertChannel {tracker after : TrackerState R} {uuid : MapStr} {now : Int} {chnl : ChannelNode}
    (inserted : tracker.channelMap.insertChannel now uuid chnl = .ok after.channelMap)
    (nodes : after.npnodeMap = tracker.npnodeMap) (empty : chnl.pHash = []) :
    registry after = (registry tracker).perform (.announce uuid.rank chnl.spAddress) := by
  apply registry_of_carriers nodes
  rw [carriers_insertChannel inserted, empty, List.take_nil]
  rfl

theorem registry_act {request : Request} {tracker after : TrackerState R} {lastReceiveAddr : NetAddress} {env : Env}
    {sent : List Sent} (consistent : Consistent tracker.channelMap) (counted : request.Counted)
    (adds : Adds tracker request)
    (acted : request.act tracker lastReceiveAddr env = .ok (after, sent)) :
    registry after = (registry tracker).perform
      (requestDeed (generateUuid R tracker.rng).1 lastReceiveAddr env.now request) := by
  cases request with
  | login login =>
    by_cases addresses : login.localIpListSize = 0
    · cases (getLogin_none addresses tracker lastReceiveAddr env).symm.trans acted
      rw [requestDeed, if_pos addresses]
      exact registry_congr rfl rfl
    · obtain ⟨uuid, rng, drawn⟩ : ∃ uuid rng, generateUuid R tracker.rng = (uuid, rng) := ⟨_, _, rfl⟩
      cases (getLogin_some addresses drawn lastReceiveAddr env).symm.trans acted
      have fresh : peerOf (loginNode login lastReceiveAddr env.now uuid) =
          newPeer (loginNode login lastReceiveAddr env.now uuid).clientAddress env.now :=
        congrArg (Peer.mk _ _ _) blocksOf_nil
      rw [requestDeed, if_neg addresses, drawn]
      apply registry_of_peers rfl
      rw [peers_insertNode, fresh]
      rfl
  | reqRes reqRes => exact registry_sendPeers acted fun _ _ => rfl
  | report report =>
    obtain ⟨_, acted⟩ := receiveReport_eq_ok acted
    rw [requestDeed]
    cases known : tracker.npnodeMap.getNode (.ofUuid report.uuid) with
    | none =>
      cases (getReport_unknown known lastReceiveAddr env).symm.trans acted
      split_ifs
      · rfl
      · exact (revise_peers_of_unknown known _).symm
    | some stored =>
      have ended := (getReport_known known lastReceiveAddr env).symm.trans acted
      split_ifs at ended ⊢ with nothing
      · cases ended
        rfl
      · obtain ⟨nodes, channels⟩ : after.npnodeMap =
              tracker.npnodeMap.insertNode (.ofUuid report.uuid) (NpConnector.reported stored report) ∧
            after.channelMap = tracker.channelMap := by
          cases ended
          exact ⟨rfl, rfl⟩
        exact registry_insertNode known nodes channels (adds report stored rfl known)
  | needPeers needPeers =>
    rw [requestDeed]
    cases known : tracker.npnodeMap.getNode (.ofUuid needPeers.uuid) with
    | none =>
      have nothing : getNeedPeers needPeers tracker lastReceiveAddr env = .ok (tracker, []) := by
        simp only [getNeedPeers, known]
      cases nothing.symm.trans acted
      exact (revise_peers_of_unknown known _).symm
    | some stored =>
      have answered : getNeedPeers needPeers tracker lastReceiveAddr env =
          sendPeers (.ofUuid needPeers.uuid) stored.channelIDMd5 needPeers.currentBlock tracker lastReceiveAddr
            env := by
        simp only [getNeedPeers, known]
      refine registry_sendPeers (answered.symm.trans acted) fun node same => ?_
      cases known.symm.trans same
      rfl
  | resInterval resInterval =>
    obtain ⟨last, _, ended⟩ := getResInterval_cases resInterval tracker lastReceiveAddr env
    cases ended.symm.trans acted
    exact registry_congr rfl rfl
  | logout logout =>
    cases acted
    apply registry_of_peers rfl
    rw [NpnodeMap.deleteNode, OrderedMap.lookup_erase, map_update]
    rfl
  | register register =>
    obtain ⟨uuid, rng, channelMap, drawn, inserted, same, _⟩ := getRegister_eq_ok acted
    have nodes : after.npnodeMap = tracker.npnodeMap := by rw [same]
    have channels : channelMap = after.channelMap := by rw [same]
    rw [requestDeed, drawn]
    exact registry_insertChannel (channels ▸ inserted) nodes rfl
  | status status =>
    unfold Request.act getStatus at acted
    refine registry_updateChannel consistent acted fun stored _ => ?_
    rw [List.map_take]
    rfl
  | resList resList =>
    unfold Request.act getResList at acted
    refine registry_updateChannel consistent acted fun stored _ => ?_
    have whole : (resList.resInfo.map resourceHash).take resList.resourceCount.toNat =
        resList.resInfo.map resourceHash :=
      List.take_of_length_le (by rw [List.length_map]; exact Nat.le_of_eq counted)
    show (⟨_, ((resList.resInfo.map resourceHash).take resList.resourceCount.toNat).map resourceOf⟩ : Carrier _) = _
    rw [whole, List.map_map]
    rfl
  | getSp spList =>
    obtain ⟨rfl, _⟩ := getSpList_eq_ok acted
    rfl

theorem Ordered.of_mem {npnodeMap fewer : NpnodeMap} (ordered : Ordered npnodeMap)
    (kept : ∀ entry ∈ fewer.entries, entry ∈ npnodeMap.entries) : Ordered fewer :=
  fun entry member => ordered entry (kept entry member)

theorem Ordered.insertNode {npnodeMap : NpnodeMap} (ordered : Ordered npnodeMap) (digits : MapStr) {node : NPNode}
    (formed : WellFormed node.intervalArray.intervals) : Ordered (npnodeMap.insertNode digits node) := by
  intro entry member
  rcases mem_insertNode member with ⟨_, same⟩ | ⟨_, old⟩
  · rw [same]
    exact formed
  · exact ordered entry old

theorem Ordered.getNode {npnodeMap : NpnodeMap} (ordered : Ordered npnodeMap) {digits : MapStr} {node : NPNode}
    (known : npnodeMap.getNode digits = some node) : WellFormed node.intervalArray.intervals := by
  obtain ⟨entry, listed, rfl⟩ := getNode_eq_some.mp known
  exact ordered entry (OrderedMap.find_eq_some.mp listed).1

theorem adds_of_fits {tracker : TrackerState R} {request : Request} (ordered : Ordered tracker.npnodeMap)
    (fits : Fits tracker request) : Adds tracker request := by
  rintro report stored rfl known
  obtain ⟨bounded, room⟩ := fits stored known
  exact peerOf_reported (ordered.getNode known) bounded room

theorem ordered_report {report : Np2TsReport} {tracker after : TrackerState R} {lastReceiveAddr : NetAddress}
    {env : Env} {sent : List Sent} (ordered : Ordered tracker.npnodeMap) (fits : Fits tracker (.report report))
    (acted : receiveReport report tracker lastReceiveAddr env = .ok (after, sent)) : Ordered after.npnodeMap := by
  obtain ⟨_, same | ⟨stored, node, known, rfl, changed⟩⟩ := updates_receiveReport acted
  · rw [same]
    exact ordered
  · rw [changed]
    exact ordered.insertNode _ (addAll_wellFormed (ordered.getNode known) (fits stored known).1)

theorem ordered_act {request : Request} {tracker after : TrackerState R} {lastReceiveAddr : NetAddress} {env : Env}
    {sent : List Sent} (ordered : Ordered tracker.npnodeMap) (fits : Fits tracker request)
    (acted : request.act tracker lastReceiveAddr env = .ok (after, sent)) : Ordered after.npnodeMap := by
  by_cases isReport : ∃ report, request = .report report
  · obtain ⟨report, rfl⟩ := isReport
    exact ordered_report ordered fits acted
  · obtain same | ⟨_, _, _, _, _, changed⟩ |
      ⟨uuid, stored, node, known, ⟨resHash, now, rfl⟩ | ⟨report, same, _⟩, changed⟩ |
      ⟨_, _, changed⟩ := changesNodes_act acted
    · rw [same]
      exact ordered
    · rw [changed]
      exact ordered.insertNode _ wellFormed_nil
    · have formed := ordered.getNode known
      rw [changed]
      exact ordered.insertNode uuid formed
    · exact absurd ⟨report, same⟩ isReport
    · rw [changed]
      exact ordered.of_mem fun _ member => (OrderedMap.mem_filter.mp member).1

structure Kept (tracker : TrackerState R) : Prop where
  ordered : Ordered tracker.npnodeMap
  consistent : Consistent tracker.channelMap

theorem kept_start (rng : R.State) (unset : UInt32) : Kept (.start R rng unset) where
  ordered := fun _ member => absurd member List.not_mem_nil
  consistent := fun _ member => absurd member List.not_mem_nil

theorem kept_step {tracker after : TrackerState R} {event : Event} (kept : Kept tracker) (plain : Plain tracker event)
    (taken : step tracker event = some after) : Kept after := by
  refine ⟨?_, consistent_step kept.consistent taken⟩
  obtain ⟨_, _, _, rfl⟩ | ⟨datagram, request, _, rfl, found, acted⟩ | ⟨_, _, rfl⟩ := step_cases taken
  · exact kept.ordered
  · exact ordered_act kept.ordered (plain datagram request rfl found) acted
  · exact kept.ordered.of_mem fun _ member => (OrderedMap.mem_filter.mp member).1

theorem registry_step {tracker after : TrackerState R} {event : Event} (kept : Kept tracker)
    (plain : Plain tracker event) (taken : step tracker event = some after) :
    registry after = (registry tracker).perform (eventDeed tracker event) := by
  obtain ⟨datagram, rfl, nothing, rfl⟩ | ⟨datagram, request, sent, rfl, found, acted⟩ | ⟨currTime, rfl, rfl⟩ :=
    step_cases taken
  · simp only [eventDeed, nothing]
    rfl
  · simp only [eventDeed, found]
    exact registry_act kept.consistent (counted_of_request found)
      (adds_of_fits kept.ordered (plain datagram request rfl found)) acted
  · apply registry_of_peers rfl
    funext name
    have remaining := OrderedMap.lookup_filter tracker.npnodeMap
      (fun node : NPNode => decide ¬MAX_IDLE_TIME_SEC < currTime - node.lastRecvReportTime) name
    refine (congrArg (Option.map peerOf) remaining).trans ?_
    show _ = ((tracker.npnodeMap.lookup name).map peerOf).filter
      fun peer => decide ¬MAX_IDLE_TIME_SEC < currTime - peer.since
    cases held : tracker.npnodeMap.lookup name with
    | none => rfl
    | some node =>
      simp only [Option.map_some, Option.filter_some]
      exact apply_ite (Option.map peerOf) _ _ _

def plainCheck (tracker : TrackerState R) : Event → Bool
  | .timerCheck _ => true
  | .datagram datagram =>
      match datagram.request with
      | .ok (some request) => decide (Fits tracker request)
      | _ => true

theorem plain_of_check (tracker : TrackerState R) (event : Event) (checked : plainCheck tracker event = true) :
    Plain tracker event := by
  rintro datagram request rfl found
  simpa only [plainCheck, found, decide_eq_true_eq] using checked

theorem registry_start (rng : R.State) (unset : UInt32) : registry (.start R rng unset) = Registry.empty := rfl

/-- Every run of the tracker is a run of the registry, deed by deed. -/
theorem run_is_registry {rng : R.State} {unset : UInt32} {events : List Event} {tracker : TrackerState R}
    (plain : Along step (.start R rng unset) events Plain)
    (reached : run step (.start R rng unset) events = some tracker) :
    registry tracker = Registry.empty.performAll (deeds step eventDeed (.start R rng unset) events) := by
  rw [← registry_start rng unset]
  exact run_simulates registry Registry.perform Kept Plain (fun _ _ _ kept plain taken => kept_step kept plain taken)
    (fun _ _ _ kept plain taken => registry_step kept plain taken) (kept_start rng unset) plain reached

theorem carriers_act {request : Request} {tracker after : TrackerState R} {lastReceiveAddr : NetAddress} {env : Env}
    {sent : List Sent} (consistent : Consistent tracker.channelMap) (counted : request.Counted)
    (acted : request.act tracker lastReceiveAddr env = .ok (after, sent)) :
    (registry after).carriers = carry (registry tracker).carriers
      (requestDeed (generateUuid R tracker.rng).1 lastReceiveAddr env.now request) := by
  by_cases isReport : ∃ report, request = .report report
  · obtain ⟨report, rfl⟩ := isReport
    have same : (registry after).carriers = (registry tracker).carriers := by
      unfold registry
      rw [(updates_receiveReport acted).1]
    rw [same, requestDeed]
    split_ifs <;> rfl
  · have adds : Adds tracker request := fun report _ same _ => absurd ⟨report, same⟩ isReport
    rw [registry_act consistent counted adds acted]
    rfl

theorem carriers_step {tracker after : TrackerState R} {event : Event} (consistent : Consistent tracker.channelMap)
    (taken : step tracker event = some after) :
    (registry after).carriers = carry (registry tracker).carriers (eventDeed tracker event) := by
  obtain ⟨datagram, rfl, nothing, rfl⟩ | ⟨datagram, request, sent, rfl, found, acted⟩ | ⟨currTime, rfl, rfl⟩ :=
    step_cases taken
  · simp only [eventDeed, nothing]
    rfl
  · simp only [eventDeed, found]
    exact carriers_act consistent (counted_of_request found) acted
  · rfl

theorem carriers_run {rng : R.State} {unset : UInt32} {events : List Event} {tracker : TrackerState R}
    (reached : run step (.start R rng unset) events = some tracker) :
    (registry tracker).carriers = (deeds step eventDeed (.start R rng unset) events).foldl carry fun _ => none :=
  run_simulates (fun tracker => (registry tracker).carriers) carry (fun tracker => Consistent tracker.channelMap)
    (fun _ _ => True) (fun _ _ _ consistent _ taken => consistent_step consistent taken)
    (fun _ _ _ consistent _ taken => carriers_step consistent taken) (kept_start rng unset).consistent
    (fun _ _ _ _ _ _ => trivial) reached

theorem two_reports_registry : ∃ tracker : TrackerState .counting,
    run step (.start .counting (1 : Nat) 0) Advertised.twoReports = some tracker ∧
    registry tracker = Registry.empty.performAll
      (deeds step eventDeed (.start .counting (1 : Nat) 0) Advertised.twoReports) := by
  obtain ⟨tracker, reached⟩ := Option.isSome_iff_exists.mp
    (show (run step (.start .counting (1 : Nat) 0) Advertised.twoReports).isSome by decide +kernel)
  have plain : check step plainCheck (.start .counting (1 : Nat) 0) Advertised.twoReports = true := by decide +kernel
  exact ⟨tracker, reached, run_is_registry (along_of_check plain_of_check plain) reached⟩

def LogsIn (name : List Nat) (tracker : TrackerState R) (event : Event) : Prop :=
  ∃ datagram login, event = .datagram datagram ∧ datagram.request = .ok (some (.login login)) ∧
    login.localIpListSize ≠ 0 ∧ (generateUuid R tracker.rng).1.rank = name

def ReportsBlock (name : List Nat) (block : Nat) (event : Event) : Prop :=
  ∃ datagram report, event = .datagram datagram ∧ datagram.request = .ok (some (.report report)) ∧
    (MapStr.ofUuid report.uuid).rank = name ∧ Covers lower upper report.blockinterval block

theorem login_of_join {uuid : MapStr} {lastReceiveAddr : NetAddress} {now : Int} {request : Request}
    {name : List Nat} {peer : Peer (List Nat)}
    (joins : requestDeed uuid lastReceiveAddr now request = .join name peer) :
    ∃ login, request = .login login ∧ login.localIpListSize ≠ 0 ∧ uuid.rank = name ∧ peer.blocks = ∅ := by
  cases request with
  | login login =>
    simp only [requestDeed] at joins
    split_ifs at joins with addresses
    obtain ⟨same, rfl⟩ := Deed.join.inj joins
    exact ⟨login, rfl, addresses, same, rfl⟩
  | report report =>
    simp only [requestDeed] at joins
    split_ifs at joins
  | _ => cases joins

theorem logsIn_of_join {tracker : TrackerState R} {event : Event} {name : List Nat} {peer : Peer (List Nat)}
    (joins : eventDeed tracker event = .join name peer) : LogsIn name tracker event ∧ peer.blocks = ∅ := by
  cases event with
  | timerCheck currTime => cases joins
  | datagram datagram =>
    simp only [eventDeed] at joins
    split at joins
    case h_1 request found =>
      obtain ⟨login, rfl, addresses, same, cleared⟩ := login_of_join joins
      exact ⟨⟨datagram, login, rfl, found, addresses, same⟩, cleared⟩
    case h_2 => cases joins

theorem report_of_reports {uuid : MapStr} {lastReceiveAddr : NetAddress} {now : Int} {request : Request}
    {name : List Nat} {block : Nat} (reports : (requestDeed uuid lastReceiveAddr now request).Reports name block) :
    ∃ report, request = .report report ∧ (MapStr.ofUuid report.uuid).rank = name ∧
      Covers lower upper report.blockinterval block := by
  cases request with
  | report report =>
    simp only [requestDeed] at reports
    split_ifs at reports
    · exact reports.elim
    · exact ⟨report, rfl, reports⟩
  | login login =>
    simp only [requestDeed] at reports
    split_ifs at reports <;> exact reports.elim
  | _ => exact reports.elim

theorem reports_iff {tracker : TrackerState R} {event : Event} {name : List Nat} {block : Nat} :
    (eventDeed tracker event).Reports name block ↔ ReportsBlock name block event := by
  constructor
  · intro reports
    cases event with
    | timerCheck currTime => exact reports.elim
    | datagram datagram =>
      simp only [eventDeed] at reports
      split at reports
      case h_1 request found =>
        obtain ⟨report, rfl, same, lists⟩ := report_of_reports reports
        exact ⟨datagram, report, rfl, found, same, lists⟩
      case h_2 => exact reports.elim
  · rintro ⟨datagram, report, rfl, found, same, lists⟩
    have counts : report.intervalCount ≠ 0 := by
      intro zero
      have counted : report.blockinterval.length = report.intervalCount.toNat := counted_of_request found
      rw [zero] at counted
      rw [List.length_eq_zero_iff.mp counted] at lists
      exact not_covers_nil _ lists
    simp only [eventDeed, found, requestDeed, if_neg counts]
    exact ⟨same, lists⟩

/-- A peer is found for the blocks that it has listed in any of its reports since it was given its
uuid, and for no others. -/
theorem found_iff_reported {rng : R.State} {unset : UInt32} {events : List Event} {tracker : TrackerState R}
    (plain : Along step (.start R rng unset) events Plain)
    (reached : run step (.start R rng unset) events = some tracker) {digits : MapStr} {node : NPNode}
    (known : tracker.npnodeMap.getNode digits = some node) :
    ∃ past login later before after, events = past ++ login :: later ∧
      run step (.start R rng unset) past = some before ∧ step before login = some after ∧
      LogsIn digits.rank before login ∧
      (Along step after later fun state event => ¬(eventDeed state event).Renames digits.rank) ∧
      ∀ blockID : UInt32, node.intervalArray.findBlock blockID = true ↔
        ∃ event ∈ later, ReportsBlock digits.rank blockID.toNat event := by
  have held := peers_of_getNode known
  rw [run_is_registry plain reached] at held
  obtain ⟨past, joined, later, split, same, blocks⟩ := blocks_since_join held
  obtain ⟨before, login, behind, state, next, divided, early, taken, joins, remaining, rfl⟩ :=
    deeds_split reached split
  obtain ⟨logsIn, cleared⟩ := logsIn_of_join joins.symm
  refine ⟨before, login, behind, state, next, divided, early, taken, logsIn,
    along_deeds (fun deed : Deed (List Nat) (List Nat) => ¬deed.Renames digits.rank) same, fun blockID => ?_⟩
  have kept := run_along Kept Plain (fun _ _ _ kept plain taken => kept_step kept plain taken) (kept_start rng unset)
    plain reached
  rw [findBlock_iff (kept.ordered.getNode known)]
  refine (blocks blockID.toNat).trans ?_
  rw [cleared, or_iff_right (Set.notMem_empty _)]
  exact exists_mem_deeds remaining fun _ _ => reports_iff

theorem two_reports_found : ∃ (tracker : TrackerState .counting) (node : NPNode),
    run step (.start .counting (1 : Nat) 0) Advertised.twoReports = some tracker ∧
    tracker.npnodeMap.getNode (uuidOf ⟨5, 6, 7, 8⟩) = some node ∧
    ∃ past login later, Advertised.twoReports = past ++ login :: later ∧
      ∀ blockID : UInt32, node.intervalArray.findBlock blockID = true ↔
        ∃ event ∈ later, ReportsBlock (uuidOf ⟨5, 6, 7, 8⟩).rank blockID.toNat event := by
  obtain ⟨tracker, reached, present⟩ := (Option.any_eq_true _ _).mp
    (show (run step (.start .counting (1 : Nat) 0) Advertised.twoReports).any (fun tracker =>
      (tracker.npnodeMap.getNode (uuidOf ⟨5, 6, 7, 8⟩)).isSome) = true by decide +kernel)
  obtain ⟨node, known⟩ := Option.isSome_iff_exists.mp present
  have plain : check step plainCheck (.start .counting (1 : Nat) 0) Advertised.twoReports = true := by decide +kernel
  obtain ⟨past, login, later, _, _, split, _, _, _, _, found⟩ :=
    found_iff_reported (along_of_check plain_of_check plain) reached known
  exact ⟨tracker, node, reached, known, past, login, later, split, found⟩

end RabbitStreamer.Tracker.Refinement
