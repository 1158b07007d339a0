import RabbitStreamer.Sp.ChannelIdentity
import RabbitStreamer.Sp.Registration
import RabbitStreamer.Tracker.Answers

/-! Super peers that take blocks from capture servers and tell the tracker of them, over a network
that may lose, repeat, delay and reorder what is sent. -/

namespace RabbitStreamer.Sp.Announcements
open RabbitStreamer.Lib RabbitStreamer.Lib.Bytes RabbitStreamer.Lib.Codec RabbitStreamer.Lib.CString
open RabbitStreamer.Lib.Memory RabbitStreamer.Lib.SlidingWindow RabbitStreamer.Lib.Transition
open RabbitStreamer.Core.Struct RabbitStreamer.Core.StructDefine RabbitStreamer.Core.Streamer
open RabbitStreamer.Core.Message RabbitStreamer.Core.Message.P2PMESSAGE RabbitStreamer.Core.MessageCodec
open RabbitStreamer.Protocol.BufferQueue RabbitStreamer.Sp.SourceManager RabbitStreamer.Sp.SourceManager.SourceMap
open RabbitStreamer.Sp.CsConnector RabbitStreamer.Sp.BlockRelay RabbitStreamer.Sp.ChannelIdentity
open RabbitStreamer.Sp.TrackerConnector RabbitStreamer.Sp.Registration
open RabbitStreamer.Tracker.Uuid RabbitStreamer.Tracker.State
open RabbitStreamer.Tracker.SpConnector (resourceHash)
open RabbitStreamer.Tracker.Server RabbitStreamer.Tracker.Identity RabbitStreamer.Tracker.StreamerManager
open RabbitStreamer.Tracker.Membership RabbitStreamer.Tracker.Refinement RabbitStreamer.Tracker.Answers

/-- The super peers and the tracker, and what each super peer has taken from its capture servers. -/
structure Relay (R : Rand) (ι : Type) where
  world : World R ι
  recorded : ι → Recorded

/-- What happens: a message of a capture server besides what happens between super peers and
tracker. -/
inductive Happening (ι : Type) where
  | capture (peer : ι) (event : CsEvent)
  | timeout (peer : ι) (timerid : Int) (heap : Heap)
  | packet (peer : ι) (payload : List UInt8) (heap : Heap)
  | tracker (event : Tracker.Server.Event)

variable {R : Rand} {ι : Type} [DecidableEq ι] {md5 : List UInt8 → ByteArr MD5_LEN} {address : ι → NetAddress}

namespace Relay

def start (rng : R.State) (unset : UInt32) (area : ι → Memory) (spId : ι → ByteArr UUID_LENGTH)
    (chnlHash : ι → Nat → MD5HashStr) : Relay R ι :=
  ⟨.start rng unset area spId, fun peer => CsConnector.start (chnlHash peer)⟩

def host (relay : Relay R ι) (peer : ι) (heap : Heap) : Host := ⟨heap, (relay.recorded peer).peer.sources⟩

def captured (relay : Relay R ι) (peer : ι) : Option Recorded → Relay R ι
  | none => { relay with world := { relay.world with peers := Function.update relay.world.peers peer none } }
  | some next => { relay with recorded := Function.update relay.recorded peer next }

end Relay

def holds : Tracker.Server.Event → Bool
  | .timerCheck _ => true
  | .datagram datagram => datagram.nbBuf ≤ 65535

def stepRelay (md5 : List UInt8 → ByteArr MD5_LEN) (address : ι → NetAddress) (relay : Relay R ι) :
    Happening ι → Option (Relay R ι)
  | .capture peer event =>
      (relay.world.peers peer).map fun _ => relay.captured peer (CsConnector.step md5 (relay.recorded peer) event)
  | .timeout peer timerid heap =>
      (stepWorld address relay.world (.timeout peer timerid (relay.host peer heap))).map fun world =>
        { relay with world }
  | .packet peer payload heap =>
      (stepWorld address relay.world (.packet peer payload (relay.host peer heap))).map fun world =>
        { relay with world }
  | .tracker event =>
      if holds event then (stepWorld address relay.world (.tracker event)).map fun world => { relay with world }
      else none

def window (count : Nat) : BlockInterval :=
  ⟨UInt32.ofNat (oldest MAX_BUFFER_SIZE count), UInt32.ofNat (count - oldest MAX_BUFFER_SIZE count)⟩

def Had (recorded : Recorded) (resource : List Nat × BlockInterval) : Prop :=
  ∃ hash count, channelText hash = resource.1 ∧ count ≤ (onChannel recorded.fills hash).length ∧
    count < 2147483648 ∧ resource.2 = window count

def Honest (channelMap : ChannelMap) (address : NetAddress) (recorded : Recorded) : Request → Prop
  | .resList resList => Registered channelMap (.ofUuid resList.spUuid) address ∧
      ∀ info ∈ resList.resInfo, Had recorded (resourceOf (resourceHash info))
  | .register _ | .getSp _ => True
  | _ => False

/-- The super peers have fewer channels, and fewer blocks on each, than an `int` counts. -/
def Bounded (relay : Relay R ι) : Prop :=
  ∀ peer, 25 + 40 * (relay.recorded peer).peer.sources.size < 2147483648 ∧
    ∀ hash, (onChannel (relay.recorded peer).fills hash).length < 2147483648

/-- The generator gives to a registration another text than to each one before. -/
def Distinct (relay : Relay R ι) : Happening ι → Prop
  | .tracker event => DistinctUuids relay.world (.tracker event : Registration.Event ι)
  | _ => True

structure Truthful (md5 : List UInt8 → ByteArr MD5_LEN) (address : ι → NetAddress) (relay : Relay R ι) : Prop where
  agreed : Agreed address relay.world
  lists : Tracker.ResourceList.Consistent relay.world.drawn.tracker.channelMap
  consistent : ∀ peer, BlockRelay.Consistent (relay.recorded peer).peer.sources (relay.recorded peer).fills
  keyed : ∀ peer, Keyed md5 (relay.recorded peer).peer.sources
  sent : ∀ packet ∈ relay.world.toTracker, ∃ peer request, packet.address = address peer ∧
    packet.payload = frame request.tag request.body ∧ request.Counted ∧
    Honest relay.world.drawn.tracker.channelMap (address peer) (relay.recorded peer) request
  held : ∀ name carrier, (registry relay.world.drawn.tracker).carriers name = some carrier →
    ∀ resource ∈ carrier.resources, ∃ peer, carrier.address.same (address peer) = true ∧
      Had (relay.recorded peer) resource

theorem Had.of_grown {recorded next : Recorded} {resource : List Nat × BlockInterval} (had : Had recorded resource)
    (grown : recorded.fills <+: next.fills) : Had next resource := by
  obtain ⟨hash, count, text, reached, few, interval⟩ := had
  exact ⟨hash, count, text, reached.trans (onChannel_grows grown hash).length_le, few, interval⟩

theorem Honest.mono {channelMap after : ChannelMap} {place : NetAddress} {recorded next : Recorded}
    {request : Request} (honest : Honest channelMap place recorded request) (grown : recorded.fills <+: next.fills)
    (persists : ∀ uuid, Registered channelMap uuid place → Registered after uuid place) :
    Honest after place next request := by
  cases request with
  | resList resList => exact ⟨persists _ honest.1, fun info among => (honest.2 info among).of_grown grown⟩
  | register _ | getSp _ => trivial
  | _ => exact honest.elim

theorem channelText_resourceInfo (source : SourceStatus) :
    channelText (resourceHash (resourceInfo source)) = channelText source.chnlHash := by
  have length : (source.chnlHash.hash.data.take MD5_LEN).length = MD5_LEN := by
    rw [List.length_take, source.chnlHash.hash.size]
    rfl
  refine text_congr _ _ _ _
    (Eq.trans (characters_ofMd5 (.ofList MD5_LEN (source.chnlHash.hash.data.take MD5_LEN)) _) ?_)
  exact ByteArr.ofList_of_length _ length

theorem had_source {recorded : Recorded} (consistent : BlockRelay.Consistent recorded.peer.sources recorded.fills)
    (keyed : Keyed md5 recorded.peer.sources)
    (few : ∀ hash, (onChannel recorded.fills hash).length < 2147483648) {source : SourceStatus}
    (listed : source ∈ recorded.peer.sources.getSourceList) :
    Had recorded (resourceOf (resourceHash (resourceInfo source))) := by
  have spelled := channelText_resourceInfo source
  obtain ⟨entry, stored, rfl⟩ := List.mem_map.mp listed
  have short := few entry.1
  have interval := (consistent.queues entry stored (Nat.le_of_lt short)).interval
    (by rw [List.length_map]; exact short)
  rw [List.length_map] at interval
  have difference : wrap32 (((onChannel recorded.fills entry.1).length : Int) -
      (oldest MAX_BUFFER_SIZE (onChannel recorded.fills entry.1).length : Nat)) =
      ((onChannel recorded.fills entry.1).length -
        oldest MAX_BUFFER_SIZE (onChannel recorded.fills entry.1).length : Nat) := by
    have below : oldest MAX_BUFFER_SIZE (onChannel recorded.fills entry.1).length ≤ _ := Nat.sub_le _ _
    rw [wrap32_of_isInt32 (by unfold IsInt32; omega)]
    omega
  refine ⟨entry.1, (onChannel recorded.fills entry.1).length, ?_, Nat.le_refl _, short, ?_⟩
  · exact (congrArg channelText (keyed.keys entry stored)).symm.trans spelled.symm
  · show BlockInterval.mk _ _ = _
    rw [interval, difference, ofInt32_natCast, ofInt32_natCast]
    rfl

def Speaks (sp : RsSpTrackerProtocol) (host : Host) (payload : List UInt8) : Prop :=
  ∃ request : Request, payload = frame request.tag request.body ∧ request.Counted ∧
    (request = .register (registerMsg sp) ∨ request = .getSp ⟨sp.spId⟩ ∨
      sp.registerFlag = true ∧ request = .resList (resListMsg sp host.sources.getSourceList))

theorem sent_writePacked {M : Type} [RsMessage M] [RsParsed M] {message : M} {tag : UInt8} {body : List UInt8}
    (encodes : Encodes message tag body) (small : RsMessage.reservePackSize message < 2147483648)
    {sp after : RsSpTrackerProtocol} {host : Host} {sent : List (List UInt8)}
    (written : writePacked message sp host = .ok (after, sent)) : sent = [frame tag body] := by
  rw [writePacked, encodes.pack small] at written
  exact (Prod.mk.inj (Except.ok.inj written)).2.symm

theorem Speaks.received {sp : RsSpTrackerProtocol} {host : Host} {payload : List UInt8} {area : Memory}
    {recvBuf : Nat}
    (speaks : Speaks { sp with area, recvBuf } host payload) : Speaks sp host payload := speaks

section Speech
variable {sp after : RsSpTrackerProtocol} {host : Host} {sent : List (List UInt8)}

theorem speaks_sendRegister (called : sendRegister sp host = .ok (after, sent)) :
    ∀ payload ∈ sent, Speaks sp host payload := by
  rw [sendRegister] at called
  rw [sent_writePacked (encodes_register _) (by simp [RsMessage.reservePackSize, basePackSize, MD5_LEN]) called]
  intro payload member
  exact ⟨.register (registerMsg sp), List.mem_singleton.mp member, trivial, Or.inl rfl⟩

theorem speaks_sendSpList (called : sendSpList sp host = .ok (after, sent)) :
    ∀ payload ∈ sent, Speaks sp host payload := by
  rw [sendSpList] at called
  rw [sent_writePacked (encodes_getSp _) (by simp [RsMessage.reservePackSize, basePackSize, UUID_LENGTH]) called]
  intro payload member
  exact ⟨.getSp ⟨sp.spId⟩, List.mem_singleton.mp member, trivial, Or.inr (Or.inl rfl)⟩

theorem silent_getWelcome {temp : Nat} {msgSize : Int}
    (called : getWelcome temp msgSize sp host = .ok (after, sent)) :
    sent = [] := by
  unfold getWelcome at called
  split at called
  · cases called
  · split_ifs at called
    cases called
    rfl

variable (few : 25 + 40 * host.sources.size < 2147483648)
include few

theorem speaks_sendResList (flag : sp.registerFlag = true) (called : sendResList sp host = .ok (after, sent)) :
    ∀ payload ∈ sent, Speaks sp host payload := by
  have length : host.sources.getSourceList.length = host.sources.size := List.length_map ..
  have count : (UInt32.ofNat host.sources.getSourceList.length).toNat = host.sources.getSourceList.length :=
    UInt32.toNat_ofNat_of_lt' (by rw [length]; show _ < 4294967296; omega)
  have counted : (resListMsg sp host.sources.getSourceList).resInfo.length =
      (resListMsg sp host.sources.getSourceList).resourceCount.toNat := (List.length_map ..).trans count.symm
  unfold sendResList at called
  dsimp only at called
  split_ifs at called
  · rw [← (Prod.mk.inj (Except.ok.inj called)).2]
    exact fun _ member => absurd member List.not_mem_nil
  · have small : RsMessage.reservePackSize (resListMsg sp host.sources.getSourceList) < 2147483648 := by
      have size : RsMessage.reservePackSize (resListMsg sp host.sources.getSourceList) =
        basePackSize + UUID_LENGTH + 4 + (UInt32.ofNat host.sources.getSourceList.length).toNat * 40 := rfl
      rw [size, count, length]
      unfold basePackSize UUID_LENGTH
      omega
    rw [sent_writePacked (encodes_resList _ counted) small called]
    intro payload member
    exact ⟨.resList (resListMsg sp host.sources.getSourceList), List.mem_singleton.mp member, counted,
      Or.inr (Or.inr ⟨flag, rfl⟩)⟩

theorem speaks_handleTimeout (timerid : Int) (called : handleTimeout timerid sp host = .ok (after, sent)) :
    ∀ payload ∈ sent, Speaks sp host payload := by
  unfold handleTimeout at called
  split_ifs at called with unregistered
  · exact speaks_sendRegister called
  · exact speaks_sendResList few (by simpa using unregistered) called
  · exact speaks_sendSpList called
  · rw [← (Prod.mk.inj (Except.ok.inj called)).2]
    exact fun _ member => absurd member List.not_mem_nil

theorem speaks_getResInterval (called : getResInterval sp host = .ok (after, sent)) :
    ∀ payload ∈ sent, Speaks sp host payload := by
  unfold getResInterval at called
  split_ifs at called with flag
  · exact speaks_sendResList few flag called
  · exact speaks_sendRegister called

theorem speaks_loop (payload : List UInt8) (called : loop payload sp host = .ok (after, sent)) :
    ∀ out ∈ sent, Speaks sp host out := by
  unfold loop at called
  split_ifs at called
  · cases called
    exact fun _ member => absurd member List.not_mem_nil
  · dsimp only at called
    split_ifs at called
    · rw [silent_getWelcome called]
      exact fun _ member => absurd member List.not_mem_nil
    · cases called
      exact fun _ member => absurd member List.not_mem_nil
    · exact fun out member => (speaks_getResInterval few called out member).received
    · cases called
      exact fun _ member => absurd member List.not_mem_nil

end Speech

theorem mem_toTracker_call {world after : World R ι} {peer : ι} {call : Call} {host : Host}
    (called : world.call address peer call host = some after) {packet : Packet} (member : packet ∈ after.toTracker) :
    packet ∈ world.toTracker ∨ ∃ sp next sent payload, world.peers peer = some sp ∧
      call sp host = .ok (next, sent) ∧ payload ∈ sent ∧ packet = ⟨address peer, payload⟩ := by
  obtain ⟨sp, known, rfl⟩ := Option.map_eq_some_iff.mp called
  cases result : call sp host with
  | error reason =>
    simp only [result] at member
    exact Or.inl member
  | ok pair =>
    simp only [result] at member
    rcases List.mem_append.mp member with new | old
    · obtain ⟨payload, out, rfl⟩ := List.mem_map.mp new
      exact Or.inr ⟨sp, pair.1, pair.2, payload, known, result, out, rfl⟩
    · exact Or.inl old

omit [DecidableEq ι] in
theorem honest_of_speaks {relay : Relay R ι} (truthful : Truthful md5 address relay) {peer : ι}
    (few : ∀ hash, (onChannel (relay.recorded peer).fills hash).length < 2147483648) {sp : RsSpTrackerProtocol}
    (running : relay.world.peers peer = some sp) {heap : Heap} {payload : List UInt8}
    (speaks : Speaks sp (relay.host peer heap) payload) : ∃ request : Request,
      payload = frame request.tag request.body ∧ request.Counted ∧
      Honest relay.world.drawn.tracker.channelMap (address peer) (relay.recorded peer) request := by
  obtain ⟨request, same, counted, rfl | rfl | ⟨flag, rfl⟩⟩ := speaks
  · exact ⟨_, same, counted, trivial⟩
  · exact ⟨_, same, counted, trivial⟩
  · refine ⟨_, same, counted, truthful.agreed.registered peer sp running flag, fun info among => ?_⟩
    obtain ⟨source, listed, rfl⟩ := List.mem_map.mp among
    exact had_source (truthful.consistent peer) (truthful.keyed peer) few listed

theorem truthful_call {relay : Relay R ι} (truthful : Truthful md5 address relay) {peer : ι} {call : Call}
    {heap : Heap} {world : World R ι} (few : ∀ hash, (onChannel (relay.recorded peer).fills hash).length < 2147483648)
    (called : relay.world.call address peer call (relay.host peer heap) = some world) (agreed : Agreed address world)
    (speaks : ∀ sp next sent, call sp (relay.host peer heap) = .ok (next, sent) →
      ∀ payload ∈ sent, Speaks sp (relay.host peer heap) payload) :
    Truthful md5 address { relay with world } := by
  obtain ⟨_, _, drawn, _⟩ := call_eq_some called
  constructor
  case agreed => exact agreed
  case lists => exact drawn ▸ truthful.lists
  case consistent => exact truthful.consistent
  case keyed => exact truthful.keyed
  case sent =>
    intro packet member
    dsimp only at member ⊢
    rw [drawn]
    rcases mem_toTracker_call called member with old | ⟨sp, next, sent, payload, running, result, out, rfl⟩
    · exact truthful.sent packet old
    · obtain ⟨request, facts⟩ := honest_of_speaks truthful few running (speaks sp next sent result payload out)
      exact ⟨peer, request, rfl, facts⟩
  case held =>
    dsimp only
    rw [drawn]
    exact truthful.held

theorem truthful_captured {relay : Relay R ι} (truthful : Truthful md5 address relay) (peer : ι) (event : CsEvent) :
    Truthful md5 address (relay.captured peer (CsConnector.step md5 (relay.recorded peer) event)) := by
  cases taken : CsConnector.step md5 (relay.recorded peer) event with
  | none =>
    refine ⟨?_, truthful.lists, truthful.consistent, truthful.keyed, truthful.sent, truthful.held⟩
    refine ⟨truthful.agreed.issued, truthful.agreed.welcomes, fun other sp running flag => ?_⟩
    have apart : other ≠ peer := by
      rintro rfl
      simp [Relay.captured] at running
    refine truthful.agreed.registered other sp ?_ flag
    simpa [Relay.captured, apart] using running
  | some next =>
    obtain ⟨more, same⟩ := step_fills taken
    have grown : ∀ other, (relay.recorded other).fills <+:
        (Function.update relay.recorded peer next other).fills := by
      intro other
      by_cases self : other = peer
      · rw [self, Function.update_self, same]
        exact List.prefix_append _ _
      · rw [Function.update_of_ne self]
    have own : ∀ {holds : SourceMap → List Fill → Prop}, Kept md5 holds →
        (∀ other, holds (relay.recorded other).peer.sources (relay.recorded other).fills) →
        ∀ other, holds (Function.update relay.recorded peer next other).peer.sources
          (Function.update relay.recorded peer next other).fills := by
      intro holds kept before other
      by_cases self : other = peer
      · rw [self, Function.update_self]
        exact kept.step (before peer) taken
      · rw [Function.update_of_ne self]
        exact before other
    refine ⟨truthful.agreed, truthful.lists, own (kept_consistent md5) truthful.consistent,
      own (kept_keyed md5) truthful.keyed, fun packet member => ?_, fun name carrier known resource among => ?_⟩
    · obtain ⟨speaker, request, source, payload, counted, honest⟩ := truthful.sent packet member
      exact ⟨speaker, request, source, payload, counted, honest.mono (grown speaker) fun _ => id⟩
    · obtain ⟨speaker, place, had⟩ := truthful.held name carrier known resource among
      exact ⟨speaker, place, had.of_grown (grown speaker)⟩

theorem Honest.connector {channelMap : ChannelMap} {place : NetAddress} {recorded : Recorded} {request : Request}
    (honest : Honest channelMap place recorded request) : request.connector = .sp := by
  cases request <;> first | rfl | exact honest.elim

omit [DecidableEq ι] in
theorem honest_of_received {relay : Relay R ι} (truthful : Truthful md5 address relay) {datagram : Datagram}
    (fits : holds (.datagram datagram) = true)
    (underWay : wasSent relay.world.toTracker (.datagram datagram) = true) {resList : Sp2TsResList}
    (found : datagram.request = .ok (some (.resList resList))) : ∃ peer,
      Honest relay.world.drawn.tracker.channelMap (address peer) (relay.recorded peer) (.resList resList) := by
  have side : datagram.connector = .sp := (connector_of_request found).symm
  simp only [wasSent, side, List.contains_iff_mem] at underWay
  obtain ⟨peer, request, _, packet, counted, honest⟩ := truthful.sent _ underWay
  have carries : datagram.Carries request :=
    ⟨side.trans honest.connector.symm, ⟨packet, of_decide_eq_true fits⟩, counted⟩
  cases carries.request.symm.trans found
  exact ⟨peer, honest⟩

theorem carrier_of_registered {tracker : TrackerState R} {uuid : MapStr} {place : NetAddress}
    (registered : Registered tracker.channelMap uuid place) {carrier : Carrier (List Nat)}
    (known : (registry tracker).carriers uuid.rank = some carrier) : carrier.address.same place = true := by
  obtain ⟨entry, found, same⟩ := registered
  obtain ⟨stored, rank⟩ := OrderedMap.find_eq_some.mp found
  have held := carriers_of_mem stored
  rw [rank, known] at held
  cases held
  exact same

theorem truthful_tracker {relay : Relay R ι} (truthful : Truthful md5 address relay) {event : Tracker.Server.Event}
    (fits : holds event = true) (distinct : DistinctUuids relay.world (.tracker event : Registration.Event ι))
    {world : World R ι} (taken : stepWorld address relay.world (.tracker event) = some world) :
    Truthful md5 address { relay with world } := by
  have agreed := agreed_step truthful.agreed distinct taken
  simp only [stepWorld] at taken
  split_ifs at taken with underWay
  obtain ⟨drawn, stepped, rfl⟩ := Option.map_eq_some_iff.mp taken
  have moved : step relay.world.drawn.tracker event = some drawn.tracker := by
    obtain ⟨tracker, moved, rfl⟩ := Option.map_eq_some_iff.mp stepped
    exact moved
  have persists : ∀ place uuid, Registered relay.world.drawn.tracker.channelMap uuid place →
      Registered drawn.tracker.channelMap uuid place := fun _ _ =>
    registered_persists truthful.agreed.issued distinct moved
  refine ⟨agreed, Tracker.ResourceList.consistent_step truthful.lists moved, truthful.consistent, truthful.keyed,
    ?_, ?_⟩
  · intro packet member
    obtain ⟨speaker, request, source, payload, counted, honest⟩ := truthful.sent packet member
    exact ⟨speaker, request, source, payload, counted, honest.mono (List.prefix_refl _) (persists _)⟩
  · intro name carrier known resource among
    rw [carriers_step truthful.lists moved] at known
    by_cases restocks : (eventDeed relay.world.drawn.tracker event).Restocks name
    · cases deed : eventDeed relay.world.drawn.tracker event with
      | announce other place =>
        rw [deed] at known restocks
        cases restocks
        rw [carry, Function.update_self] at known
        cases known
        exact absurd among List.not_mem_nil
      | stock other resources =>
        rw [deed] at known restocks
        cases restocks
        rw [carry, revise, Function.update_self] at known
        obtain ⟨before, present, rfl⟩ := Option.map_eq_some_iff.mp known
        obtain ⟨datagram, resList, rfl, found, rfl, rfl⟩ := event_of_stock deed
        obtain ⟨peer, registered, had⟩ := honest_of_received truthful fits underWay found
        obtain ⟨info, listed, rfl⟩ := List.mem_map.mp among
        have place := carrier_of_registered registered present
        exact ⟨peer, place, had info listed⟩
      | _ =>
        rw [deed] at restocks
        exact restocks.elim
    · obtain ⟨before, present, place, fewer⟩ := resources_carry known restocks
      obtain ⟨peer, same, had⟩ := truthful.held name before present resource (fewer resource among)
      exact ⟨peer, place ▸ same, had⟩

theorem truthful_step {relay after : Relay R ι} {event : Happening ι} (truthful : Truthful md5 address relay)
    (bounded : Bounded relay) (distinct : Distinct relay event)
    (taken : stepRelay md5 address relay event = some after) : Truthful md5 address after := by
  cases event with
  | capture peer event =>
    obtain ⟨_, _, rfl⟩ := Option.map_eq_some_iff.mp taken
    exact truthful_captured truthful peer event
  | timeout peer timerid heap =>
    obtain ⟨world, stepped, rfl⟩ := Option.map_eq_some_iff.mp taken
    have agreed := agreed_step truthful.agreed (show DistinctUuids relay.world (.timeout ..) from trivial) stepped
    exact truthful_call truthful (bounded peer).2 stepped agreed
      fun _ _ _ called => speaks_handleTimeout (bounded peer).1 timerid called
  | packet peer payload heap =>
    obtain ⟨world, stepped, rfl⟩ := Option.map_eq_some_iff.mp taken
    have agreed := agreed_step truthful.agreed (show DistinctUuids relay.world (.packet ..) from trivial) stepped
    simp only [stepWorld] at stepped
    split_ifs at stepped
    exact truthful_call truthful (bounded peer).2 stepped agreed
      fun _ _ _ called => speaks_loop (bounded peer).1 payload called
  | tracker event =>
    simp only [stepRelay] at taken
    split_ifs at taken with fits
    obtain ⟨world, stepped, rfl⟩ := Option.map_eq_some_iff.mp taken
    exact truthful_tracker truthful fits distinct stepped

omit [DecidableEq ι] in
theorem truthful_start (rng : R.State) (unset : UInt32) (area : ι → Memory) (spId : ι → ByteArr UUID_LENGTH)
    (chnlHash : ι → Nat → MD5HashStr) :
    Truthful md5 address (Relay.start rng unset area spId chnlHash : Relay R ι) where
  agreed := by
    refine ⟨fun _ member => absurd member List.not_mem_nil, fun _ member => absurd member List.not_mem_nil,
      fun peer sp running flag => ?_⟩
    cases running
    cases flag
  lists := fun _ member => absurd member List.not_mem_nil
  consistent := fun peer => consistent_start (chnlHash peer)
  keyed := fun _ => keyed_empty md5
  sent := fun _ member => absurd member List.not_mem_nil
  held := by
    intro name carrier known
    cases known

theorem truthful_run {rng : R.State} {unset : UInt32} {area : ι → Memory} {spId : ι → ByteArr UUID_LENGTH}
    {chnlHash : ι → Nat → MD5HashStr} {events : List (Happening ι)} {relay : Relay R ι}
    (bounded : Along (stepRelay md5 address) (.start rng unset area spId chnlHash) events
      fun relay _ => Bounded relay)
    (distinct : Along (stepRelay md5 address) (.start rng unset area spId chnlHash) events Distinct)
    (reached : run (stepRelay md5 address) (.start rng unset area spId chnlHash) events = some relay) :
    Truthful md5 address relay :=
  run_along (Truthful md5 address) (fun relay event => Bounded relay ∧ Distinct relay event)
    (fun _ _ _ truthful both taken => truthful_step truthful both.1 both.2 taken)
    (truthful_start rng unset area spId chnlHash)
    (fun past event rest relay split early =>
      ⟨bounded past event rest relay split early, distinct past event rest relay split early⟩) reached

theorem below_of_window {count id : Nat} (few : count < 2147483648)
    (before : id < (window count).start.toNat + (window count).size.toNat) : id < count := by
  have below : oldest MAX_BUFFER_SIZE count ≤ count := Nat.sub_le _ _
  have start : (window count).start.toNat = oldest MAX_BUFFER_SIZE count :=
    UInt32.toNat_ofNat_of_lt' (by show _ < 4294967296; omega)
  have size : (window count).size.toNat = count - oldest MAX_BUFFER_SIZE count :=
    UInt32.toNat_ofNat_of_lt' (by show _ < 4294967296; omega)
  omega

/-- Each block in an interval that the tracker has for a channel of a super peer is one that this
super peer has taken on that channel, and that it finds unless the ring has come round since: the
tracker may be behind, and is never ahead. -/
theorem advertised_blocks_taken {rng : R.State} {unset : UInt32} {area : ι → Memory} {spId : ι → ByteArr UUID_LENGTH}
    {chnlHash : ι → Nat → MD5HashStr} {events : List (Happening ι)} {relay : Relay R ι}
    (bounded : Along (stepRelay md5 address) (.start rng unset area spId chnlHash) events
      fun relay _ => Bounded relay)
    (distinct : Along (stepRelay md5 address) (.start rng unset area spId chnlHash) events Distinct)
    (reached : run (stepRelay md5 address) (.start rng unset area spId chnlHash) events = some relay)
    (now : Bounded relay) :
    ∀ entry ∈ relay.world.drawn.tracker.channelMap.entries, ∀ hash ∈ entry.2.pHash, ∀ id : Nat,
      id < hash.blockInterval.start.toNat + hash.blockInterval.size.toNat →
      ∃ peer own fill, entry.2.spAddress.same (address peer) = true ∧ own.same hash = true ∧
        (onChannel (relay.recorded peer).fills own)[id]? = some fill ∧
        (oldest MAX_BUFFER_SIZE (onChannel (relay.recorded peer).fills own).length ≤ id →
          ∃ slot buf, (relay.recorded peer).peer.sources.dequeueBlock own id =
            some (ERROR_SUCCESS, some (slot, buf)) ∧ Stores buf fill.block) := by
  intro entry stored hash listed id before
  have truthful := truthful_run bounded distinct reached
  obtain ⟨peer, place, own, count, text, grown, few, interval⟩ := truthful.held _ _
    (carriers_of_mem stored) (resourceOf hash) (List.mem_map_of_mem listed)
  have same : hash.blockInterval = window count := interval
  rw [same] at before
  have inside := Nat.lt_of_lt_of_le (below_of_window few before) grown
  have taken := List.getElem?_eq_getElem inside
  exact ⟨peer, own, _, place, channelText_eq_iff.mp text, taken,
    found_of_taken (truthful.consistent peer) ((now peer).2 own) taken⟩

def soundCheck (relay : Relay .counting Unit) (event : Happening Unit) : Bool :=
  decide (25 + 40 * (relay.recorded ()).peer.sources.size < 2147483648) &&
    decide ((relay.recorded ()).fills.length < 2147483648) &&
    match event with
    | .tracker event => decide (DistinctUuids relay.world (.tracker event : Registration.Event Unit))
    | _ => true

theorem sound_of_check (relay : Relay .counting Unit) (event : Happening Unit)
    (passed : soundCheck relay event = true) :
    Bounded relay ∧ Distinct relay event := by
  simp only [soundCheck, Bool.and_eq_true, decide_eq_true_eq] at passed
  obtain ⟨⟨channels, blocks⟩, distinct⟩ := passed
  refine ⟨fun _ => ⟨channels, fun hash => ?_⟩, ?_⟩
  · exact Nat.lt_of_le_of_lt (List.length_filter_le ..) blocks
  · cases event with
    | tracker event =>
      have drawn : DistinctUuids relay.world (.tracker event : Registration.Event Unit) := of_decide_eq_true distinct
      exact drawn
    | _ => trivial

def oneBlock : List (Happening Unit) :=
  let heap : Heap := fun _ => 0
  let resList : Request := .resList ⟨(uuidOf ⟨1, 2, 3, 4⟩).uuid, 1, [⟨.fill _ 97, ⟨0, 1⟩⟩]⟩
  [.timeout () 0 heap,
    .tracker (.datagram ((Request.register ⟨0x04030201, .fill _ 0, 2222⟩).datagram (twoPeers false) second100)),
    .packet () (Tracker.SpConnector.welcomeFrame (uuidOf ⟨1, 2, 3, 4⟩)) heap,
    .capture () (registerEvent BlockRelay.quiet), .capture () (blockEvent BlockRelay.quiet 0 4),
    .timeout () 0 heap, .tracker (.datagram (resList.datagram (twoPeers false) second100))]

theorem one_block_advertised : ∃ relay : Relay .counting Unit,
    run (stepRelay digest fun _ => twoPeers false)
      (.start (1 : Nat) 0 (fun _ _ => 0) (fun _ => .fill _ 0) fun _ => blank) oneBlock = some relay ∧
    ∃ entry ∈ relay.world.drawn.tracker.channelMap.entries, ∃ hash ∈ entry.2.pHash, ∃ own fill,
      own.same hash = true ∧ (onChannel (relay.recorded ()).fills own)[0]? = some fill := by
  obtain ⟨relay, reached, told⟩ := (Option.any_eq_true _ _).mp
    (show (run (stepRelay digest fun _ => twoPeers false)
      (.start (1 : Nat) 0 (fun _ _ => 0) (fun _ => .fill _ 0) fun _ => blank) oneBlock).any (fun relay =>
        soundCheck relay (.timeout () 0 fun _ => 0) && relay.world.drawn.tracker.channelMap.entries.any fun entry =>
          entry.2.pHash.any fun hash => decide (0 < hash.blockInterval.start.toNat + hash.blockInterval.size.toNat)) =
        true by decide +kernel)
  obtain ⟨now, told⟩ := Bool.and_eq_true_iff.mp told
  obtain ⟨entry, stored, told⟩ := List.any_eq_true.mp told
  obtain ⟨hash, listed, first⟩ := List.any_eq_true.mp told
  have passed : check (stepRelay digest fun _ => twoPeers false) soundCheck
      (.start (1 : Nat) 0 (fun _ _ => 0) (fun _ => .fill _ 0) fun _ => blank) oneBlock = true := by decide +kernel
  have sound := along_of_check sound_of_check passed
  obtain ⟨_, own, fill, _, same, taken, _⟩ := advertised_blocks_taken
    (fun past event rest relay split early => (sound past event rest relay split early).1)
    (fun past event rest relay split early => (sound past event rest relay split early).2) reached
    (sound_of_check relay _ now).1 entry stored hash listed 0 (of_decide_eq_true first)
  exact ⟨relay, reached, entry, stored, hash, listed, own, fill, same, taken⟩

end RabbitStreamer.Sp.Announcements
