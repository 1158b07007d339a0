import RabbitStreamer.Sp.Announcements
import RabbitStreamer.Sp.PushLists

/-! All parties together: super peers between their capture servers and normal peers, and the tracker
that hears of their blocks and that normal peers ask. -/

namespace RabbitStreamer.Sp.Delivery
open RabbitStreamer.Lib RabbitStreamer.Lib.Bytes RabbitStreamer.Lib.Transition
open RabbitStreamer.Lib.Simulation RabbitStreamer.Lib.SlidingWindow
open RabbitStreamer.Core.Struct RabbitStreamer.Core.StructDefine
open RabbitStreamer.Core.Message RabbitStreamer.Core.Message.P2PMESSAGE RabbitStreamer.Core.MessageCodec
open RabbitStreamer.Sp.CsConnector RabbitStreamer.Sp.NpConnector RabbitStreamer.Sp.ChannelDigest
open RabbitStreamer.Sp.Registration RabbitStreamer.Sp.Announcements RabbitStreamer.Sp.PushLists
open RabbitStreamer.Sp.ChannelIdentity (requested rank_eq_of_same)
open RabbitStreamer.Sp.Streams (Arriving Content Complete Roomy Piece piecesOn piecesOn_map pieceOf feedOf Few
  Answer Relaying relaying_step relaying_run captureTurn listIn)
open RabbitStreamer.Tracker.Uuid RabbitStreamer.Tracker.State RabbitStreamer.Tracker.Server
open RabbitStreamer.Tracker.Refinement RabbitStreamer.Tracker.Answers
open RabbitStreamer.Tracker.Identity (second100)

/-- The tracker, what the super peers say to it, and the connections of the super peers. -/
structure Network (R : Rand) (ι : Type) where
  world : World R ι
  streams : ι → Streams.World

/-- A turn on a connection of a super peer, a super peer gone for whatever reason, and what happens
between super peers and tracker. -/
inductive Event (ι : Type) where
  | stream (peer : ι) (event : Streams.Event)
  | gone (peer : ι)
  | timeout (peer : ι) (timerid : Int) (heap : Heap)
  | packet (peer : ι) (payload : List UInt8) (heap : Heap)
  | tracker (event : Tracker.Server.Event)

/-- What there is at first: the seed, memory that nothing has set, and the streams to come. -/
structure Origin (R : Rand) (ι : Type) where
  rng : R.State
  unset : UInt32
  area : ι → Memory
  spId : ι → ByteArr UUID_LENGTH
  chnlHash : ι → Nat → MD5HashStr
  capture : ι → Nat → Arriving
  normal : ι → Nat → Arriving

namespace Network

variable {R : Rand} {ι : Type}

def start (origin : Origin R ι) : Network R ι where
  world := .start origin.rng origin.unset origin.area origin.spId
  streams peer := .start (origin.chnlHash peer) (origin.capture peer) (origin.normal peer)

def relay (network : Network R ι) : Relay R ι := ⟨network.world, fun peer => (network.streams peer).recorded⟩

def blocks (origin : Origin R ι) (network : Network R ι) (peer : ι) (channel : List Nat) : List Piece :=
  piecesOn (feedOf (origin.chnlHash peer) (network.streams peer).arrived).pieces channel

end Network

variable {R : Rand} {ι : Type} [DecidableEq ι] {address : ι → NetAddress} {origin : Origin R ι}

/-- A turn that faults is not taken: the super peer is gone instead. -/
def step (address : ι → NetAddress) (network : Network R ι) : Event ι → Option (Network R ι)
  | .stream peer event =>
      (network.world.peers peer).bind fun _ => (Streams.step (network.streams peer) event).map fun after =>
        { network with streams := Function.update network.streams peer after }
  | .gone peer => some { network with
      world := { network.world with peers := Function.update network.world.peers peer none } }
  | .timeout peer timerid heap =>
      (stepWorld address network.world (.timeout peer timerid (network.relay.host peer heap))).map fun world =>
        { network with world }
  | .packet peer payload heap =>
      (stepWorld address network.world (.packet peer payload (network.relay.host peer heap))).map fun world =>
        { network with world }
  | .tracker event =>
      if holds event then (stepWorld address network.world (.tracker event)).map fun world => { network with world }
      else none

/-- What is asked of an event in its state: little enough of everything for an `int`, another uuid for
each registration, and no body for a cramped buffer. -/
structure Sound (network : Network R ι) (event : Event ι) : Prop where
  bounded : Bounded network.relay
  distinct : ∀ happening, event = .tracker happening →
    DistinctUuids network.world (.tracker happening : Registration.Event ι)
  roomy : ∀ peer turn, event = .stream peer turn → Roomy (network.streams peer) turn

def own (peer : ι) : Event ι → Option Streams.Event
  | .stream other event => if other = peer then some event else none
  | _ => none

theorem part_own (peer : ι) : Part (step (R := R) address) Streams.step (fun network => network.streams peer)
    (own peer) where
  moved := by
    intro network event next deed taken current
    cases event with
    | stream other event =>
      simp only [own, Option.ite_none_right_eq_some, Option.some.injEq] at current
      obtain ⟨rfl, rfl⟩ := current
      obtain ⟨_, _, taken⟩ := Option.bind_eq_some_iff.mp taken
      obtain ⟨after, turned, rfl⟩ := Option.map_eq_some_iff.mp taken
      dsimp only
      rw [turned, Function.update_self]
    | _ => cases current
  still := by
    intro network event next taken current
    cases event with
    | stream other event =>
      have differs : peer ≠ other := by
        rintro rfl
        simp [own] at current
      obtain ⟨_, _, taken⟩ := Option.bind_eq_some_iff.mp taken
      obtain ⟨after, _, rfl⟩ := Option.map_eq_some_iff.mp taken
      exact Function.update_of_ne differs ..
    | gone other =>
      cases taken
      rfl
    | timeout other timerid heap =>
      obtain ⟨world, _, rfl⟩ := Option.map_eq_some_iff.mp taken
      rfl
    | packet other payload heap =>
      obtain ⟨world, _, rfl⟩ := Option.map_eq_some_iff.mp taken
      rfl
    | tracker event =>
      simp only [step, Option.ite_none_right_eq_some] at taken
      obtain ⟨world, _, rfl⟩ := Option.map_eq_some_iff.mp taken.2
      rfl

theorem recorded_step {world after : Streams.World} {event : Streams.Event}
    (taken : Streams.step world event = some after) : after.recorded = world.recorded ∨
      ∃ csEvent, CsConnector.step channelHash world.recorded csEvent = some after.recorded := by
  cases event with
  | capture conn around =>
    simp only [Streams.step, captureTurn] at taken
    split at taken
    next => cases taken
    next =>
      cases taken
      exact Or.inl rfl
    next =>
      obtain ⟨recorded, stepped, rfl⟩ := Option.map_eq_some_iff.mp taken
      exact Or.inr ⟨_, stepped⟩
  | normal conn heap unset => exact Or.inl (normalTurn_keeps taken).1
  | resume conn heap =>
    simp only [Streams.step] at taken
    split at taken
    next => cases taken
    next =>
      obtain ⟨changed, _, rfl⟩ := Option.map_eq_some_iff.mp taken
      exact Or.inl rfl

theorem relay_update (network : Network R ι) (peer : ι) (after : Streams.World) :
    Network.relay { network with streams := Function.update network.streams peer after } =
      network.relay.captured peer (some after.recorded) :=
  congrArg (Relay.mk network.world)
    (funext fun other => Function.apply_update (fun _ => Streams.World.recorded) network.streams peer after other)

theorem truthful_turn {network : Network R ι} (truthful : Truthful channelHash address network.relay) {peer : ι}
    {event : Streams.Event} {after : Streams.World} (taken : Streams.step (network.streams peer) event = some after) :
    Truthful channelHash address
      (Network.relay { network with streams := Function.update network.streams peer after }) := by
  rw [relay_update]
  rcases recorded_step taken with same | ⟨csEvent, stepped⟩
  · rw [same]
    show Truthful channelHash address ⟨network.world, Function.update network.relay.recorded peer _⟩
    rw [show (network.streams peer).recorded = network.relay.recorded peer from rfl, Function.update_eq_self]
    exact truthful
  · have captured := truthful_captured truthful peer csEvent
    rw [show CsConnector.step channelHash (network.relay.recorded peer) csEvent = _ from stepped] at captured
    exact captured

theorem truthful_gone {relay : Relay R ι} (truthful : Truthful channelHash address relay) (peer : ι) :
    Truthful channelHash address
      { relay with world := { relay.world with peers := Function.update relay.world.peers peer none } } where
  agreed := by
    refine ⟨truthful.agreed.issued, truthful.agreed.welcomes, fun other sp running flag => ?_⟩
    have apart : other ≠ peer := by
      rintro rfl
      simp at running
    refine truthful.agreed.registered other sp ?_ flag
    simpa [apart] using running
  lists := truthful.lists
  consistent := truthful.consistent
  keyed := truthful.keyed
  sent := truthful.sent
  held := truthful.held

theorem truthful_moved {network after : Network R ι} {event : Event ι}
    (truthful : Truthful channelHash address network.relay) (sound : Sound network event)
    (taken : step address network event = some after) : Truthful channelHash address after.relay := by
  cases event with
  | stream peer event =>
    obtain ⟨_, _, taken⟩ := Option.bind_eq_some_iff.mp taken
    obtain ⟨world, turned, rfl⟩ := Option.map_eq_some_iff.mp taken
    exact truthful_turn truthful turned
  | gone peer =>
    cases taken
    exact truthful_gone truthful peer
  | timeout peer timerid heap =>
    obtain ⟨world, stepped, rfl⟩ := Option.map_eq_some_iff.mp taken
    exact truthful_step truthful sound.bounded (show Distinct network.relay (.timeout peer timerid heap) from trivial)
      (Option.map_eq_some_iff.mpr ⟨world, stepped, rfl⟩)
  | packet peer payload heap =>
    obtain ⟨world, stepped, rfl⟩ := Option.map_eq_some_iff.mp taken
    exact truthful_step truthful sound.bounded (show Distinct network.relay (.packet peer payload heap) from trivial)
      (Option.map_eq_some_iff.mpr ⟨world, stepped, rfl⟩)
  | tracker event =>
    simp only [step, Option.ite_none_right_eq_some] at taken
    obtain ⟨fits, taken⟩ := taken
    obtain ⟨world, stepped, rfl⟩ := Option.map_eq_some_iff.mp taken
    exact truthful_tracker truthful fits (sound.distinct event rfl) stepped

theorem truthful_reached {events : List (Event ι)} {network : Network R ι}
    (sound : Along (step address) (.start origin) events Sound)
    (reached : run (step address) (.start origin) events = some network) :
    Truthful channelHash address network.relay :=
  run_along (fun network => Truthful channelHash address network.relay) Sound
    (fun _ _ _ truthful current taken => truthful_moved truthful current taken)
    (truthful_start origin.rng origin.unset origin.area origin.spId origin.chnlHash) sound reached

section Streams

variable {network after : Network R ι} {events : List (Event ι)} {peer : ι}

theorem own_eq_some {event : Event ι} {turn : Streams.Event} (current : own peer event = some turn) :
    event = .stream peer turn := by
  cases event with
  | stream other event =>
    simp only [own, Option.ite_none_right_eq_some, Option.some.injEq] at current
    rw [current.1, current.2]
  | _ => cases current

theorem roomy_own (sound : Along (step address) network events Sound)
    (reached : run (step address) network events = some after) :
    Along Streams.step (network.streams peer) (events.filterMap (own peer)) Roomy :=
  (part_own peer).along reached fun past event rest state split ran turn current =>
    (sound past event rest state split ran).roomy peer turn (own_eq_some current)

variable (complete : ∀ peer conn, ∀ frame ∈ (origin.capture peer conn).frames, Complete frame.content)
include complete

theorem relaying_later
    (relaying : Relaying (origin.chnlHash peer) (origin.capture peer) (origin.normal peer) (network.streams peer))
    (sound : Along (step address) network events Sound)
    (reached : run (step address) network events = some after) :
    Relaying (origin.chnlHash peer) (origin.capture peer) (origin.normal peer) (after.streams peer) :=
  run_along (Relaying (origin.chnlHash peer) (origin.capture peer) (origin.normal peer)) Roomy
    (fun _ _ _ before current taken => relaying_step before (complete peer) current taken) relaying
    (roomy_own sound reached) ((part_own peer).run reached)

theorem relaying_reached (sound : Along (step address) (.start origin) events Sound)
    (reached : run (step address) (.start origin) events = some network) :
    Relaying (origin.chnlHash peer) (origin.capture peer) (origin.normal peer) (network.streams peer) :=
  relaying_later complete (Streams.relaying_start _ _ _) sound reached

omit complete [DecidableEq ι] in
theorem blocks_eq
    (relaying : Relaying (origin.chnlHash peer) (origin.capture peer) (origin.normal peer) (network.streams peer))
    (channel : List Nat) : network.blocks origin peer channel =
      piecesOn ((network.streams peer).recorded.fills.map pieceOf) channel := by
  rw [relaying.carries.pieces]
  rfl

omit complete in
theorem fills_grow (reached : run (step address) network events = some after) :
    (network.streams peer).recorded.fills <+: (after.streams peer).recorded.fills := by
  refine run_invariant (fun world => (network.streams peer).recorded.fills <+: world.recorded.fills)
    (fun world turn next grown taken => grown.trans ?_) (List.prefix_refl _) ((part_own peer).run reached)
  rcases recorded_step taken with same | ⟨csEvent, stepped⟩
  · rw [same]
  · obtain ⟨more, grows⟩ := step_fills stepped
    exact grows ▸ List.prefix_append _ _

omit complete in
theorem few_channels {fills : List Fill} (few : Few fills) (channel : List Nat) :
    (piecesOn (fills.map pieceOf) channel).length < 2147483648 := by
  by_cases named : ∃ hash : MD5HashStr, hash.rank = channel
  · obtain ⟨hash, rfl⟩ := named
    rw [piecesOn_map, List.length_map]
    exact few hash
  · have nothing : piecesOn (fills.map pieceOf) channel = [] := by
      refine List.filter_eq_nil_iff.mpr fun piece member same => ?_
      obtain ⟨fill, _, rfl⟩ := List.mem_map.mp member
      exact named ⟨fill.hash, of_decide_eq_true same⟩
    rw [nothing]
    decide

end Streams

/-- A push list that a super peer reads in one state and is through with in another, whatever else
happens in between. -/
structure Exchange (address : ι → NetAddress) (peer : ι) (conn : Nat) (pushList : Sp2SpPushList)
    (world last : Network R ι) where
  heap : Heap
  around : Unset
  first : Network R ι
  content : Content
  later : List (Event ι)
  taken : step address world (.stream peer (.normal conn heap around)) = some first
  ran : run (step address) first later = some last
  sound : Along (step address) world (.stream peer (.normal conn heap around) :: later) Sound
  read : (first.streams peer).asked = (world.streams peer).asked ++ [(conn, content)]
  listed : listIn content = some pushList
  quiet : ∀ event ∈ later, ∀ turn, own peer event = some turn → Quiet conn turn
  done : ((last.streams peer).normal conn).proto.pushing = none
  bounded : Bounded last.relay

/-- From now on the super peer answers a push list for the block with the block, as long as its ring
has it. -/
def Served (address : ι → NetAddress) (origin : Origin R ι) (network : Network R ι) (peer : ι) (channel : List Nat)
    (id : UInt32) (piece : Piece) : Prop :=
  ∀ (between : List (Event ι)) (world last : Network R ι) (conn : Nat) (pushList : Sp2SpPushList),
    Along (step address) network between Sound → run (step address) network between = some world →
    Exchange address peer conn pushList world last → (requested pushList.resourceMd5).rank = channel →
    id ∈ pushList.blockArray → oldest MAX_BUFFER_SIZE (last.blocks origin peer channel).length ≤ id.toNat →
    ∃ (answer : Answer) (data : List UInt8), answer.pushList = pushList ∧
      ((last.streams peer).normal conn).sent = ((world.streams peer).normal conn).sent ++ answer.sent ∧
      (id, data) ∈ answer.blocks ∧ piece.data <+: data

theorem mem_sortedBlocks {pushList : Sp2SpPushList} {id : UInt32} :
    id ∈ sortedBlocks pushList ↔ id ∈ pushList.blockArray := by
  unfold sortedBlocks
  split_ifs
  · exact List.mem_mergeSort
  · exact Iff.rfl

theorem served_of_block {network : Network R ι} {peer : ι} {channel : List Nat} {id : UInt32} {piece : Piece}
    (complete : ∀ peer conn, ∀ frame ∈ (origin.capture peer conn).frames, Complete frame.content)
    (relaying : Relaying (origin.chnlHash peer) (origin.capture peer) (origin.normal peer) (network.streams peer))
    (small : id.toNat < 2147483648) (present : (network.blocks origin peer channel)[id.toNat]? = some piece) :
    Served address origin network peer channel id piece := by
  intro between world last conn pushList sound ran exchange resource listed recent
  obtain ⟨heap, around, first, content, later, taken, rest, soundToo, read, list, quiet, done, bounded⟩ := exchange
  have before := relaying_later complete relaying sound ran
  have ended := relaying_later complete before soundToo (run_cons_eq_some.mpr ⟨first, taken, rest⟩)
  obtain ⟨atHead, going⟩ := along_cons.mp soundToo
  have moved : Streams.step (world.streams peer) (.normal conn heap around) = some (first.streams peer) :=
    (part_own peer).moved taken (if_pos rfl)
  obtain ⟨answer, same, sent, genuine, kept⟩ := list_answered before (complete peer) (atHead.roomy peer _ rfl)
    (roomy_own (going first taken) rest) moved read list ((part_own peer).run rest)
    (fun turn member => by
      obtain ⟨event, among, mine⟩ := List.mem_filterMap.mp member
      exact quiet event among turn mine) done
    (fun channel => by
      rw [← ended.carries.pieces]
      exact few_channels (bounded peer).2 channel)
  have early : network.blocks origin peer channel <+: world.blocks origin peer channel := by
    rw [blocks_eq relaying, blocks_eq before]
    exact piecesOn_grows ((fills_grow ran).map pieceOf) channel
  have grown : world.blocks origin peer channel <+: last.blocks origin peer channel := by
    rw [blocks_eq before, blocks_eq ended]
    exact piecesOn_grows ((fills_grow (run_cons_eq_some.mpr ⟨first, taken, rest⟩)).map pieceOf) channel
  have inside : id.toNat < (network.blocks origin peer channel).length := (List.getElem?_eq_some_iff.mp present).1
  have position := toInt32_of_lt small
  have stays : Stays (feedOf (origin.chnlHash peer) (world.streams peer).arrived).pieces
      (feedOf (origin.chnlHash peer) (last.streams peer).arrived).pieces pushList.resourceMd5 id := by
    unfold Stays
    rw [position, resource]
    exact ⟨Int.ofNat_le.mpr recent, Int.ofNat_lt.mpr (Nat.lt_of_lt_of_le inside early.length_le)⟩
  have chosen : id ∈ answer.blocks.map Prod.fst :=
    kept.subset (List.mem_filter.mpr ⟨mem_sortedBlocks.mpr listed, decide_eq_true stays⟩)
  obtain ⟨⟨own, data⟩, member, rfl⟩ := List.mem_map.mp chosen
  obtain ⟨_, k, other, at_k, found, starts⟩ := genuine.genuine _ member
  have index : k = own.toNat := Int.ofNat_inj.mp (at_k.symm.trans position)
  have last_piece : (last.blocks origin peer channel)[own.toNat]? = some piece := by
    obtain ⟨more, longer⟩ := early.trans grown
    rw [← longer, List.getElem?_append_left inside]
    exact present
  rw [index, same, resource] at found
  cases found.symm.trans last_piece
  exact ⟨answer, data, same, sent, member, starts⟩

/-- Each block in an interval that the tracker tells a normal peer has come to the super peer that the
tracker names for the channel, and that super peer sends it to whoever asks for it, as long as its ring
has it. -/
theorem told_blocks_served {origin : Origin R ι} {events : List (Event ι)} {network : Network R ι}
    (complete : ∀ peer conn, ∀ frame ∈ (origin.capture peer conn).frames, Complete frame.content)
    (sound : Along (step address) (.start origin) events Sound)
    (reached : run (step address) (.start origin) events = some network) {datagram : Datagram}
    {resInterval : Np2TsReqInterval} (asked : datagram.request = .ok (some (.resInterval resInterval)))
    {node : NPNode}
    (known : network.world.drawn.tracker.npnodeMap.getNode (.ofUuid resInterval.uuid) = some node)
    {after : TrackerState R} {sent : List Tracker.State.Sent}
    (received : receive network.world.drawn.tracker datagram = .ok (after, sent)) {message : Tracker.State.Sent}
    (member : message ∈ sent) :
    ∃ (peer : ι) (place : NetAddress) (interval : BlockInterval),
      network.world.drawn.tracker.channelMap.getSpAddress node.channelIDMd5 1 = [place] ∧
      place.same (address peer) = true ∧
      message = .sendto datagram.lastReceiveAddr (frame TS2NP_RES_INTERVAL interval.toBytes) ∧
      ∀ id : UInt32, id.toNat < interval.start.toNat + interval.size.toNat → ∃ piece,
        (network.blocks origin peer node.channelIDMd5.rank)[id.toNat]? = some piece ∧
        Served address origin network peer node.channelIDMd5.rank id piece := by
  obtain ⟨interval, found, told⟩ := interval_answered asked known received member
  obtain ⟨entry, stored, first, own, listed, same, rfl⟩ := first_of_getChannelInterval found
  obtain ⟨peer, place, hash, count, text, grown, few, window⟩ := (truthful_reached sound reached).held _ _
    (carriers_of_mem stored) (resourceOf own) (List.mem_map_of_mem listed)
  refine ⟨peer, entry.2.spAddress, own.blockInterval, first, place, told, fun id below => ?_⟩
  have relaying : Relaying (origin.chnlHash peer) (origin.capture peer) (origin.normal peer)
      (network.streams peer) := relaying_reached complete sound reached
  have ranked : hash.rank = node.channelIDMd5.rank :=
    (rank_eq_of_same (channelText_eq_iff.mp text)).trans (rank_eq_of_same same)
  rw [show own.blockInterval = Announcements.window count from window] at below
  have before := below_of_window few below
  have inside : id.toNat < (network.blocks origin peer node.channelIDMd5.rank).length := by
    rw [blocks_eq relaying, ← ranked, piecesOn_map, List.length_map]
    exact Nat.lt_of_lt_of_le before grown
  have present := List.getElem?_eq_getElem inside
  exact ⟨_, present, served_of_block complete relaying (Nat.lt_trans before few) present⟩

section Scene

def scene : Origin .counting Unit where
  rng := (1 : Nat)
  unset := 0
  area _ _ := 0
  spId _ := .fill _ 0
  chnlHash _ _ := ⟨.fill _ 0, .init 0⟩
  capture _ := Streams.capturing
  normal _ := Streams.asking

def oneTold : List (Event Unit) :=
  let heap : Heap := fun _ => 0
  let resList : Request := .resList ⟨(uuidOf ⟨1, 2, 3, 4⟩).uuid, 1, [⟨channelHash [], ⟨0, 1⟩⟩]⟩
  let login : Request := .login ⟨0, .fill _ 0, 0, 0, 1, [0x0100007f]⟩
  let reqRes : Request := .reqRes ⟨(uuidOf ⟨5, 6, 7, 8⟩).uuid, channelHash []⟩
  [.timeout () 0 heap,
    .tracker (.datagram ((Request.register ⟨0x04030201, .fill _ 0, 2222⟩).datagram (twoPeers false) second100)),
    .packet () (Tracker.SpConnector.welcomeFrame (uuidOf ⟨1, 2, 3, 4⟩)) heap,
    .stream () Streams.takeCapture, .stream () Streams.takeCapture, .timeout () 0 heap,
    .tracker (.datagram (resList.datagram (twoPeers false) second100)),
    .tracker (.datagram (login.datagram .init second100)), .tracker (.datagram (reqRes.datagram .init second100))]

def blockAsked : List (Event Unit) := [.stream () Streams.sendOn, .stream () Streams.sendOn]

def heardBy : Event Unit → Happening Unit
  | .tracker event => .tracker event
  | _ => .timeout () 0 fun _ => 0

def eventCheck (network : Network .counting Unit) (event : Event Unit) : Bool :=
  soundCheck network.relay (heardBy event) && match event with
    | .stream peer turn => Streams.roomyCheck (network.streams peer) turn
    | _ => true

theorem sound_of_eventCheck (network : Network .counting Unit) (event : Event Unit)
    (passed : eventCheck network event = true) : Sound network event := by
  obtain ⟨calm, fits⟩ := Bool.and_eq_true_iff.mp passed
  obtain ⟨bounded, distinct⟩ := sound_of_check _ _ calm
  refine ⟨bounded, ?_, ?_⟩
  · rintro happening rfl
    exact distinct
  · rintro peer turn rfl
    exact Streams.roomy_of_check _ _ fits

theorem sound_scene : Along (step fun _ => twoPeers false) (.start scene)
    (oneTold ++ .stream () Streams.takeList :: blockAsked) Sound :=
  along_of_check sound_of_eventCheck (by decide +kernel)

def oneInterval : Tracker.State.Sent := .sendto .init (frame TS2NP_RES_INTERVAL (BlockInterval.toBytes ⟨0, 1⟩))

theorem interval_scene {network : Network .counting Unit}
    (reached : run (step fun _ => twoPeers false) (.start scene) oneTold = some network) :
    ∃ node after, network.world.drawn.tracker.npnodeMap.getNode (.ofUuid (uuidOf ⟨5, 6, 7, 8⟩).uuid) = some node ∧
      node.channelIDMd5.rank = (requested (channelHash [])).rank ∧
      receive network.world.drawn.tracker askInterval = .ok (after, [oneInterval]) := by
  have told : (run (step fun _ => twoPeers false) (.start scene) oneTold).any (fun network =>
      (network.world.drawn.tracker.npnodeMap.getNode (.ofUuid (uuidOf ⟨5, 6, 7, 8⟩).uuid)).any (fun node =>
        decide (node.channelIDMd5.rank = (requested (channelHash [])).rank)) &&
      (receive network.world.drawn.tracker askInterval).toOption.any fun result =>
        decide (result.2 = [oneInterval])) = true := by decide +kernel
  rw [reached, Option.any_some, Bool.and_eq_true, Option.any_eq_true] at told
  obtain ⟨⟨node, known, ranked⟩, told⟩ := told
  cases received : receive network.world.drawn.tracker askInterval with
  | error reason => simp [received, Except.toOption] at told
  | ok result =>
    rw [received] at told
    exact ⟨node, result.1, known, of_decide_eq_true ranked, by rw [← of_decide_eq_true told]⟩

theorem exchange_scene {network : Network .counting Unit}
    (reached : run (step fun _ => twoPeers false) (.start scene) oneTold = some network) :
    ∃ last, run (step fun _ => twoPeers false) network (.stream () Streams.takeList :: blockAsked) = some last ∧
      Nonempty (Exchange (fun _ => twoPeers false) () 0 ⟨channelHash [], ⟨0, 0, 0⟩, 1, [0]⟩ network last) ∧
      oldest MAX_BUFFER_SIZE (last.blocks scene () (requested (channelHash [])).rank).length ≤ 0 := by
  obtain ⟨last, ran, ended⟩ := (Option.any_eq_true _ _).mp
    (show (run (step fun _ => twoPeers false) (.start scene)
        (oneTold ++ .stream () Streams.takeList :: blockAsked)).any
      (fun last => soundCheck last.relay (.timeout () 0 fun _ => 0) &&
        decide (((last.streams ()).normal 0).proto.pushing = none) && decide (oldest MAX_BUFFER_SIZE
          (last.blocks scene () (requested (channelHash [])).rank).length ≤ 0)) = true by decide +kernel)
  simp only [Bool.and_eq_true, decide_eq_true_eq] at ended
  obtain ⟨⟨little, done⟩, recent⟩ := ended
  have taken : run (step fun _ => twoPeers false) network (.stream () Streams.takeList :: blockAsked) =
      some last := by
    obtain ⟨middle, before, behind⟩ := run_append_eq_some.mp ran
    rwa [Option.some.inj (reached.symm.trans before)]
  obtain ⟨first, began, rest⟩ := run_cons_eq_some.mp taken
  have heard : (run (step fun _ => twoPeers false) (.start scene) oneTold).map (fun network =>
        (network.streams ()).asked) = some [] ∧
      (run (step fun _ => twoPeers false) (.start scene) (oneTold ++ [.stream () Streams.takeList])).map
        (fun network => (network.streams ()).asked) = some [(0, Streams.listFrame.content)] := by
    constructor <;> decide +kernel
  rw [run_snoc_eq_some.mpr ⟨network, reached, began⟩, reached, Option.map_some, Option.map_some,
    Option.some.injEq, Option.some.injEq] at heard
  refine ⟨last, taken, ⟨?_⟩, recent⟩
  exact {
    heap := _
    around := _
    first
    content := Streams.listFrame.content
    later := blockAsked
    taken := began
    ran := rest
    sound := along_behind sound_scene reached
    read := by
      rw [heard.1, heard.2]
      rfl
    listed := by decide +kernel
    quiet := fun event member turn current => by
      rw [blockAsked, List.mem_cons, List.mem_singleton, or_self_iff] at member
      rw [member] at current
      cases current
      trivial
    done
    bounded := (sound_of_check _ _ little).1 }

theorem told_block_sent : ∃ (network last : Network .counting Unit) (answer : Answer) (piece : Piece)
    (data : List UInt8),
    run (step fun _ => twoPeers false) (.start scene) oneTold = some network ∧
    replies network.world.drawn.tracker askInterval = .ok [oneInterval] ∧
    run (step fun _ => twoPeers false) network (.stream () Streams.takeList :: blockAsked) = some last ∧
    (network.blocks scene () (requested (channelHash [])).rank)[0]? = some piece ∧
    ((last.streams ()).normal 0).sent = ((network.streams ()).normal 0).sent ++ answer.sent ∧
    (0, data) ∈ answer.blocks ∧ piece.data <+: data := by
  have reaches : (run (step fun _ => twoPeers false) (.start scene) oneTold).isSome = true := by decide +kernel
  obtain ⟨network, reached⟩ := Option.isSome_iff_exists.mp reaches
  obtain ⟨node, after, known, ranked, received⟩ := interval_scene reached
  obtain ⟨last, taken, ⟨exchange⟩, recent⟩ := exchange_scene reached
  obtain ⟨peer, _, interval, _, _, same, blocks⟩ := told_blocks_served (fun _ => Streams.complete_capturing)
    (along_of_append sound_scene) reached askInterval_request known received (List.mem_singleton_self _)
  have first : (⟨0, 1⟩ : BlockInterval) = interval := by
    have bytes := congrArg BlockInterval.ofBytes (frame_inj (Tracker.State.Sent.sendto.inj same).2)
    rwa [BlockInterval.ofBytes_toBytes, BlockInterval.ofBytes_toBytes] at bytes
  obtain ⟨piece, listed, served⟩ := blocks 0 (by rw [← first]; decide)
  rw [ranked] at listed
  obtain ⟨answer, data, _, sent, member, starts⟩ := served [] network last 0 _ along_nil rfl exchange ranked.symm
    (List.mem_singleton_self _) (by rw [ranked]; exact recent)
  exact ⟨network, last, answer, piece, data, reached, by rw [replies, received]; rfl, taken, listed, sent, member,
    starts⟩

end Scene

end RabbitStreamer.Sp.Delivery
