import Mathlib.Logic.Function.Basic
import RabbitStreamer.Sp.TrackerConnector
import RabbitStreamer.Tracker.Identity

/-! Super peers that register at one tracker, over a network that may lose, repeat, delay and
reorder what is sent. -/

namespace RabbitStreamer.Sp.Registration
open RabbitStreamer.Lib RabbitStreamer.Lib.Bytes RabbitStreamer.Lib.Memory RabbitStreamer.Lib.Transition
open RabbitStreamer.Core.Struct RabbitStreamer.Core.StructDefine RabbitStreamer.Core.Streamer
open RabbitStreamer.Core.Message.P2PMESSAGE RabbitStreamer.Core.MessageCodec
open RabbitStreamer.Tracker.Uuid RabbitStreamer.Tracker.StreamerManager RabbitStreamer.Tracker.State
open RabbitStreamer.Tracker.SpConnector RabbitStreamer.Tracker.Server RabbitStreamer.Tracker.Identity
open RabbitStreamer.Sp.TrackerConnector

/-- A payload on its way, with its source where the tracker is to get it and its destination
where a super peer is. -/
structure Packet where
  address : NetAddress
  payload : List UInt8
  deriving DecidableEq

/-- The tracker, the super peers that have not halted, and all that has ever been sent. -/
structure World (R : Rand) (ι : Type) where
  drawn : Drawn R
  peers : ι → Option RsSpTrackerProtocol
  toTracker : List Packet
  toPeers : List Packet

/-- What happens: a timer of a super peer runs out, a packet reaches it, or something happens to
the tracker. -/
inductive Event (ι : Type) where
  | timeout (peer : ι) (timerid : Int) (host : Host)
  | packet (peer : ι) (payload : List UInt8) (host : Host)
  | tracker (event : Tracker.Server.Event)

variable {R : Rand} {ι : Type} [DecidableEq ι]

namespace World

def start (rng : R.State) (unset : UInt32) (area : ι → Memory) (spId : ι → ByteArr UUID_LENGTH) : World R ι where
  drawn := .start rng unset
  peers peer := some (.init (area peer) (spId peer))
  toTracker := []
  toPeers := []

/-- A super peer that halts is gone; what it writes else goes out under its address. -/
def call (address : ι → NetAddress) (world : World R ι) (peer : ι) (call : Call) (host : Host) : Option (World R ι) :=
  (world.peers peer).map fun sp =>
    match call sp host with
    | .error _ => { world with peers := Function.update world.peers peer none }
    | .ok (after, sent) => { world with
        peers := Function.update world.peers peer (some after)
        toTracker := sent.map (fun payload => ⟨address peer, payload⟩) ++ world.toTracker }

end World

def posted : Sent → Option Packet
  | .sendto lastReceiveAddr payload => some ⟨lastReceiveAddr, payload⟩
  | .write _ => none

def answers (tracker : TrackerState R) : Tracker.Server.Event → List Packet
  | .timerCheck _ => []
  | .datagram datagram =>
      match datagram.connector, replies tracker datagram with
      | .sp, .ok sent => sent.filterMap posted
      | _, _ => []

def wasSent (toTracker : List Packet) : Tracker.Server.Event → Bool
  | .timerCheck _ => true
  | .datagram datagram =>
      match datagram.connector with
      | .np => true
      | .sp => toTracker.contains ⟨datagram.lastReceiveAddr, view datagram.buf 0 datagram.nbBuf⟩

def wasAnswered (toPeers : List Packet) (address : NetAddress) (payload : List UInt8) : Bool :=
  payload = [] || toPeers.any fun packet => packet.address.same address && packet.payload == payload

/-- What was sent once may arrive at any time later, any number of times. -/
def stepWorld (address : ι → NetAddress) (world : World R ι) : Event ι → Option (World R ι)
  | .timeout peer timerid host => world.call address peer (handleTimeout timerid) host
  | .packet peer payload host =>
      if wasAnswered world.toPeers (address peer) payload then world.call address peer (loop payload) host else none
  | .tracker event =>
      if wasSent world.toTracker event then
        (stepDrawn world.drawn event).map fun drawn =>
          { world with drawn, toPeers := answers world.drawn.tracker event ++ world.toPeers }
      else none

/-- The generator gives to a registration another text than to each one before. -/
def DistinctUuids (world : World R ι) : Event ι → Prop
  | .tracker event => registers event = true →
      ∀ earlier ∈ world.drawn.registrations, nextName earlier ≠ nextName world.drawn.tracker.rng
  | _ => True

def Registered (channelMap : ChannelMap) (uuid : MapStr) (address : NetAddress) : Prop :=
  ∃ entry, channelMap.find uuid = some entry ∧ entry.2.spAddress.same address = true

/-- Every welcome under way and every uuid that a super peer has taken names a channel with the
address of that super peer. -/
structure Agreed (address : ι → NetAddress) (world : World R ι) : Prop where
  issued : Issued world.drawn
  welcomes : ∀ packet ∈ world.toPeers, ∃ uuid, packet.payload = welcomeFrame uuid ∧
    Registered world.drawn.tracker.channelMap uuid packet.address
  registered : ∀ peer sp, world.peers peer = some sp → sp.registerFlag = true →
    Registered world.drawn.tracker.channelMap (.ofUuid sp.spId) (address peer)

theorem same_trans {first second third : NetAddress} (left : first.same second = true)
    (right : second.same third = true) : first.same third = true := by
  simp only [NetAddress.same, Bool.and_eq_true, beq_iff_eq] at *
  exact ⟨left.1.trans right.1, left.2.trans right.2⟩

theorem registerNode_address {register : Core.Message.Sp2TsRegister} {lastReceiveAddr : NetAddress} {now : Int}
    {node : ChannelNode} (copied : (registerNode register lastReceiveAddr now).assign now = .ok node) :
    node.spAddress.same lastReceiveAddr = true := by
  obtain ⟨_, rfl⟩ := ChannelNode.assign_eq_ok.mp copied
  simp [registerNode, NetAddress.same]

theorem registered_persists {drawn : Drawn R} {after : TrackerState R}
    {event : Tracker.Server.Event} (issued : Issued drawn)
    (new : registers event = true → ∀ earlier ∈ drawn.registrations, nextName earlier ≠ nextName drawn.tracker.rng)
    (taken : step drawn.tracker event = some after) {uuid : MapStr} {address : NetAddress}
    (known : Registered drawn.tracker.channelMap uuid address) : Registered after.channelMap uuid address := by
  obtain ⟨entry, found, same⟩ := known
  by_cases registered : registers event = true
  · exact ⟨entry, registration_keeps registered (issued.not_registered (new registered)) taken found, same⟩
  · obtain ⟨datagram, rfl, _, rfl⟩ | ⟨datagram, request, sent, rfl, asked, acted⟩ | ⟨currTime, rfl, rfl⟩ :=
      step_cases taken
    · exact ⟨entry, found, same⟩
    · obtain unchanged | ⟨register, _, rfl, _⟩ | ⟨other, listed, changed, node, foundOther, kept, copied, adjusted⟩ :=
        changesChannels_act acted
      · rw [unchanged]
        exact ⟨entry, found, same⟩
      · exact absurd (registers_iff.mpr ⟨datagram, register, rfl, asked⟩) registered
      · rw [adjusted]
        by_cases self : uuid.rank = other.rank
        · rw [OrderedMap.find_congr _ self, foundOther] at found
          cases found
          refine ⟨(entry.1, node), ?_, ?_⟩
          · rw [OrderedMap.find_congr _ self, OrderedMap.find_adjust_self, foundOther]
            rfl
          · obtain ⟨_, rfl⟩ := ChannelNode.assign_eq_ok.mp copied
            exact kept ▸ same
        · refine ⟨entry, ?_, same⟩
          rw [OrderedMap.find_adjust_of_ne _ _ self]
          exact found
    · exact ⟨entry, found, same⟩

theorem registered_insertChannel {channelMap after : ChannelMap} {now : Int} {uuid : MapStr}
    {register : Core.Message.Sp2TsRegister} {lastReceiveAddr : NetAddress}
    (inserted : channelMap.insertChannel now uuid (registerNode register lastReceiveAddr now) = .ok after) :
    Registered after uuid lastReceiveAddr := by
  obtain ⟨pNode, copied, ⟨unknown, rfl⟩ | ⟨⟨entry, known⟩, rfl⟩⟩ := insertChannel_eq_ok inserted
  · exact ⟨_, OrderedMap.find_insert_self pNode unknown, registerNode_address copied⟩
  · refine ⟨(entry.1, pNode), ?_, registerNode_address copied⟩
    rw [OrderedMap.find_adjust_self, known]
    rfl

theorem received_of_step {tracker after : TrackerState R} {datagram : Datagram}
    (taken : step tracker (.datagram datagram) = some after) :
    ∃ sent, receive tracker datagram = .ok (after, sent) := by
  obtain ⟨⟨next, sent⟩, received, rfl⟩ := Option.map_eq_some_iff.mp taken
  cases result : receive tracker datagram with
  | error reason => simp [result, Except.toOption] at received
  | ok pair =>
    simp only [result, Except.toOption, Option.some.injEq] at received
    exact ⟨sent, by rw [received]⟩

theorem answers_registered {tracker after : TrackerState R} {event : Tracker.Server.Event}
    (taken : step tracker event = some after) {packet : Packet} (member : packet ∈ answers tracker event) :
    ∃ uuid, packet.payload = welcomeFrame uuid ∧ Registered after.channelMap uuid packet.address := by
  cases event with
  | timerCheck currTime => simp [answers] at member
  | datagram datagram =>
    obtain ⟨sent, received⟩ := received_of_step taken
    have replied : replies tracker datagram = .ok sent := by rw [replies, received]; rfl
    cases side : datagram.connector with
    | np => simp [answers, side] at member
    | sp =>
      simp only [answers, side, replied] at member
      obtain ⟨message, listed, onNetwork⟩ := List.mem_filterMap.mp member
      obtain ⟨_, _, rfl⟩ | ⟨request, asked, acted⟩ := receive_cases received
      · cases listed
      · have own := (connector_of_request asked).trans side
        cases request with
        | register register =>
          obtain ⟨uuid, rng, channelMap, _, inserted, rfl, rfl⟩ := getRegister_eq_ok acted
          cases List.mem_singleton.mp listed
          cases onNetwork
          exact ⟨uuid, rfl, registered_insertChannel inserted⟩
        | status status =>
          unfold Request.act getStatus at acted
          rw [(updateChannel_eq_ok acted).1] at listed
          cases listed
        | resList resList =>
          unfold Request.act getResList at acted
          rw [(updateChannel_eq_ok acted).1] at listed
          cases listed
        | getSp spList =>
          obtain ⟨payload, rfl⟩ := (getSpList_eq_ok acted).2 message listed
          cases onNetwork
        | login _ | reqRes _ | report _ | needPeers _ | resInterval _ | logout _ => cases own

theorem call_eq_some {address : ι → NetAddress} {world after : World R ι} {peer : ι} {call : Call} {host : Host}
    (called : world.call address peer call host = some after) : ∃ sp, world.peers peer = some sp ∧
      after.drawn = world.drawn ∧ after.toPeers = world.toPeers ∧
      ∀ other next, after.peers other = some next → world.peers other = some next ∨
        other = peer ∧ ∃ sent, call sp host = .ok (next, sent) := by
  obtain ⟨sp, known, rfl⟩ := Option.map_eq_some_iff.mp called
  refine ⟨sp, known, ?_⟩
  cases result : call sp host with
  | error reason =>
    refine ⟨rfl, rfl, fun other next present => ?_⟩
    by_cases self : other = peer
    · rw [self] at present
      simp at present
    · exact Or.inl (by simpa [self] using present)
  | ok pair =>
    obtain ⟨next, sent⟩ := pair
    refine ⟨rfl, rfl, fun other now present => ?_⟩
    by_cases self : other = peer
    · rw [self] at present
      simp only [Function.update_self, Option.some.injEq] at present
      exact Or.inr ⟨self, sent, by rw [present]⟩
    · exact Or.inl (by simpa [self] using present)

theorem agreed_call {address : ι → NetAddress} {world after : World R ι} {peer : ι} {call : Call} {host : Host}
    (agreed : Agreed address world) (called : world.call address peer call host = some after)
    (own : ∀ sp next sent, world.peers peer = some sp → call sp host = .ok (next, sent) → next.registerFlag = true →
      Registered world.drawn.tracker.channelMap (.ofUuid next.spId) (address peer)) : Agreed address after := by
  obtain ⟨sp, known, drawn, toPeers, others⟩ := call_eq_some called
  constructor
  · exact drawn ▸ agreed.issued
  · rw [toPeers, drawn]
    exact agreed.welcomes
  · intro other next present flag
    rw [drawn]
    obtain old | ⟨rfl, sent, result⟩ := others other next present
    · exact agreed.registered other next old flag
    · exact own sp next sent known result flag

omit [DecidableEq ι] in
/-- A super peer believes itself registered after a packet only where it did before, or where the
packet is a welcome. -/
theorem agreed_packet {address : ι → NetAddress} {world : World R ι} {peer : ι} {payload : List UInt8} {host : Host}
    (agreed : Agreed address world) (arrived : wasAnswered world.toPeers (address peer) payload = true)
    {sp next : RsSpTrackerProtocol} {sent : List (List UInt8)} (known : world.peers peer = some sp)
    (result : loop payload sp host = .ok (next, sent)) (flag : next.registerFlag = true) :
    Registered world.drawn.tracker.channelMap (.ofUuid next.spId) (address peer) := by
  simp only [wasAnswered, Bool.or_eq_true, decide_eq_true_eq, List.any_eq_true,
    Bool.and_eq_true, beq_iff_eq] at arrived
  obtain nothing | ⟨packet, onNetwork, destination, rfl⟩ := arrived
  · rw [loop, if_pos nothing] at result
    cases result
    exact agreed.registered peer sp known flag
  · obtain ⟨uuid, welcome, entry, found, same⟩ := agreed.welcomes packet onNetwork
    rw [welcome, welcomeFrame, loop_welcome] at result
    split_ifs at result
    cases result
    refine ⟨entry, ?_, same_trans same destination⟩
    rw [OrderedMap.find_congr _ (MapStr.rank_ofUuid_uuid uuid)]
    exact found

theorem agreed_step {address : ι → NetAddress} {world after : World R ι} {event : Event ι}
    (agreed : Agreed address world) (distinct : DistinctUuids world event)
    (taken : stepWorld address world event = some after) : Agreed address after := by
  cases event with
  | timeout peer timerid host =>
    refine agreed_call agreed taken fun sp next sent known result flag => ?_
    rw [keeps_handleTimeout timerid sp host next sent result] at flag ⊢
    exact agreed.registered peer sp known flag
  | packet peer payload host =>
    simp only [stepWorld] at taken
    split_ifs at taken with arrived
    exact agreed_call agreed taken
      fun sp next sent known result flag => agreed_packet agreed arrived known result flag
  | tracker event =>
    simp only [stepWorld] at taken
    split_ifs at taken with underWay
    obtain ⟨drawn, stepped, rfl⟩ := Option.map_eq_some_iff.mp taken
    have moved : step world.drawn.tracker event = some drawn.tracker := by
      obtain ⟨tracker, moved, rfl⟩ := Option.map_eq_some_iff.mp stepped
      exact moved
    constructor
    · exact issued_step agreed.issued stepped
    · intro packet member
      rcases List.mem_append.mp member with new | old
      · exact answers_registered moved new
      · obtain ⟨uuid, welcome, known⟩ := agreed.welcomes packet old
        exact ⟨uuid, welcome, registered_persists agreed.issued distinct moved known⟩
    · intro peer sp present flag
      exact registered_persists agreed.issued distinct moved (agreed.registered peer sp present flag)

theorem agreed_run {address : ι → NetAddress} {rng : R.State} {unset : UInt32} {area : ι → Memory}
    {spId : ι → ByteArr UUID_LENGTH} {events : List (Event ι)} {world : World R ι}
    (distinct : Along (stepWorld address) (World.start rng unset area spId) events DistinctUuids)
    (reached : run (stepWorld address) (World.start rng unset area spId) events = some world) :
    Agreed address world := by
  have start : Agreed address (World.start (R := R) rng unset area spId) := by
    constructor
    · exact fun _ member => absurd member List.not_mem_nil
    · exact fun _ member => absurd member List.not_mem_nil
    · intro peer sp present flag
      cases present
      cases flag
  exact run_along (Agreed address) DistinctUuids (fun _ _ _ held apart taken => agreed_step held apart taken) start
    distinct reached

/-- Whatever the network does, a super peer that believes itself registered has its channel. -/
theorem registration_agrees {address : ι → NetAddress} {rng : R.State} {unset : UInt32} {area : ι → Memory}
    {spId : ι → ByteArr UUID_LENGTH} {events : List (Event ι)} {world : World R ι}
    (distinct : Along (stepWorld address) (World.start rng unset area spId) events DistinctUuids)
    (reached : run (stepWorld address) (World.start rng unset area spId) events = some world)
    (peer : ι) (sp : RsSpTrackerProtocol) (running : world.peers peer = some sp) (flag : sp.registerFlag = true) :
    Registered world.drawn.tracker.channelMap (.ofUuid sp.spId) (address peer) :=
  (agreed_run distinct reached).registered peer sp running flag

instance (world : World .counting ι) : (event : Event ι) → Decidable (DistinctUuids world event)
  | .timeout .. | .packet .. => inferInstanceAs (Decidable True)
  | .tracker _ => inferInstanceAs (Decidable (_ → _))

def twoPeers (peer : Bool) : NetAddress := ⟨AF_INET, if peer then 1 else 2, 0x0100007f⟩

def quiet : Host := ⟨fun _ => 0, .empty⟩

def silent : World .counting Bool := .start (1 : Nat) 0 (fun _ _ => 0) (fun _ => .fill _ 0)

def arrival (peer : Bool) : Event Bool :=
  .tracker (.datagram ((Request.register ⟨0x04030201, .fill _ 0, 2222⟩).datagram (twoPeers peer) second100))

def welcomed (peer : Bool) (rng : Nat) : Event Bool :=
  .packet peer (welcomeFrame (generateUuid .counting (show Rand.counting.State from rng)).1) quiet

/-- A super peer times out twice before it is welcomed, both its registrations arrive, and the
welcomes come in the other order. -/
def retries : List (Event Bool) :=
  [.timeout false 0 quiet, .timeout false 0 quiet, .timeout true 1 quiet, arrival false, arrival true, arrival false,
    welcomed false 9, welcomed false 1]

theorem retried_registration_agrees : ∃ world sp, run (stepWorld twoPeers) silent retries = some world ∧
    world.peers false = some sp ∧ sp.registerFlag = true ∧
    Registered world.drawn.tracker.channelMap (.ofUuid sp.spId) (twoPeers false) := by
  have passed : check (stepWorld twoPeers)
    (fun world event => decide (DistinctUuids world event)) silent retries = true :=
    by decide +kernel
  obtain ⟨world, reached, known⟩ := (Option.any_eq_true _ _).mp
    (show (run (stepWorld twoPeers) silent retries).any
      (fun world => (world.peers false).any RsSpTrackerProtocol.registerFlag) = true by decide +kernel)
  obtain ⟨sp, running, flag⟩ := (Option.any_eq_true _ _).mp known
  exact ⟨world, sp, reached, running, flag,
    registration_agrees
      (along_of_check (fun _ _ held => of_decide_eq_true held) passed) reached false sp running flag⟩

end RabbitStreamer.Sp.Registration
