import RabbitStreamer.Sp.Registration

/-! How many channels a super peer has that registers again and again until it is welcomed. -/

namespace RabbitStreamer.Sp.ChannelCount
open RabbitStreamer.Lib RabbitStreamer.Lib.Bytes RabbitStreamer.Lib.Memory RabbitStreamer.Lib.Transition
open RabbitStreamer.Core.Struct RabbitStreamer.Core.StructDefine
open RabbitStreamer.Tracker.Uuid RabbitStreamer.Tracker.StreamerManager
open RabbitStreamer.Tracker.StreamerManager.ChannelMap RabbitStreamer.Tracker.State RabbitStreamer.Tracker.SpConnector
open RabbitStreamer.Tracker.Server RabbitStreamer.Tracker.Identity RabbitStreamer.Sp.Registration

variable {R : Rand} {ι : Type} [DecidableEq ι]

def addresses (channelMap : ChannelMap) : List NetAddress := channelMap.entries.map fun entry => entry.2.spAddress

def OneEach (addresses : List NetAddress) : Prop := addresses.Pairwise fun first second => first.same second = false

def channelsAt (channelMap : ChannelMap) (address : NetAddress) : Nat :=
  (addresses channelMap).countP fun spAddress => spAddress.same address

def registersAt (address : NetAddress) : Tracker.Server.Event → Bool
  | .timerCheck _ => false
  | .datagram datagram => registers (.datagram datagram) && datagram.lastReceiveAddr.same address

def registersFrom (address : NetAddress) : Event ι → Bool
  | .tracker event => registersAt address event
  | _ => false

theorem same_comm (first second : NetAddress) : first.same second = second.same first := by
  simp [NetAddress.same, Bool.beq_comm]

theorem oneEach_iff (addresses : List NetAddress) :
    OneEach addresses ↔ ∀ address, addresses.countP (fun other => other.same address) ≤ 1 := by
  induction addresses with
  | nil => simp [OneEach]
  | cons head tail ih =>
    unfold OneEach at ih ⊢
    rw [List.pairwise_cons, ih]
    constructor
    · rintro ⟨apart, rest⟩ address
      rw [List.countP_cons]
      split_ifs with self
      · have nobody : tail.countP (fun other => other.same address) = 0 := by
          apply List.countP_eq_zero.mpr
          intro other listed same
          have again := same_trans self ((same_comm ..).trans same)
          rw [apart other listed] at again
          cases again
        omega
      · exact rest address
    · intro counts
      constructor
      · intro other listed
        apply Bool.eq_false_iff.mpr
        intro same
        have twice := counts head
        have positive : 0 < tail.countP (fun another => another.same head) :=
          List.countP_pos_iff.mpr ⟨other, listed, (same_comm ..).trans same⟩
        rw [List.countP_cons, if_pos (by simp [NetAddress.same])] at twice
        omega
      · intro address
        have more := counts address
        rw [List.countP_cons] at more
        omega

theorem channelsAt_of_split {channelMap : ChannelMap} {before behind : List (MapStr × ChannelNode)}
    (split : channelMap.entries = before ++ behind) (address : NetAddress) : channelsAt channelMap address =
      (before.map fun entry => entry.2.spAddress).countP (fun spAddress => spAddress.same address) +
      (behind.map fun entry => entry.2.spAddress).countP (fun spAddress => spAddress.same address) := by
  rw [channelsAt, addresses, split, List.map_append, List.countP_append]

/-- Putting a node under a uuid adds one to the count of its address, unless it takes the place of
another node. -/
theorem channelsAt_insertChannel {channelMap after : ChannelMap} {now : Int} {uuid : MapStr} {chnl : ChannelNode}
    (inserted : channelMap.insertChannel now uuid chnl = .ok after) (address : NetAddress) :
    channelsAt after address ≤ channelsAt channelMap address + (if chnl.spAddress.same address then 1 else 0) ∧
    (channelMap.find uuid = none →
      channelsAt after address = channelsAt channelMap address + (if chnl.spAddress.same address then 1 else 0)) := by
  obtain ⟨pNode, copied, place⟩ := insertChannel_eq_ok inserted
  have kept : pNode.spAddress = chnl.spAddress := by
    obtain ⟨_, rfl⟩ := ChannelNode.assign_eq_ok.mp copied
    rfl
  obtain ⟨unknown, rfl⟩ | ⟨⟨entry, known⟩, rfl⟩ := place
  · obtain ⟨before, behind, old, new⟩ := OrderedMap.insertEntry_split pNode
      (OrderedMap.find_eq_none.mp unknown)
    have grown : channelsAt (channelMap.insert uuid pNode) address =
        channelsAt channelMap address + (if chnl.spAddress.same address then 1 else 0) := by
      rw [channelsAt_of_split old, channelsAt_of_split (show (channelMap.insert uuid pNode).entries = _ from new),
        List.map_cons, List.countP_cons, kept]
      omega
    exact ⟨Nat.le_of_eq grown, fun _ => grown⟩
  · obtain ⟨before, behind, old, new⟩ := OrderedMap.adjust_split known fun _ => pNode
    refine ⟨?_, fun unknown => absurd (known.symm.trans unknown) (by simp)⟩
    rw [channelsAt_of_split old, channelsAt_of_split new, List.map_cons, List.countP_cons, List.map_cons,
      List.countP_cons, kept]
    omega

theorem channelsAt_adjust {channelMap : ChannelMap} {uuid : MapStr} {entry : MapStr × ChannelNode}
    (known : channelMap.find uuid = some entry) {node : ChannelNode} (kept : node.spAddress = entry.2.spAddress)
    (address : NetAddress) :
    channelsAt (channelMap.adjust uuid fun _ => node) address = channelsAt channelMap address := by
  obtain ⟨before, behind, old, new⟩ := OrderedMap.adjust_split known fun _ => node
  rw [channelsAt_of_split old, channelsAt_of_split new, List.map_cons, List.map_cons, List.countP_cons,
    List.countP_cons, kept]

theorem registersAt_eq (address : NetAddress) (datagram : Datagram) :
    registersAt address (.datagram datagram) =
      (registers (.datagram datagram) && datagram.lastReceiveAddr.same address) := rfl

theorem channelsAt_other {tracker after : TrackerState R} {event : Tracker.Server.Event}
    (other : registers event ≠ true) (taken : step tracker event = some after) (address : NetAddress) :
    channelsAt after.channelMap address = channelsAt tracker.channelMap address := by
  obtain ⟨datagram, rfl, _, rfl⟩ | ⟨datagram, request, sent, rfl, asked, acted⟩ | ⟨currTime, rfl, rfl⟩ :=
    step_cases taken
  · rfl
  · obtain unchanged | ⟨register, _, rfl, _⟩ | ⟨uuid, entry, changed, node, known, kept, copied, adjusted⟩ :=
      changesChannels_act acted
    · rw [unchanged]
    · exact absurd (registers_iff.mpr ⟨datagram, register, rfl, asked⟩) other
    · rw [adjusted]
      have stays : node.spAddress = entry.2.spAddress := by
        rw [(ChannelNode.assign_eq_ok.mp copied).2]
        exact kept
      exact channelsAt_adjust known stays address
  · rfl

/-- A step of the tracker adds at most the channel of a registration, and it adds that channel
where the uuid is a new one. -/
theorem channelsAt_step {tracker after : TrackerState R} {event : Tracker.Server.Event}
    (taken : step tracker event = some after) (address : NetAddress) :
    channelsAt after.channelMap address ≤
      channelsAt tracker.channelMap address + (if registersAt address event then 1 else 0) ∧
    ((registers event = true → tracker.channelMap.find (generateUuid R tracker.rng).1 = none) →
      channelsAt after.channelMap address =
        channelsAt tracker.channelMap address + (if registersAt address event then 1 else 0)) := by
  by_cases registered : registers event = true
  · obtain ⟨datagram, register, rfl, asked⟩ := registers_iff.mp registered
    obtain ⟨sent, acted⟩ := acted_of_step asked taken
    obtain ⟨uuid, rng, channelMap, drawn, inserted, rfl, _⟩ := getRegister_eq_ok acted
    obtain ⟨bound, counted⟩ := channelsAt_insertChannel inserted address
    have source : (registerNode register datagram.lastReceiveAddr datagram.env.now).spAddress.same address =
        registersAt address (.datagram datagram) := by
      rw [registersAt_eq, registered]
      rfl
    rw [source] at bound counted
    rw [drawn]
    exact ⟨bound, fun unknown => counted (unknown registered)⟩
  · have silent : registersAt address event = false := by
      cases event with
      | timerCheck currTime => rfl
      | datagram datagram => rw [registersAt_eq, Bool.eq_false_iff.mpr registered, Bool.false_and]
    have same := channelsAt_other registered taken address
    rw [silent, same]
    exact ⟨Nat.le_refl _, fun _ => rfl⟩

theorem tracker_of_stepWorld {address : ι → NetAddress} {world after : World R ι} {event : Event ι}
    (taken : stepWorld address world event = some after) :
    (∃ happened, event = .tracker happened ∧ step world.drawn.tracker happened = some after.drawn.tracker) ∨
    (∀ source, registersFrom source event = false) ∧ after.drawn = world.drawn := by
  cases event with
  | timeout peer timerid host =>
    obtain ⟨_, _, drawn, _⟩ := call_eq_some taken
    exact Or.inr ⟨fun _ => rfl, drawn⟩
  | packet peer payload host =>
    simp only [stepWorld] at taken
    split_ifs at taken
    obtain ⟨_, _, drawn, _⟩ := call_eq_some taken
    exact Or.inr ⟨fun _ => rfl, drawn⟩
  | tracker happened =>
    simp only [stepWorld] at taken
    split_ifs at taken
    obtain ⟨drawn, stepped, rfl⟩ := Option.map_eq_some_iff.mp taken
    obtain ⟨tracker, moved, rfl⟩ := Option.map_eq_some_iff.mp stepped
    exact Or.inl ⟨happened, rfl, moved⟩

theorem countP_snoc {α : Type} (test : α → Bool) (past : List α) (last : α) :
    (past ++ [last]).countP test = past.countP test + if test last then 1 else 0 := by
  rw [List.countP_append, List.countP_singleton]

theorem channels_bounded {address : ι → NetAddress} {rng : R.State} {unset : UInt32} {area : ι → Memory}
    {spId : ι → ByteArr UUID_LENGTH} {events : List (Event ι)} {world : World R ι}
    (reached : run (stepWorld address) (World.start rng unset area spId) events = some world) (source : NetAddress) :
    channelsAt world.drawn.tracker.channelMap source ≤ events.countP (registersFrom source) := by
  refine run_history (fun past (world : World R ι) =>
    channelsAt world.drawn.tracker.channelMap source ≤ past.countP (registersFrom source)) (Nat.zero_le _) ?_ reached
  intro past state event next _ bound taken
  rw [countP_snoc]
  obtain ⟨happened, rfl, moved⟩ | ⟨silent, drawn⟩ := tracker_of_stepWorld taken
  · exact (channelsAt_step moved source).1.trans (Nat.add_le_add_right bound _)
  · rw [drawn, silent source]
    exact bound

theorem channels_exact {address : ι → NetAddress} {rng : R.State} {unset : UInt32} {area : ι → Memory}
    {spId : ι → ByteArr UUID_LENGTH} {events : List (Event ι)} {world : World R ι}
    (distinct : Along (stepWorld address) (World.start rng unset area spId) events DistinctUuids)
    (reached : run (stepWorld address) (World.start rng unset area spId) events = some world) (source : NetAddress) :
    channelsAt world.drawn.tracker.channelMap source = events.countP (registersFrom source) := by
  refine run_history (fun past (world : World R ι) =>
    Along (stepWorld address) (World.start rng unset area spId) past DistinctUuids →
      channelsAt world.drawn.tracker.channelMap source = past.countP (registersFrom source)) (fun _ => rfl) ?_ reached
    distinct
  intro past state event next before exact taken along
  obtain ⟨earlier, current⟩ := along_snoc.mp along
  rw [countP_snoc, ← exact earlier]
  obtain ⟨happened, rfl, moved⟩ | ⟨silent, drawn⟩ := tracker_of_stepWorld taken
  · exact (channelsAt_step moved source).2 fun registered =>
      (agreed_run earlier before).issued.not_registered (current state before registered)
  · rw [drawn, silent source]
    rfl

theorem oneEach_channels (channelMap : ChannelMap) :
    OneEach (addresses channelMap) ↔ ∀ address, channelsAt channelMap address ≤ 1 := oneEach_iff _

theorem oneEach_getCpAddress {channelMap : ChannelMap} (once : OneEach (addresses channelMap)) (now : Int)
    (inCount : Nat) : OneEach (channelMap.getCpAddress R now inCount).1 := by
  have part : ((channelMap.getCpAddress R now inCount).1).Sublist (addresses channelMap) := by
    unfold getCpAddress addresses
    apply List.Sublist.map
    exact (List.take_sublist ..).trans (List.drop_sublist ..)
  exact once.sublist part

/-- The tracker keeps as many channels of a super peer as it has handled registrations from its
address, at the most; without repeated registrations no super peer is listed twice. -/
theorem channels_per_super_peer {address : ι → NetAddress} {rng : R.State} {unset : UInt32} {area : ι → Memory}
    {spId : ι → ByteArr UUID_LENGTH} {events : List (Event ι)} {world : World R ι}
    (reached : run (stepWorld address) (World.start rng unset area spId) events = some world) :
    (∀ source, channelsAt world.drawn.tracker.channelMap source ≤ events.countP (registersFrom source)) ∧
    ((∀ source, events.countP (registersFrom source) ≤ 1) →
      OneEach (addresses world.drawn.tracker.channelMap) ∧
      ∀ now inCount, OneEach (world.drawn.tracker.channelMap.getCpAddress R now inCount).1) ∧
    (Along (stepWorld address) (World.start rng unset area spId) events DistinctUuids →
      (OneEach (addresses world.drawn.tracker.channelMap) ↔ ∀ source, events.countP (registersFrom source) ≤ 1)) := by
  have bounded := channels_bounded reached
  refine ⟨bounded, fun single => ?_, fun distinct => ?_⟩
  · have once : OneEach (addresses world.drawn.tracker.channelMap) :=
      (oneEach_channels _).mpr fun source => (bounded source).trans (single source)
    exact ⟨once, oneEach_getCpAddress once⟩
  · rw [oneEach_channels]
    constructor
    · intro once source
      rw [← channels_exact distinct reached source]
      exact once source
    · intro single source
      rw [channels_exact distinct reached source]
      exact single source

instance (list : List NetAddress) : Decidable (OneEach list) := inferInstanceAs (Decidable (List.Pairwise _ list))

theorem registersFrom_arrival (source : NetAddress) (peer : Bool) :
    registersFrom source (arrival peer) = (twoPeers peer).same source := by
  have registered : ∀ peer : Bool, registers
      (.datagram ((Request.register ⟨0x04030201, .fill _ 0, 2222⟩).datagram (twoPeers peer) second100)) = true := by
    decide +kernel
  rw [arrival, registersFrom, registersAt_eq, registered, Bool.true_and]
  rfl

theorem registrations_counted :
    (∃ world, run (stepWorld twoPeers) silent
        [.timeout false 0 quiet, .timeout true 0 quiet, arrival true, arrival false] = some world ∧
      OneEach (addresses world.drawn.tracker.channelMap)) ∧
    ∃ world, run (stepWorld twoPeers) silent retries = some world ∧
      ¬OneEach (addresses world.drawn.tracker.channelMap) := by
  constructor
  · obtain ⟨world, reached, _⟩ := (Option.any_eq_true _ _).mp
      (show (run (stepWorld twoPeers) silent
        [.timeout false 0 quiet, .timeout true 0 quiet, arrival true, arrival false]).any (fun _ => true) = true by
        decide +kernel)
    have single : ∀ source, List.countP (registersFrom source)
        [.timeout false 0 quiet, .timeout true 0 quiet, arrival true, arrival false] ≤ 1 := by
      intro source
      simp only [List.countP_cons, registersFrom_arrival, List.countP_nil]
      have apart : ¬((twoPeers true).same source = true ∧ (twoPeers false).same source = true) := by
        rintro ⟨left, right⟩
        exact absurd (same_trans left ((same_comm ..).trans right)) (by decide)
      simp only [registersFrom]
      split_ifs <;> simp_all
    exact ⟨world, reached, ((channels_per_super_peer reached).2.1 single).1⟩
  · obtain ⟨world, reached, _⟩ := (Option.any_eq_true _ _).mp
      (show (run (stepWorld twoPeers) silent retries).any (fun _ => true) = true by decide +kernel)
    have passed : check (stepWorld twoPeers) (fun world event => decide (DistinctUuids world event)) silent retries =
        true := by decide +kernel
    have counted := (channels_per_super_peer reached).2.2 (along_of_check (fun _ _ => of_decide_eq_true) passed)
    exact ⟨world, reached, fun once => absurd (counted.mp once (twoPeers false)) (by decide +kernel)⟩

/-- A super peer that times out twice before its welcome arrives gets two channels and is listed
twice. -/
theorem retries_listed_twice : ∃ world, run (stepWorld twoPeers) silent
      [.timeout false 0 quiet, .timeout false 0 quiet, arrival false, arrival false] = some world ∧
    ¬OneEach (addresses world.drawn.tracker.channelMap) ∧
    ¬OneEach (world.drawn.tracker.channelMap.getCpAddress .counting 100 10).1 := by
  obtain ⟨world, reached, facts⟩ := (Option.any_eq_true _ _).mp
    (show (run (stepWorld twoPeers) silent
      [.timeout false 0 quiet, .timeout false 0 quiet, arrival false, arrival false]).any
      (fun world => !decide (OneEach (addresses world.drawn.tracker.channelMap)) &&
        !decide (OneEach (world.drawn.tracker.channelMap.getCpAddress .counting 100 10).1)) = true by decide +kernel)
  simp only [Bool.and_eq_true, Bool.not_eq_true', decide_eq_false_iff_not] at facts
  exact ⟨world, reached, facts⟩

end RabbitStreamer.Sp.ChannelCount
