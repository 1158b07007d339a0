import RabbitStreamer.Tracker.StreamerManager

/-! The super peers that the tracker names to others. -/

namespace RabbitStreamer.Tracker.SpAddresses
open RabbitStreamer.Lib RabbitStreamer.Lib.Bytes RabbitStreamer.Core.Struct RabbitStreamer.Core.StructDefine
open RabbitStreamer.Tracker.Uuid RabbitStreamer.Tracker.StreamerManager
open RabbitStreamer.Tracker.StreamerManager.ChannelMap

variable {R : Rand}

def elsewhere (channelMap : ChannelMap) (uuid : MapStr) (channel : MapStr × ChannelNode) : Bool :=
  (channelMap.find uuid).all fun own => !own.2.spAddress.same channel.2.spAddress

/-- The array is filled within its bounds, with the addresses of all other channels. -/
def ListsOthers (channelMap : ChannelMap) (uuid : MapStr) : Prop :=
  channelMap.getCpAddressExcept uuid =
    some ((channelMap.entries.filter (elsewhere channelMap uuid)).map fun channel => channel.2.spAddress)

theorem elsewhere_self {channelMap : ChannelMap} {uuid : MapStr} {own : MapStr × ChannelNode}
    (registered : channelMap.find uuid = some own) : elsewhere channelMap uuid own = false := by
  simp [elsewhere, registered, NetAddress.same]

theorem elsewhere_fewer {channelMap : ChannelMap} {uuid : MapStr} {own : MapStr × ChannelNode}
    (registered : channelMap.find uuid = some own) :
    (channelMap.entries.filter (elsewhere channelMap uuid)).length < channelMap.size :=
  List.length_filter_lt_length_iff_exists.mpr
    ⟨own, (OrderedMap.find_eq_some.mp registered).1, by simp [elsewhere_self registered]⟩

theorem listsOthers_registered {channelMap : ChannelMap} {uuid : MapStr} {own : MapStr × ChannelNode}
    (registered : channelMap.find uuid = some own) : ListsOthers channelMap uuid := by
  have fewer := elsewhere_fewer registered
  have others : (channelMap.entries.map fun channel => channel.2.spAddress).filter
        (fun spAddress => !own.2.spAddress.same spAddress) =
      (channelMap.entries.filter (elsewhere channelMap uuid)).map fun channel => channel.2.spAddress := by
    rw [List.filter_map]
    congr 2
    funext channel
    simp [elsewhere, registered]
  unfold ListsOthers getCpAddressExcept
  simp only [registered, Option.map_some, others, List.length_map, getChannelCount]
  split_ifs with alone room
  · have nobody : (channelMap.entries.filter (elsewhere channelMap uuid)).length = 0 := by omega
    rw [List.length_eq_zero_iff.mp nobody]
    rfl
  · rfl
  · exact absurd (Nat.le_pred_of_lt fewer) room

theorem getCpAddressExcept_unknown {channelMap : ChannelMap} {uuid : MapStr}
    (unknown : channelMap.find uuid = none) :
    channelMap.getCpAddressExcept uuid = if channelMap.size ≤ 1 then some [] else none := by
  have size : channelMap.size = channelMap.entries.length := rfl
  unfold getCpAddressExcept
  simp only [unknown, Option.map_none, List.filter_true, List.length_map, getChannelCount]
  split_ifs <;> first | rfl | omega

theorem filter_elsewhere_unknown {channelMap : ChannelMap} {uuid : MapStr} (unknown : channelMap.find uuid = none) :
    channelMap.entries.filter (elsewhere channelMap uuid) = channelMap.entries := by
  simp [List.filter_eq_self, elsewhere, unknown]

theorem not_listsOthers_unknown {channelMap : ChannelMap} {uuid : MapStr} (unknown : channelMap.find uuid = none)
    (channels : channelMap.entries ≠ []) : ¬ListsOthers channelMap uuid := by
  unfold ListsOthers
  rw [getCpAddressExcept_unknown unknown, filter_elsewhere_unknown unknown]
  split_ifs
  · simpa using channels.symm
  · simp

/-- The list is right if and only if the uuid is registered or there is no channel at all. -/
theorem lists_others_iff (channelMap : ChannelMap) (uuid : MapStr) :
    ListsOthers channelMap uuid ↔ (∃ own, channelMap.find uuid = some own) ∨ channelMap.entries = [] := by
  constructor
  · intro lists
    cases registered : channelMap.find uuid with
    | some own => exact Or.inl ⟨own, rfl⟩
    | none =>
      refine Or.inr ?_
      by_contra channels
      exact not_listsOthers_unknown registered channels lists
  · rintro (⟨own, registered⟩ | empty)
    · exact listsOthers_registered registered
    · have unknown : channelMap.find uuid = none := by
        simp [OrderedMap.find_eq_none, empty]
      unfold ListsOthers
      rw [getCpAddressExcept_unknown unknown, filter_elsewhere_unknown unknown, empty]
      simp [OrderedMap.size, empty]

def twoSuperPeers : ChannelMap :=
  (OrderedMap.empty.insert (.ofUuid (.fill _ 97)) { ChannelNode.init 0 with spAddress := ⟨AF_INET, 1, 1⟩ }).insert
    (.ofUuid (.fill _ 98)) { ChannelNode.init 0 with spAddress := ⟨AF_INET, 1, 2⟩ }

/-- A third one that is not registered asks for them. -/
theorem stranger_overflows : ¬∀ channelMap (uuid : ByteArr UUID_LENGTH), ListsOthers channelMap (.ofUuid uuid) := by
  intro lists
  exact not_listsOthers_unknown (by decide) (by decide) (lists twoSuperPeers (.fill _ 99))

def constant (iR : Fin 2147483648) : Rand where
  State := Unit
  rand rng := (iR, rng)
  srand _ := ()

def stretch (channelMap : ChannelMap) (inCount : Nat) (iR : Fin 2147483648) : List (MapStr × ChannelNode) :=
  let iPos := if inCount < channelMap.size then iR.val % (channelMap.size - inCount) else 0
  (channelMap.entries.drop iPos).take inCount

/-- As many super peers as there are and as are asked for, each of them once, and the given one among
them after some draw. -/
structure HandedOut (channelMap : ChannelMap) (inCount : Nat) (channel : MapStr × ChannelNode) : Prop where
  distinct : ∀ (R : Rand) (now : Int), ∃ channels : List (MapStr × ChannelNode),
    (channelMap.getCpAddress R now inCount).1 = channels.map (fun channel => channel.2.spAddress) ∧
    channels.length = min inCount channelMap.size ∧ (∀ channel ∈ channels, channel ∈ channelMap.entries) ∧
    (channels.map fun channel => channel.1.rank).Nodup
  possible : ∃ (R : Rand) (now : Int), channel.2.spAddress ∈ (channelMap.getCpAddress R now inCount).1

theorem getCpAddress_eq (channelMap : ChannelMap) (now : Int) (inCount : Nat) :
    (channelMap.getCpAddress R now inCount).1 =
      (stretch channelMap inCount (R.rand (R.srand (ofInt32 now))).1).map fun channel => channel.2.spAddress := by
  unfold getCpAddress stretch
  split_ifs with many <;> simp [many]

theorem stretch_length (channelMap : ChannelMap) (inCount : Nat) (iR : Fin 2147483648) :
    (stretch channelMap inCount iR).length = min inCount channelMap.size := by
  have size : channelMap.size = channelMap.entries.length := rfl
  unfold stretch
  rw [List.length_take, List.length_drop]
  split_ifs with many
  · have below := Nat.mod_lt iR.val (show 0 < channelMap.size - inCount by omega)
    omega
  · omega

theorem stretch_sublist (channelMap : ChannelMap) (inCount : Nat) (iR : Fin 2147483648) :
    (stretch channelMap inCount iR).Sublist channelMap.entries :=
  (List.take_sublist ..).trans (List.drop_sublist ..)

theorem getCpAddress_ne_nil {channelMap : ChannelMap} {hash : MD5HashStr}
    (carried : channelMap.getSpAddress hash 1 ≠ []) (now : Int) : (channelMap.getCpAddress R now 10).1 ≠ [] := by
  intro nobody
  have empty := congrArg List.length nobody
  rw [getCpAddress_eq, List.length_map, stretch_length, List.length_nil] at empty
  have entries : channelMap.entries = [] := by
    refine List.length_eq_zero_iff.mp ?_
    show channelMap.size = 0
    omega
  apply carried
  unfold getSpAddress
  rw [entries]
  rfl

theorem nowhere_of_nobody {channelMap : ChannelMap} {hash : MD5HashStr} {now : Int} {cps : List NetAddress}
    {rng : R.State} (drawn : channelMap.getCpAddress R now 10 = (cps, rng))
    (nobody : cps = [] ∨ channelMap.getSpAddress hash 1 = []) : channelMap.getSpAddress hash 1 = [] := by
  rcases nobody with empty | nowhere
  · by_contra carried
    exact getCpAddress_ne_nil carried now (by rw [drawn]; exact empty)
  · exact nowhere

theorem handedOut_iff_possible {channelMap : ChannelMap} {inCount : Nat} {channel : MapStr × ChannelNode} :
    HandedOut channelMap inCount channel ↔
      ∃ iR, channel.2.spAddress ∈ (stretch channelMap inCount iR).map fun channel => channel.2.spAddress := by
  constructor
  · rintro ⟨_, R, now, possible⟩
    rw [getCpAddress_eq] at possible
    exact ⟨_, possible⟩
  · rintro ⟨iR, possible⟩
    refine ⟨fun R now => ⟨_, getCpAddress_eq channelMap now inCount, stretch_length .., ?_, ?_⟩,
      constant iR, 0, ?_⟩
    · exact fun channel member => (stretch_sublist channelMap inCount _).subset member
    · have ranks : (channelMap.entries.map fun channel => channel.1.rank).Nodup :=
        List.pairwise_map.mpr (channelMap.sorted.imp ne_of_lt)
      exact ranks.sublist ((stretch_sublist channelMap inCount _).map _)
    · rw [getCpAddress_eq]
      exact possible

theorem mem_stretch_map {α β : Type} {entries : List α} {address : α → β} {first count : Nat} {value : β} :
    value ∈ ((entries.drop first).take count).map address ↔
      ∃ position other, first ≤ position ∧ position < first + count ∧ entries[position]? = some other ∧
        address other = value := by
  constructor
  · intro member
    obtain ⟨other, inside, same⟩ := List.mem_map.mp member
    obtain ⟨index, bound, found⟩ := List.mem_iff_getElem.mp inside
    have short : index < count := by
      rw [List.length_take] at bound
      omega
    refine ⟨first + index, other, by omega, by omega, ?_, same⟩
    rw [← List.getElem?_drop, ← List.getElem?_take_of_lt short, ← found]
    exact List.getElem?_eq_getElem bound
  · rintro ⟨position, other, begun, ended, found, same⟩
    refine List.mem_map.mpr ⟨other, List.mem_of_getElem? (i := position - first) ?_, same⟩
    rw [List.getElem?_take_of_lt (by omega), List.getElem?_drop, Nat.add_sub_cancel' begun]
    exact found

/-- A channel with the address lies before the end of some stretch. The start is a remainder by one
less than there are places to start at. -/
def InReach (channelMap : ChannelMap) (inCount : Nat) (address : NetAddress) : Prop :=
  ∃ position other, channelMap.entries[position]? = some other ∧ other.2.spAddress = address ∧
    position < min (channelMap.size - inCount) 2147483648 + inCount - 1

theorem inReach_of_drawn {channelMap : ChannelMap} {inCount : Nat} (many : inCount < channelMap.size)
    {address : NetAddress} {iR : Fin 2147483648}
    (drawn : address ∈ (stretch channelMap inCount iR).map fun channel => channel.2.spAddress) :
    InReach channelMap inCount address := by
  rw [stretch, if_pos many] at drawn
  obtain ⟨position, other, _, ended, found, same⟩ := mem_stretch_map.mp drawn
  refine ⟨position, other, found, same, ?_⟩
  have below := Nat.mod_lt iR.val (show 0 < channelMap.size - inCount by omega)
  have drawable : iR.val % (channelMap.size - inCount) ≤ iR.val := Nat.mod_le _ _
  have largest := iR.isLt
  omega

theorem drawn_of_inReach {channelMap : ChannelMap} {inCount : Nat} (positive : 1 ≤ inCount)
    (many : inCount < channelMap.size) {address : NetAddress} (reach : InReach channelMap inCount address) :
    ∃ iR, address ∈ (stretch channelMap inCount iR).map fun channel => channel.2.spAddress := by
  obtain ⟨position, other, found, same, below⟩ := reach
  let start := min position (min (channelMap.size - inCount) 2147483648 - 1)
  have short : start < channelMap.size - inCount := by omega
  have drawable : start < 2147483648 := by omega
  refine ⟨⟨start, drawable⟩, ?_⟩
  rw [stretch, if_pos many, Nat.mod_eq_of_lt short]
  exact mem_stretch_map.mpr ⟨position, other, by omega, by omega, found, same⟩

theorem drawn_of_few {channelMap : ChannelMap} {inCount : Nat} (few : channelMap.size ≤ inCount)
    {channel : MapStr × ChannelNode} (member : channel ∈ channelMap.entries) (iR : Fin 2147483648) :
    channel.2.spAddress ∈ (stretch channelMap inCount iR).map fun channel => channel.2.spAddress := by
  have whole : stretch channelMap inCount iR = channelMap.entries := by
    rw [stretch, if_neg (Nat.not_lt.mpr few)]
    exact List.take_of_length_le few
  rw [whole]
  exact List.mem_map_of_mem member

/-- A super peer can be handed out if and only if no more are asked for than there are, or its
address is that of a channel which some stretch takes in. -/
theorem handed_out_iff {channelMap : ChannelMap} {inCount : Nat} (positive : 1 ≤ inCount)
    {channel : MapStr × ChannelNode} (member : channel ∈ channelMap.entries) :
    HandedOut channelMap inCount channel ↔
      channelMap.size ≤ inCount ∨ InReach channelMap inCount channel.2.spAddress := by
  rw [handedOut_iff_possible]
  constructor
  · rintro ⟨iR, drawn⟩
    by_cases many : inCount < channelMap.size
    · exact Or.inr (inReach_of_drawn many drawn)
    · exact Or.inl (Nat.not_lt.mp many)
  · intro reach
    by_cases many : inCount < channelMap.size
    · exact drawn_of_inReach positive many (reach.resolve_left (Nat.not_le.mpr many))
    · exact ⟨0, drawn_of_few (Nat.not_lt.mp many) member 0⟩

theorem first_of_two_handed_out : HandedOut twoSuperPeers 1
    (.ofUuid (.fill _ 97), { ChannelNode.init 0 with spAddress := ⟨AF_INET, 1, 1⟩ }) :=
  (handed_out_iff (by decide) (by decide)).mpr (Or.inr ⟨0, _, rfl, rfl, by decide⟩)

/-- The second of two super peers gets no peers from a tracker that names one at a time. -/
theorem second_never_handed_out : ¬∀ channelMap inCount channel, 1 ≤ inCount → channel ∈ channelMap.entries →
    HandedOut channelMap inCount channel := by
  intro handedOut
  obtain ⟨iR, drawn⟩ := handedOut_iff_possible.mp (handedOut twoSuperPeers 1
    (.ofUuid (.fill _ 98), { ChannelNode.init 0 with spAddress := ⟨AF_INET, 1, 2⟩ }) (by decide) (by decide))
  obtain ⟨position, other, found, same, below⟩ := inReach_of_drawn (by decide) drawn
  have first : position = 0 := by
    have size : twoSuperPeers.size = 2 := by decide
    omega
  subst first
  cases found
  cases same

end RabbitStreamer.Tracker.SpAddresses
