import RabbitStreamer.Tracker.Server

/-! The uuids that peers and super peers are given, and the keys of the maps. -/

namespace RabbitStreamer.Tracker.Identity
open RabbitStreamer.Lib RabbitStreamer.Lib.Transition RabbitStreamer.Core.Struct RabbitStreamer.Core.StructDefine
open RabbitStreamer.Core.Streamer RabbitStreamer.Core.Message
open RabbitStreamer.Tracker.Uuid RabbitStreamer.Tracker.NpManager RabbitStreamer.Tracker.StreamerManager
open RabbitStreamer.Tracker.StreamerManager.ChannelMap RabbitStreamer.Tracker.State RabbitStreamer.Tracker.Server

variable {R : Rand}

def logsIn : Event → Bool
  | .timerCheck _ => false
  | .datagram datagram =>
      match datagram.request with
      | .ok (some (.login message)) => message.localIpListSize ≠ 0
      | _ => false

def registers : Event → Bool
  | .timerCheck _ => false
  | .datagram datagram =>
      match datagram.request with
      | .ok (some (.register _)) => true
      | _ => false

/-- The tracker, with the states from which the generator gave super peers their uuids so far. -/
structure Drawn (R : Rand) where
  tracker : TrackerState R
  registrations : List R.State

def Drawn.start (rng : R.State) (unset : UInt32) : Drawn R := ⟨.start R rng unset, []⟩

def stepDrawn (drawn : Drawn R) (event : Event) : Option (Drawn R) :=
  (step drawn.tracker event).map fun after => {
    tracker := after
    registrations := if registers event then drawn.tracker.rng :: drawn.registrations else drawn.registrations }

def nextName (rng : R.State) : List Nat := (generateUuid R rng).1.rank

def Issued (drawn : Drawn R) : Prop :=
  ∀ entry ∈ drawn.tracker.channelMap.entries, ∃ earlier ∈ drawn.registrations, nextName earlier = entry.1.rank

theorem mem_grown {α : Type} {grows : Bool} {item new : α} {items : List α} (member : item ∈ items) :
    item ∈ if grows then new :: items else items := by
  split_ifs
  · exact List.mem_cons_of_mem _ member
  · exact member

theorem node_keys {request : Request} {tracker after : TrackerState R} {lastReceiveAddr : NetAddress} {env : Env}
    {sent : List Sent} (acted : request.act tracker lastReceiveAddr env = .ok (after, sent))
    {entry : MapStr × NPNode} (member : entry ∈ after.npnodeMap.entries) :
    (∃ old ∈ tracker.npnodeMap.entries, old.1.rank = entry.1.rank) ∨
    (∃ login, request = .login login ∧ login.localIpListSize ≠ 0) ∧ nextName tracker.rng = entry.1.rank := by
  obtain same | ⟨login, uuid, isLogin, addresses, drawn, changed⟩ | ⟨uuid, stored, node, known, _, changed⟩ |
    ⟨logout, _, changed⟩ := changesNodes_act acted
  · rw [same] at member
    exact Or.inl ⟨entry, member, rfl⟩
  · rw [changed] at member
    rcases mem_insertNode member with ⟨self, _⟩ | ⟨_, old⟩
    · exact Or.inr ⟨⟨login, isLogin, addresses⟩, by rw [self, drawn]; rfl⟩
    · exact Or.inl ⟨entry, old, rfl⟩
  · rw [changed] at member
    rcases mem_insertNode member with ⟨self, _⟩ | ⟨_, old⟩
    · obtain ⟨present, found, _⟩ := getNode_eq_some.mp known
      obtain ⟨old, rank⟩ := OrderedMap.find_eq_some.mp found
      exact Or.inl ⟨present, old, rank.trans self.symm⟩
    · exact Or.inl ⟨entry, old, rfl⟩
  · rw [changed] at member
    exact Or.inl ⟨entry, (OrderedMap.mem_filter.mp member).1, rfl⟩

theorem channel_keys {request : Request} {tracker after : TrackerState R} {lastReceiveAddr : NetAddress} {env : Env}
    {sent : List Sent} (acted : request.act tracker lastReceiveAddr env = .ok (after, sent))
    {entry : MapStr × ChannelNode} (member : entry ∈ after.channelMap.entries) :
    (∃ old ∈ tracker.channelMap.entries, old.1.rank = entry.1.rank) ∨
    (∃ register, request = .register register) ∧ nextName tracker.rng = entry.1.rank := by
  obtain same | ⟨register, uuid, isRegister, drawn, inserted⟩ | ⟨uuid, listed, _, node, found, _, _, changed⟩ :=
    changesChannels_act acted
  · rw [same] at member
    exact Or.inl ⟨entry, member, rfl⟩
  · rcases mem_insertChannel inserted member with ⟨self, _⟩ | ⟨_, old⟩
    · exact Or.inr ⟨⟨register, isRegister⟩, by rw [self, drawn]; rfl⟩
    · exact Or.inl ⟨entry, old, rfl⟩
  · rw [changed] at member
    obtain ⟨value, old, _⟩ := OrderedMap.mem_adjust member
    exact Or.inl ⟨_, old, rfl⟩

theorem issued_step {drawn after : Drawn R} {event : Event} (issued : Issued drawn)
    (taken : stepDrawn drawn event = some after) : Issued after := by
  obtain ⟨next, stepped, rfl⟩ := Option.map_eq_some_iff.mp taken
  have kept : ∀ entry ∈ drawn.tracker.channelMap.entries, ∃ earlier ∈
      if registers event then drawn.tracker.rng :: drawn.registrations else drawn.registrations,
      nextName earlier = entry.1.rank := by
    intro entry member
    obtain ⟨earlier, known, name⟩ := issued entry member
    exact ⟨earlier, mem_grown known, name⟩
  obtain ⟨datagram, rfl, _, rfl⟩ | ⟨datagram, request, sent, rfl, found, acted⟩ | ⟨currTime, rfl, rfl⟩ :=
    step_cases stepped
  · exact kept
  · intro entry member
    obtain ⟨old, listed, rank⟩ | ⟨⟨register, rfl⟩, name⟩ := channel_keys acted member
    · obtain ⟨earlier, known, name⟩ := kept old listed
      exact ⟨earlier, known, name.trans rank⟩
    · exact ⟨drawn.tracker.rng, by simp [registers, found], name⟩
  · exact kept

theorem logsIn_iff {event : Event} : logsIn event = true ↔ ∃ datagram login, event = .datagram datagram ∧
    datagram.request = .ok (some (.login login)) ∧ login.localIpListSize ≠ 0 := by
  constructor
  · intro logged
    unfold logsIn at logged
    split at logged
    · cases logged
    · split at logged
      · exact ⟨_, _, rfl, by assumption, by simpa using logged⟩
      · cases logged
  · rintro ⟨datagram, login, rfl, found, addresses⟩
    simp [logsIn, found, addresses]

theorem registers_iff {event : Event} : registers event = true ↔ ∃ datagram register, event = .datagram datagram ∧
    datagram.request = .ok (some (.register register)) := by
  constructor
  · intro registered
    unfold registers at registered
    split at registered
    · cases registered
    · split at registered
      · exact ⟨_, _, rfl, by assumption⟩
      · cases registered
  · rintro ⟨datagram, register, rfl, found⟩
    simp [registers, found]

theorem login_keeps {tracker after : TrackerState R} {event : Event} (logged : logsIn event = true)
    (unknown : tracker.npnodeMap.find (generateUuid R tracker.rng).1 = none) (taken : step tracker event = some after)
    {key : MapStr} {entry : MapStr × NPNode} (present : tracker.npnodeMap.find key = some entry) :
    after.npnodeMap.find key = some entry := by
  obtain ⟨datagram, login, rfl, found, addresses⟩ := logsIn_iff.mp logged
  obtain ⟨uuid, rng, drawn⟩ : ∃ uuid rng, generateUuid R tracker.rng = (uuid, rng) := ⟨_, _, rfl⟩
  rw [drawn] at unknown
  simp only [step, receive_of_request found, Request.act, NpConnector.getLogin_some addresses drawn] at taken
  cases taken
  dsimp only
  rw [insertNode_unknown unknown]
  exact OrderedMap.find_insert_of_some _ unknown present

theorem registration_keeps {tracker after : TrackerState R} {event : Event} (registered : registers event = true)
    (unknown : tracker.channelMap.find (generateUuid R tracker.rng).1 = none)
    (taken : step tracker event = some after) {key : MapStr} {entry : MapStr × ChannelNode}
    (present : tracker.channelMap.find key = some entry) : after.channelMap.find key = some entry := by
  obtain ⟨datagram, register, rfl, found⟩ := registers_iff.mp registered
  obtain ⟨sent, acted⟩ := acted_of_step found taken
  obtain ⟨uuid, rng, channelMap, drawn, inserted, rfl, _⟩ := SpConnector.getRegister_eq_ok acted
  rw [drawn] at unknown
  obtain ⟨pNode, _, ⟨_, rfl⟩ | ⟨⟨entry, known⟩, _⟩⟩ := insertChannel_eq_ok inserted
  · exact OrderedMap.find_insert_of_some pNode unknown present
  · cases unknown.symm.trans known

theorem Issued.not_registered {drawn : Drawn R} (issued : Issued drawn)
    (new : ∀ earlier ∈ drawn.registrations, nextName earlier ≠ nextName drawn.tracker.rng) :
    drawn.tracker.channelMap.find (generateUuid R drawn.tracker.rng).1 = none := by
  apply OrderedMap.find_eq_none.mpr
  intro entry member
  obtain ⟨earlier, known, name⟩ := issued entry member
  exact fun same => new earlier known (name.trans same)

theorem sendPeers_reseeds {uuid : MapStr} {resHash : MD5HashStr} {currentblockID : UInt32}
    {tracker after : TrackerState R} {lastReceiveAddr : NetAddress} {env : Env} {sent : List Sent}
    (answered : NpConnector.sendPeers uuid resHash currentblockID tracker lastReceiveAddr env = .ok (after, sent)) :
    after.rng = (tracker.channelMap.getCpAddress R env.now 10).2 := by
  rcases NpConnector.sendPeers_cases uuid resHash currentblockID tracker lastReceiveAddr env with
    endless | ⟨cps, rng, peers, _, drawn, _, ⟨_, nothing⟩ | ⟨sp, _, _, _, ended⟩⟩
  · cases endless.symm.trans answered
  · cases nothing.symm.trans answered
    rw [drawn]
  · rw [ended] at answered
    rw [drawn]
    cases known : tracker.npnodeMap.getNode uuid with
    | none =>
      have unknown : ({ tracker with rng } : TrackerState R).npnodeMap.getNode uuid = none := known
      cases (NpConnector.answerPeers_unknown unknown resHash peers cps sp lastReceiveAddr env).symm.trans answered
      rfl
    | some stored =>
      have present : ({ tracker with rng } : TrackerState R).npnodeMap.getNode uuid = some stored := known
      obtain ⟨_, _, listed⟩ := NpConnector.answerPeers_known present resHash peers cps sp lastReceiveAddr env
      cases listed.symm.trans answered
      rfl

def second100 : Env := ⟨100, fun _ => 0, 0, 0, 5, 255⟩

end RabbitStreamer.Tracker.Identity
