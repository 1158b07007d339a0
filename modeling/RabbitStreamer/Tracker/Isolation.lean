import RabbitStreamer.Tracker.Server

/-! What a peer asks for touches no other peer. -/

namespace RabbitStreamer.Tracker.Isolation
open RabbitStreamer.Lib RabbitStreamer.Lib.Transition RabbitStreamer.Core.Struct RabbitStreamer.Core.StructDefine
open RabbitStreamer.Core.Streamer RabbitStreamer.Core.Message
open RabbitStreamer.Tracker.Uuid RabbitStreamer.Tracker.NpManager RabbitStreamer.Tracker.NpManager.NpnodeMap
open RabbitStreamer.Tracker.State RabbitStreamer.Tracker.Server RabbitStreamer.Tracker.NpConnector

variable {R : Rand}

def keys (npnodeMap : NpnodeMap) : List MapStr := npnodeMap.entries.map Prod.fst

/-- Seen from the peers that did not ask, nothing happened; only a logout takes a key away. -/
structure Isolated (request : Request) (uuid : MapStr) (tracker after : TrackerState R) : Prop where
  channels : after.channelMap = tracker.channelMap
  others : ∀ key : MapStr, key.rank ≠ uuid.rank → after.npnodeMap.find key = tracker.npnodeMap.find key
  kept : (∀ logout, request ≠ .logout logout) → keys after.npnodeMap = keys tracker.npnodeMap
  removed : ∀ logout, request = .logout logout →
    keys after.npnodeMap = (keys tracker.npnodeMap).filter fun key => decide (key.rank ≠ uuid.rank)
  unknown : tracker.npnodeMap.find uuid = none → after.npnodeMap = tracker.npnodeMap

theorem insertNode_known {npnodeMap : NpnodeMap} {uuid : MapStr} {stored : NPNode}
    (known : npnodeMap.getNode uuid = some stored) (node : NPNode) :
    npnodeMap.insertNode uuid node = npnodeMap.adjust uuid fun _ => node.assign := by
  obtain ⟨entry, found, _⟩ := getNode_eq_some.mp known
  simp only [NpnodeMap.insertNode, found]

theorem isolated_updates {request : Request} {uuid : MapStr} {changes : NPNode → NPNode → Prop}
    {tracker after : TrackerState R} (stays : ∀ logout, request ≠ .logout logout)
    (updates : Updates uuid changes tracker after) :
    Isolated request uuid tracker after := by
  obtain ⟨channels, same | ⟨stored, node, known, _, changed⟩⟩ := updates
  · refine ⟨channels, fun _ _ => ?_, fun _ => ?_, fun logout left => absurd left (stays logout), fun _ => same⟩
    · rw [same]
    · rw [same]
  · rw [insertNode_known known] at changed
    refine ⟨channels, fun key other => ?_, fun _ => ?_, fun logout left => absurd left (stays logout),
      fun absent => ?_⟩
    · rw [changed]
      exact OrderedMap.find_adjust_of_ne _ _ other
    · rw [changed]
      exact OrderedMap.keys_adjust _ _ _
    · rw [getNode_eq_none.mpr absent] at known
      cases known

theorem isolated_logout (logout : Np2TsLogout) (tracker : TrackerState R) :
    Isolated (.logout logout) (.ofUuid logout.uuid) tracker
      { tracker with npnodeMap := tracker.npnodeMap.deleteNode (.ofUuid logout.uuid) } where
  channels := rfl
  others _ other := OrderedMap.find_erase_of_ne _ other
  kept stays := absurd rfl (stays logout)
  removed _ _ := by
    simp only [keys, NpnodeMap.deleteNode, OrderedMap.erase, OrderedMap.filter, List.filter_map]
    apply congrArg
    apply List.filter_congr
    intro entry _
    exact decide_eq_decide.mpr Iff.rfl
  unknown absent := OrderedMap.erase_of_absent absent

/-- Each of these requests is served in isolation, unless the search for peers that it calls for
does not end. -/
theorem isolated_act {request : Request} {uuid : MapStr} (named : request.uuid = some uuid) {env : Env}
    (room : ∀ report, request = .report report → HasRoom env report) (tracker : TrackerState R)
    (lastReceiveAddr : NetAddress) :
    request.act tracker lastReceiveAddr env = .error .unfinished ∨
    ∃ after sent, request.act tracker lastReceiveAddr env = .ok (after, sent) ∧
      Isolated request uuid tracker after := by
  have served : ∀ {changes : NPNode → NPNode → Prop}, (∀ logout, request ≠ .logout logout) →
      Serves uuid changes tracker (request.act tracker lastReceiveAddr env) →
      request.act tracker lastReceiveAddr env = .error .unfinished ∨
      ∃ after sent, request.act tracker lastReceiveAddr env = .ok (after, sent) ∧
        Isolated request uuid tracker after := by
    rintro changes stays (endless | ⟨after, sent, acted, updates⟩)
    · exact Or.inl endless
    · exact Or.inr ⟨after, sent, acted, isolated_updates stays updates⟩
  cases request with
  | reqRes reqRes =>
    cases named
    exact served (by simp) (serves_getReqRes reqRes tracker lastReceiveAddr env)
  | report report =>
    cases named
    apply served (by simp)
    rw [Request.act, receiveReport_of_room (room report rfl)]
    exact serves_getReport report tracker lastReceiveAddr env
  | needPeers needPeers =>
    cases named
    exact served (by simp) (serves_getNeedPeers needPeers tracker lastReceiveAddr env)
  | resInterval resInterval =>
    cases named
    exact served (by simp) (serves_getResInterval resInterval tracker lastReceiveAddr env)
  | logout logout =>
    cases named
    exact Or.inr ⟨_, _, rfl, isolated_logout logout tracker⟩
  | _ => cases named

def clock : Env := ⟨100, fun _ => 0, 0, 0, 5, 255⟩

def twoWatchers : List Event :=
  let channel : Request := .resList ⟨(uuidOf ⟨1, 2, 3, 4⟩).uuid, 1, [⟨.fill _ 97, ⟨5, 10⟩⟩]⟩
  let login : Request := .login ⟨0, .fill _ 0, 0, 0, 1, [0x0100007f]⟩
  let watch (uuid : MapStr) : Request := .reqRes ⟨uuid.uuid, .fill _ 97⟩
  [(Request.register ⟨7, .fill _ 0, 0⟩).datagram .init clock, channel.datagram .init clock,
    login.datagram .init clock, login.datagram .init clock, (watch (uuidOf ⟨5, 6, 7, 8⟩)).datagram .init clock,
    (watch (uuidOf ⟨9, 10, 11, 12⟩)).datagram .init clock].map .datagram

def watcherReports : Request :=
  .report ⟨(uuidOf ⟨5, 6, 7, 8⟩).uuid, .zero, 2, [⟨0, 10⟩, ⟨20, 5⟩], .zero, 0, 0, 0, 0, 0, 0, 0, 0, 0, 0⟩

def watcherLeaves : Request := .logout ⟨(uuidOf ⟨5, 6, 7, 8⟩).uuid⟩

end RabbitStreamer.Tracker.Isolation
