import RabbitStreamer.Tracker.Server

/-! The peers that a search finds: stored, on the same channel, with the block, and never the one
that asks. -/

namespace RabbitStreamer.Tracker.PeerSearch
open RabbitStreamer.Lib.Transition RabbitStreamer.Core.Struct RabbitStreamer.Core.StructDefine
open RabbitStreamer.Core.Streamer RabbitStreamer.Core.Message
open RabbitStreamer.Tracker.Uuid RabbitStreamer.Tracker.NpManager RabbitStreamer.Tracker.NpManager.NpnodeMap
open RabbitStreamer.Tracker.State RabbitStreamer.Tracker.Server
open RabbitStreamer.Tracker.NpConnector RabbitStreamer.Tracker.SpConnector

variable {R : Rand}

theorem asks_digits {stored node : NPNode} (asks : Asks stored node) : node.digits = stored.digits := by
  obtain ⟨_, _, rfl⟩ := asks
  rfl

theorem reports_digits {report : Np2TsReport} {stored node : NPNode} (reports : Reports report stored node) :
    node.digits = stored.digits := by
  cases reports
  rfl

theorem named_act {request : Request} {tracker after : TrackerState R} {lastReceiveAddr : NetAddress} {env : Env}
    {sent : List Sent} (named : Named tracker.npnodeMap)
    (acted : request.act tracker lastReceiveAddr env = .ok (after, sent)) : Named after.npnodeMap := by
  obtain same | ⟨login, uuid, _, _, _, changed⟩ | ⟨uuid, stored, node, known, change, changed⟩ | ⟨_, _, changed⟩ :=
    changesNodes_act acted
  · rw [same]
    exact named
  · rw [changed]
    exact named.insertNode rfl
  · have digits : node.digits = stored.digits := by
      rcases change with asks | ⟨_, _, reports⟩
      · exact asks_digits asks
      · exact reports_digits reports
    rw [changed]
    apply named.insertNode
    rw [digits]
    exact named.getNode known
  · rw [changed]
    exact named.deleteNode _

theorem named_step {tracker after : TrackerState R} {event : Event} (named : Named tracker.npnodeMap)
    (taken : step tracker event = some after) : Named after.npnodeMap := by
  obtain ⟨_, _, _, rfl⟩ | ⟨_, _, _, _, _, acted⟩ | ⟨currTime, _, rfl⟩ := step_cases taken
  · exact named
  · exact named_act named acted
  · exact named.timerCheck currTime

theorem named_run {rng : R.State} {unset : UInt32} {events : List Event} {tracker : TrackerState R}
    (reached : run step (.start R rng unset) events = some tracker) : Named tracker.npnodeMap :=
  run_invariant (fun tracker => Named tracker.npnodeMap) (fun _ _ _ named taken => named_step named taken)
    named_empty reached

/-- In every state of every run, a search for peers stays inside the map and the array that it
fills for as long as it is let run, and each peer it finds is a stored one that was asked for. -/
theorem search_finds_peers {rng : R.State} {unset : UInt32} {events : List Event} {tracker : TrackerState R}
    (reached : run step (.start R rng unset) events = some tracker) (S : Rand) (query : Query) (passes : Nat)
    (state : S.State) :
    tracker.npnodeMap.getNpAddress S query passes state = .error .unfinished ∨
    ∃ found rest, tracker.npnodeMap.getNpAddress S query passes state = .ok (found, rest) ∧
      ∀ peer ∈ found, ∃ entry ∈ tracker.npnodeMap.entries,
        peer = ⟨entry.2.coreInfo, entry.2.clientAddress⟩ ∧ entry.1.rank ≠ query.uuid.rank ∧
        entry.2.channelIDMd5.same query.resHash = true ∧
        entry.2.intervalArray.findBlock query.currentblockID = true := by
  have named := named_run reached
  obtain endless | ⟨found, rest, ended, sound⟩ := getNpAddress_spec S tracker.npnodeMap query passes state
  · exact Or.inl endless
  · refine Or.inr ⟨found, rest, ended, fun peer member => ?_⟩
    obtain ⟨entry, stored, wanted, same⟩ := sound peer member
    simp only [Query.wants, Bool.and_eq_true, MapStr.differs_iff] at wanted
    refine ⟨entry, stored, same, ?_, wanted.1.1, wanted.2⟩
    rw [← named entry stored]
    exact wanted.1.2

def twoPeers : List Event :=
  let env : Env := ⟨100, fun _ => 0, 0, 0, 5, 255⟩
  let login : Request := .login ⟨0, .fill _ 0, 0, 0, 1, [0x0100007f]⟩
  let report : Request :=
    .report ⟨(uuidOf ⟨5, 6, 7, 8⟩).uuid, .zero, 1, [⟨0, 10⟩], .zero, 0, 0, 0, 0, 0, 0, 0, 0, 0, 0⟩
  [.datagram (login.datagram .init env), .datagram (login.datagram .init env), .datagram (report.datagram .init env)]

theorem search_finds_reporter : ∃ tracker, run step (.start .counting (1 : Nat) 0) twoPeers = some tracker ∧
    ∃ peer rest, tracker.npnodeMap.getNpAddress .counting
        ⟨⟨.fill _ 0, ⟨0, 0⟩⟩, uuidOf ⟨1, 2, 3, 4⟩, 20, 5⟩ 5 (1 : Nat) = .ok ([peer], rest) ∧
      ∃ entry ∈ tracker.npnodeMap.entries, peer = ⟨entry.2.coreInfo, entry.2.clientAddress⟩ := by
  obtain ⟨tracker, reached⟩ := Option.isSome_iff_exists.mp
    (show (run step (.start .counting (1 : Nat) 0) twoPeers).isSome by decide +kernel)
  have one : (run step (.start .counting (1 : Nat) 0) twoPeers).all (fun tracker =>
      match tracker.npnodeMap.getNpAddress .counting
        ⟨⟨.fill _ 0, ⟨0, 0⟩⟩, uuidOf ⟨1, 2, 3, 4⟩, 20, 5⟩ 5 (1 : Nat) with
      | .ok (found, _) => found.length = 1
      | .error _ => false) = true := by
    decide +kernel
  rw [reached, Option.all_some] at one
  refine ⟨tracker, reached, ?_⟩
  obtain endless | ⟨found, rest, ended, sound⟩ := search_finds_peers reached .counting
    ⟨⟨.fill _ 0, ⟨0, 0⟩⟩, uuidOf ⟨1, 2, 3, 4⟩, 20, 5⟩ 5 (1 : Nat)
  · simp [endless] at one
  · simp only [ended, decide_eq_true_eq] at one
    obtain ⟨peer, rfl⟩ := List.length_eq_one_iff.mp one
    obtain ⟨entry, stored, same, _⟩ := sound peer (List.mem_singleton_self peer)
    exact ⟨peer, rest, ended, entry, stored, same⟩

end RabbitStreamer.Tracker.PeerSearch
