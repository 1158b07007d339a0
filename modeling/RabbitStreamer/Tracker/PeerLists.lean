import RabbitStreamer.Lib.Scans
import RabbitStreamer.Tracker.NpManager

/-! Which nodes the entries of a peer list come from, by the groups that were drawn. -/

namespace RabbitStreamer.Tracker.PeerLists
open RabbitStreamer.Lib.Scans RabbitStreamer.Core.Struct RabbitStreamer.Core.StructDefine
open RabbitStreamer.Core.Streamer RabbitStreamer.Tracker.Uuid RabbitStreamer.Tracker.NpManager
open RabbitStreamer.Tracker.NpManager.NpnodeMap

abbrev Stored := MapStr × NPNode

def entryOf (stored : Stored) : PeerInfoWithAddr := ⟨stored.2.coreInfo, stored.2.clientAddress⟩

/-- `gather` with the nodes in place of the entries that they contribute. -/
def gatherNodes (query : Query) (iLimit : Nat) : List Stored → List Stored → List Stored × List Stored
  | [], nodes => ([], nodes)
  | stored :: rest, nodes =>
      if 30 ≤ iLimit then (stored :: rest, nodes)
      else if query.inCount ≤ nodes.length then (stored :: rest, nodes)
      else if query.wants stored.2 then gatherNodes query iLimit rest (nodes ++ [stored])
      else gatherNodes query iLimit rest nodes

/-- `search` with the nodes in place of the entries that they contribute. -/
def searchNodes (R : Rand) (npnodeMap : NpnodeMap) (query : Query) (iRange : Nat) :
    Nat → List Int → List Stored → R.State → Except Halt (List Stored × R.State)
  | 0, _, _, _ => .error .unfinished
  | passes + 1, groupID, nodes, rng =>
      match pickGroup R iRange iRange 0 groupID rng with
      | none => .error .fault
      | some (iPos, groupID, rng) =>
          if iPos = -1 then .ok (nodes, rng)
          else
            match seek (iPos * 30).toNat npnodeMap.entries with
            | none => .error .fault
            | some it =>
                let (it, nodes) := gatherNodes query 0 it nodes
                if it ≠ [] then .ok (nodes, rng)
                else if query.inCount ≤ nodes.length then .ok (nodes, rng)
                else searchNodes R npnodeMap query iRange passes groupID nodes rng

/-- `getNpAddress` with the nodes in place of the entries that they contribute. -/
def getNpNodes (R : Rand) (npnodeMap : NpnodeMap) (query : Query) (passes : Nat) (rng : R.State) :
    Except Halt (List Stored × R.State) :=
  let iRange := npnodeMap.size / 30 + 1
  let groupID := (List.range iRange).map Int.ofNat
  let (_, rng) := R.rand rng
  searchNodes R npnodeMap query iRange passes groupID [] rng

theorem gather_nodes (query : Query) (iLimit : Nat) (entries nodes : List Stored) :
    gather query iLimit entries (nodes.map entryOf) =
      some ((gatherNodes query iLimit entries nodes).1, (gatherNodes query iLimit entries nodes).2.map entryOf) := by
  induction entries generalizing nodes with
  | nil => rfl
  | cons stored rest ih =>
    unfold gather gatherNodes
    rw [List.length_map]
    split_ifs with limit full wanted
    · rfl
    · rfl
    · have next := ih (nodes ++ [stored])
      rw [List.map_append] at next
      rw [Query.put, List.length_map, if_pos (Nat.lt_of_not_le full)]
      exact next
    · exact ih nodes

theorem search_nodes (R : Rand) (npnodeMap : NpnodeMap) (query : Query) (iRange passes : Nat) (groupID : List Int)
    (nodes : List Stored) (rng : R.State) :
    search R npnodeMap query iRange passes groupID (nodes.map entryOf) rng =
      (searchNodes R npnodeMap query iRange passes groupID nodes rng).map fun done =>
        (done.1.map entryOf, done.2) := by
  induction passes generalizing groupID nodes rng with
  | zero => rfl
  | succ passes ih =>
    unfold search searchNodes
    cases pickGroup R iRange iRange 0 groupID rng with
    | none => rfl
    | some picked =>
      obtain ⟨iPos, left, after⟩ := picked
      dsimp only
      split_ifs with tried
      · rfl
      · cases seek (iPos * 30).toNat npnodeMap.entries with
        | none => rfl
        | some it =>
          simp only [gather_nodes, List.length_map]
          split_ifs
          · rfl
          · rfl
          · exact ih left _ after

theorem getNpAddress_nodes (R : Rand) (npnodeMap : NpnodeMap) (query : Query) (passes : Nat) (rng : R.State) :
    npnodeMap.getNpAddress R query passes rng =
      (getNpNodes R npnodeMap query passes rng).map fun done => (done.1.map entryOf, done.2) :=
  search_nodes R npnodeMap query _ passes _ [] _

def asked (query : Query) (stored : Stored) : Bool := query.wants stored.2

/-- The loop over the nodes takes those that are asked for until there are enough, and stops before
the end of the map only then. -/
theorem gatherNodes_eq (query : Query) (entries nodes : List Stored) :
    ∃ it, gatherNodes query 0 entries nodes =
        (it, nodes ++ (entries.filter (asked query)).take (query.inCount - nodes.length)) ∧
      (it ≠ [] → query.inCount ≤ nodes.length + (entries.filter (asked query)).length) := by
  induction entries generalizing nodes with
  | nil => exact ⟨[], by simp [gatherNodes], fun more => absurd rfl more⟩
  | cons stored rest ih =>
    unfold gatherNodes
    rw [if_neg (by decide)]
    split_ifs with full wanted
    · rw [Nat.sub_eq_zero_of_le full, List.take_zero, List.append_nil]
      exact ⟨_, rfl, fun _ => full.trans (Nat.le_add_right ..)⟩
    · obtain ⟨it, gathered, stopped⟩ := ih (nodes ++ [stored])
      have room : query.inCount - nodes.length = query.inCount - (nodes.length + 1) + 1 := by omega
      rw [List.filter_cons_of_pos (show asked query stored = true from wanted), room, List.take_succ_cons]
      rw [List.length_append, List.length_singleton, List.append_assoc] at gathered
      rw [List.length_append, List.length_singleton, Nat.add_right_comm] at stopped
      exact ⟨it, gathered, stopped⟩
    · rw [List.filter_cons_of_neg (show ¬asked query stored = true from wanted)]
      exact ih nodes

def picks (R : Rand) (iRange : Nat) : Nat → List Int → R.State → List Int
  | 0, _, _ => []
  | passes + 1, groupID, rng =>
      match pickGroup R iRange iRange 0 groupID rng with
      | none => []
      | some (iPos, groupID, rng) => if iPos = -1 then [] else iPos :: picks R iRange passes groupID rng

/-- Where the scans begin that the draws call for, as places in the map. -/
def starts (R : Rand) (npnodeMap : NpnodeMap) (passes : Nat) (rng : R.State) : List Nat :=
  let iRange := npnodeMap.size / 30 + 1
  (picks R iRange passes ((List.range iRange).map Int.ofNat) (R.rand rng).2).map fun iPos => (iPos * 30).toNat

theorem seek_some {α : Type} {count : Nat} {entries it : List α} (found : seek count entries = some it) :
    it = entries.drop count := by
  induction count generalizing entries with
  | zero => exact (Option.some.inj found).symm
  | succ count ih =>
    cases entries with
    | nil => cases found
    | cons head rest => exact ih found

theorem searchNodes_eq {R : Rand} {npnodeMap : NpnodeMap} {query : Query} {iRange passes : Nat}
    {groupID : List Int} {nodes final : List Stored} {rng rest : R.State}
    (ended : searchNodes R npnodeMap query iRange passes groupID nodes rng = .ok (final, rest)) :
    final = collect npnodeMap.entries (asked query) query.inCount
      ((picks R iRange passes groupID rng).map fun iPos => (iPos * 30).toNat) nodes := by
  induction passes generalizing groupID nodes rng with
  | zero => cases ended
  | succ passes ih =>
    unfold searchNodes at ended
    unfold picks
    cases picked : pickGroup R iRange iRange 0 groupID rng with
    | none =>
      rw [picked] at ended
      cases ended
    | some round =>
      obtain ⟨iPos, left, after⟩ := round
      rw [picked] at ended
      dsimp only at ended ⊢
      by_cases tried : iPos = -1
      · rw [if_pos tried] at ended ⊢
        cases ended
        rfl
      rw [if_neg tried] at ended ⊢
      cases sought : seek (iPos * 30).toNat npnodeMap.entries with
      | none =>
        rw [sought] at ended
        cases ended
      | some it =>
        have behindStart : it.filter (asked query) = behind npnodeMap.entries (asked query) (iPos * 30).toNat := by
          rw [seek_some sought]
          rfl
        obtain ⟨stop, gathered, stopped⟩ := gatherNodes_eq query it nodes
        rw [behindStart] at gathered stopped
        rw [sought] at ended
        simp only [gathered] at ended
        rw [List.map_cons, collect]
        by_cases enough : query.inCount ≤
            nodes.length + (behind npnodeMap.entries (asked query) (iPos * 30).toNat).length
        · rw [if_pos enough]
          split_ifs at ended with more full
          · cases ended
            rfl
          · cases ended
            rfl
          · rw [List.length_append, List.length_take] at full
            omega
        · have short := Nat.lt_of_not_le enough
          have toEnd : ¬stop ≠ [] := fun more => enough (stopped more)
          rw [if_neg enough]
          rw [if_neg toEnd, List.take_of_length_le (by omega), List.length_append, if_neg enough] at ended
          exact ih ended

theorem getNpNodes_eq {R : Rand} {npnodeMap : NpnodeMap} {query : Query} {passes : Nat} {rng rest : R.State}
    {nodes : List Stored} (ended : getNpNodes R npnodeMap query passes rng = .ok (nodes, rest)) :
    nodes = collect npnodeMap.entries (asked query) query.inCount (starts R npnodeMap passes rng) [] :=
  searchNodes_eq ended

theorem getNpNodes_of_ended {R : Rand} {npnodeMap : NpnodeMap} {query : Query} {passes : Nat} {rng rest : R.State}
    {found : List PeerInfoWithAddr} (ended : npnodeMap.getNpAddress R query passes rng = .ok (found, rest)) :
    ∃ nodes, getNpNodes R npnodeMap query passes rng = .ok (nodes, rest) ∧ found = nodes.map entryOf ∧
      nodes = collect npnodeMap.entries (asked query) query.inCount (starts R npnodeMap passes rng) [] := by
  rw [getNpAddress_nodes] at ended
  cases searched : getNpNodes R npnodeMap query passes rng with
  | error reason =>
    rw [searched] at ended
    cases ended
  | ok done =>
    rw [searched] at ended
    cases ended
    exact ⟨done.1, rfl, rfl, getNpNodes_eq searched⟩

theorem contributors_iff {R : Rand} {npnodeMap : NpnodeMap} {query : Query} {passes : Nat} {rng rest : R.State}
    {found : List PeerInfoWithAddr} (ended : npnodeMap.getNpAddress R query passes rng = .ok (found, rest))
    (holds : List Stored → Prop) :
    (∃ nodes, getNpNodes R npnodeMap query passes rng = .ok (nodes, rest) ∧ found = nodes.map entryOf ∧ holds nodes) ↔
      holds (collect npnodeMap.entries (asked query) query.inCount (starts R npnodeMap passes rng) []) := by
  obtain ⟨nodes, searched, same, collected⟩ := getNpNodes_of_ended ended
  rw [← collected]
  constructor
  · intro contributors
    obtain ⟨others, again, _, held⟩ := contributors
    cases searched.symm.trans again
    exact held
  · exact fun held => ⟨nodes, searched, same, held⟩

theorem entries_nodup (npnodeMap : NpnodeMap) : npnodeMap.entries.Nodup :=
  npnodeMap.sorted.imp fun less same => absurd (same ▸ less) (lt_irrefl _)

def tape : Rand where
  State := List (Fin 2147483648)
  rand draws := (draws.headD 0, draws.tail)
  srand _ := []

def peer (n : Nat) : Stored :=
  let digits : MapStr := ⟨.ofList _ [UInt8.ofNat (33 + n)]⟩
  (digits, { NPNode.init 100 with
    digits
    intervalArray := if n = 30 then ⟨[⟨0, 10⟩], 1, by decide, by decide⟩ else .init })

def thirtyOne : NpnodeMap := ⟨(List.range 31).map peer, by decide +kernel⟩

def whoHas5 : Query := ⟨⟨.fill _ 0, ⟨0, 0⟩⟩, ⟨.fill _ 97⟩, 20, 5⟩

theorem exists_of_isOk {ε α : Type} {result : Except ε α} (ok : result.isOk = true) :
    ∃ value, result = .ok value := by
  cases result with
  | error reason => cases ok
  | ok value => exact ⟨value, rfl⟩

def firstThenSecond : List (Fin 2147483648) := [0, 2, 0, 1, 0, 1, 1]

/-- No node contributes twice if and only if each scan after the first ends before it comes to what
an earlier one has found, or finds nothing there. -/
theorem contributes_once_iff {R : Rand} {npnodeMap : NpnodeMap} {query : Query} (positive : 0 < query.inCount)
    {passes : Nat} {rng rest : R.State} {found : List PeerInfoWithAddr}
    (ended : npnodeMap.getNpAddress R query passes rng = .ok (found, rest)) :
    (∃ nodes, getNpNodes R npnodeMap query passes rng = .ok (nodes, rest) ∧ found = nodes.map entryOf ∧
      nodes.Nodup) ↔
      Once npnodeMap.entries (asked query) query.inCount 0 npnodeMap.size (starts R npnodeMap passes rng) := by
  have nothing : behind npnodeMap.entries (asked query) npnodeMap.size = [] := by
    unfold behind
    rw [show npnodeMap.entries.drop npnodeMap.size = [] from List.drop_length, List.filter_nil]
  apply (contributors_iff ended List.Nodup).trans
  exact nodup_collect_iff (entries_nodup npnodeMap) List.nodup_nil (fun item => by rw [nothing]) positive

theorem last_peer_once : ∃ found rest, thirtyOne.getNpAddress tape { whoHas5 with inCount := 1 } 5 firstThenSecond =
      .ok (found, rest) ∧
    ((∃ nodes, getNpNodes tape thirtyOne { whoHas5 with inCount := 1 } 5 firstThenSecond = .ok (nodes, rest) ∧
      found = nodes.map entryOf ∧ nodes.Nodup) ↔
      Once thirtyOne.entries (asked { whoHas5 with inCount := 1 }) 1 0 thirtyOne.size
        (starts tape thirtyOne 5 firstThenSecond)) := by
  obtain ⟨⟨found, rest⟩, ended⟩ := exists_of_isOk
    (show (thirtyOne.getNpAddress tape { whoHas5 with inCount := 1 } 5 firstThenSecond).isOk = true by decide +kernel)
  exact ⟨found, rest, ended, contributes_once_iff (by decide) ended⟩

/-- Where twenty are asked for, both scans find the last peer. -/
theorem last_peer_twice : ¬∀ (R : Rand) (npnodeMap : NpnodeMap) (query : Query) (passes : Nat) (rng rest : R.State)
    (found : List PeerInfoWithAddr), 0 < query.inCount →
    npnodeMap.getNpAddress R query passes rng = .ok (found, rest) →
    ∃ nodes, getNpNodes R npnodeMap query passes rng = .ok (nodes, rest) ∧ found = nodes.map entryOf ∧
      nodes.Nodup := by
  intro once
  obtain ⟨⟨found, rest⟩, ended⟩ := exists_of_isOk
    (show (thirtyOne.getNpAddress tape whoHas5 5 firstThenSecond).isOk = true by decide +kernel)
  obtain ⟨nodes, searched, _, nodup⟩ := once tape thirtyOne whoHas5 5 firstThenSecond rest found (by decide) ended
  have twice : collect thirtyOne.entries (asked whoHas5) whoHas5.inCount
      (starts tape thirtyOne 5 firstThenSecond) [] = [peer 30, peer 30] := by
    decide +kernel
  rw [getNpNodes_eq searched, twice] at nodup
  exact absurd nodup (by simp)

/-- No node that is asked for is missed in a list that is not full, if and only if enough are counted
behind the starts of the scans or one of them begins no later than each such node. -/
theorem all_contribute_iff {R : Rand} {npnodeMap : NpnodeMap} {query : Query} {passes : Nat} {rng rest : R.State}
    {found : List PeerInfoWithAddr} (ended : npnodeMap.getNpAddress R query passes rng = .ok (found, rest)) :
    (found.length < query.inCount → ∃ nodes, getNpNodes R npnodeMap query passes rng = .ok (nodes, rest) ∧
      found = nodes.map entryOf ∧ ∀ stored ∈ npnodeMap.entries, query.wants stored.2 = true → stored ∈ nodes) ↔
      query.inCount ≤ total npnodeMap.entries (asked query) (starts R npnodeMap passes rng) ∨
        ∀ position, ∀ inside : position < npnodeMap.entries.length,
          query.wants (npnodeMap.entries.get ⟨position, inside⟩).2 = true →
            ∃ start ∈ starts R npnodeMap passes rng, start ≤ position := by
  have all := contributors_iff ended fun nodes =>
    ∀ stored ∈ npnodeMap.entries, query.wants stored.2 = true → stored ∈ nodes
  obtain ⟨nodes, _, same, collected⟩ := getNpNodes_of_ended ended
  rw [all, same, List.length_map, collected]
  exact all_collected_iff (entries_nodup npnodeMap) (starts R npnodeMap passes rng)

theorem last_peer_found : ∃ found rest, thirtyOne.getNpAddress tape whoHas5 5 firstThenSecond = .ok (found, rest) ∧
    ((found.length < whoHas5.inCount → ∃ nodes,
      getNpNodes tape thirtyOne whoHas5 5 firstThenSecond = .ok (nodes, rest) ∧ found = nodes.map entryOf ∧
        ∀ stored ∈ thirtyOne.entries, whoHas5.wants stored.2 = true → stored ∈ nodes) ↔
      whoHas5.inCount ≤ total thirtyOne.entries (asked whoHas5) (starts tape thirtyOne 5 firstThenSecond) ∨
        ∀ position, ∀ inside : position < thirtyOne.entries.length,
          whoHas5.wants (thirtyOne.entries.get ⟨position, inside⟩).2 = true →
            ∃ start ∈ starts tape thirtyOne 5 firstThenSecond, start ≤ position) := by
  obtain ⟨⟨found, rest⟩, ended⟩ := exists_of_isOk
    (show (thirtyOne.getNpAddress tape whoHas5 5 firstThenSecond).isOk = true by decide +kernel)
  exact ⟨found, rest, ended, all_contribute_iff ended⟩

def secondTwice : List (Fin 2147483648) := [0, 1, 1]

/-- Nobody is scanned then, and the peer that has the block is missed. -/
theorem last_peer_missed : ¬∀ (R : Rand) (npnodeMap : NpnodeMap) (query : Query) (passes : Nat) (rng rest : R.State)
    (found : List PeerInfoWithAddr), 0 < query.inCount →
    npnodeMap.getNpAddress R query passes rng = .ok (found, rest) → found.length < query.inCount →
    ∃ nodes, getNpNodes R npnodeMap query passes rng = .ok (nodes, rest) ∧ found = nodes.map entryOf ∧
      ∀ stored ∈ npnodeMap.entries, query.wants stored.2 = true → stored ∈ nodes := by
  intro all
  obtain ⟨⟨found, rest⟩, ended⟩ := exists_of_isOk
    (show (thirtyOne.getNpAddress tape whoHas5 5 secondTwice).isOk = true by decide +kernel)
  obtain ⟨nodes, searched, same, collected⟩ := getNpNodes_of_ended ended
  have nobody : collect thirtyOne.entries (asked whoHas5) whoHas5.inCount (starts tape thirtyOne 5 secondTwice) [] =
      [] := by
    decide +kernel
  rw [nobody] at collected
  have few : found.length < whoHas5.inCount := by
    rw [same, collected]
    decide
  obtain ⟨others, again, _, complete⟩ := all tape thirtyOne whoHas5 5 secondTwice rest found (by decide) ended few
  cases searched.symm.trans again
  have missed := complete (peer 30) (List.mem_map_of_mem (List.mem_range.mpr (by decide))) (by decide +kernel)
  rw [collected] at missed
  cases missed

end RabbitStreamer.Tracker.PeerLists
