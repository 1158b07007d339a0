import RabbitStreamer.Core.StructDefine
import RabbitStreamer.Core.Streamer
import RabbitStreamer.Lib.OrderedMap
import RabbitStreamer.Tracker.Uuid

/-! `RsTrackerNpCoordinator`: the logged-in peers and the search for those that have a block. -/

namespace RabbitStreamer.Tracker.NpManager
open RabbitStreamer.Lib RabbitStreamer.Core.Struct RabbitStreamer.Core.StructDefine RabbitStreamer.Core.Streamer
open RabbitStreamer.Tracker.Uuid

abbrev MAX_IDLE_TIME_SEC : Int := 600

/-- `npnode_map`. -/
abbrev NpnodeMap := OrderedMap MapStr.rank NPNode

namespace NpnodeMap

def timerCheck (npnodeMap : NpnodeMap) (currTime : Int) : NpnodeMap :=
  npnodeMap.filter fun entry => decide ¬MAX_IDLE_TIME_SEC < currTime - entry.2.lastRecvReportTime

def insertNode (npnodeMap : NpnodeMap) (digits : MapStr) (node : NPNode) : NpnodeMap :=
  match npnodeMap.find digits with
  | none => npnodeMap.insert digits node.assign
  | some _ => npnodeMap.adjust digits fun _ => node.assign

def deleteNode (npnodeMap : NpnodeMap) (digits : MapStr) : NpnodeMap := npnodeMap.erase digits

def getNode (npnodeMap : NpnodeMap) (digits : MapStr) : Option NPNode :=
  (npnodeMap.find digits).map fun entry => entry.2.assign

/-- `it++` a number of times; none past the end of the map. -/
def seek {α : Type} : Nat → List α → Option (List α)
  | 0, entries => some entries
  | _ + 1, [] => none
  | count + 1, _ :: rest => seek count rest

/-- The choice of a group among `iRange`: in each pass a group is drawn and its number in the
table replaced by -1. Of the groups drawn the last one counts, and where every draw is 0 the
group is 0. None for an index outside the table. -/
def pickGroup (R : Rand) (iRange : Nat) : Nat → Int → List Int → R.State → Option (Int × List Int × R.State)
  | 0, iPos, groupID, rng => some (iPos, groupID, rng)
  | passes + 1, iPos, groupID, rng =>
      let (r1, rng) := R.rand rng
      if r1.val = 0 then pickGroup R iRange passes iPos groupID rng
      else
        let id := r1.val % iRange
        match groupID[id]? with
        | none => none
        | some group => pickGroup R iRange passes group (groupID.set id (-1)) rng

/-- What a call of `get_np_address` asks for. -/
structure Query where
  resHash : MD5HashStr
  uuid : MapStr
  inCount : Nat
  currentblockID : UInt32

def Query.wants (query : Query) (node : NPNode) : Bool :=
  node.channelIDMd5.same query.resHash && node.digits.differs query.uuid &&
    node.intervalArray.findBlock query.currentblockID

def Query.put (query : Query) (found : List PeerInfoWithAddr) (entry : PeerInfoWithAddr) :
    Option (List PeerInfoWithAddr) :=
  if found.length < query.inCount then some (found ++ [entry]) else none

/-- The `for` loop over the nodes. It gives back where its iterator stopped; `iLimit` is compared
and never counted up. -/
def gather (query : Query) (iLimit : Nat) :
    List (MapStr × NPNode) → List PeerInfoWithAddr → Option (List (MapStr × NPNode) × List PeerInfoWithAddr)
  | [], found => some ([], found)
  | entry :: rest, found =>
      if 30 ≤ iLimit then some (entry :: rest, found)
      else if query.inCount ≤ found.length then some (entry :: rest, found)
      else if query.wants entry.2 then
        match query.put found ⟨entry.2.coreInfo, entry.2.clientAddress⟩ with
        | none => none
        | some found => gather query iLimit rest found
      else gather query iLimit rest found

/-- The `do` loop, for no more than `passes` passes. -/
def search (R : Rand) (npnodeMap : NpnodeMap) (query : Query) (iRange : Nat) :
    Nat → List Int → List PeerInfoWithAddr → R.State → Except Halt (List PeerInfoWithAddr × R.State)
  | 0, _, _, _ => .error .unfinished
  | passes + 1, groupID, found, rng =>
      match pickGroup R iRange iRange 0 groupID rng with
      | none => .error .fault
      | some (iPos, groupID, rng) =>
          if iPos = -1 then .ok (found, rng)
          else
            match seek (iPos * 30).toNat npnodeMap.entries with
            | none => .error .fault
            | some it =>
                match gather query 0 it found with
                | none => .error .fault
                | some (it, found) =>
                    if it ≠ [] then .ok (found, rng)
                    else if query.inCount ≤ found.length then .ok (found, rng)
                    else search R npnodeMap query iRange passes groupID found rng

/-- The entries found, in the order in which they were written. The first result of `rand` is
not used. -/
def getNpAddress (R : Rand) (npnodeMap : NpnodeMap) (query : Query) (passes : Nat) (rng : R.State) :
    Except Halt (List PeerInfoWithAddr × R.State) :=
  let iRange := npnodeMap.size / 30 + 1
  let groupID := (List.range iRange).map Int.ofNat
  let (_, rng) := R.rand rng
  search R npnodeMap query iRange passes groupID [] rng

end NpnodeMap

open NpnodeMap

def Answers (npnodeMap : NpnodeMap) (query : Query) (entry : PeerInfoWithAddr) : Prop :=
  ∃ stored ∈ npnodeMap.entries, query.wants stored.2 = true ∧ entry = ⟨stored.2.coreInfo, stored.2.clientAddress⟩

theorem seek_eq_drop {α : Type} {count : Nat} {entries : List α} (inside : count ≤ entries.length) :
    seek count entries = some (entries.drop count) := by
  induction count generalizing entries with
  | zero => rfl
  | succ count ih =>
    cases entries with
    | nil => simp at inside
    | cons head rest => exact ih (Nat.le_of_succ_le_succ inside)

def GroupsOf (iRange : Nat) (groupID : List Int) : Prop :=
  groupID.length = iRange ∧ ∀ group ∈ groupID, group = -1 ∨ 0 ≤ group ∧ group < iRange

theorem groupsOf_range (iRange : Nat) : GroupsOf iRange ((List.range iRange).map Int.ofNat) := by
  refine ⟨by simp, fun group member => Or.inr ?_⟩
  obtain ⟨id, inside, rfl⟩ := List.mem_map.mp member
  have below := List.mem_range.mp inside
  exact ⟨Int.natCast_nonneg id, Int.ofNat_lt.mpr below⟩

theorem pickGroup_spec (R : Rand) {iRange : Nat} (positive : 0 < iRange) (passes : Nat) {iPos : Int}
    {groupID : List Int} (groups : GroupsOf iRange groupID) (valid : iPos = -1 ∨ 0 ≤ iPos ∧ iPos < iRange)
    (rng : R.State) :
    ∃ group left after, pickGroup R iRange passes iPos groupID rng = some (group, left, after) ∧
      GroupsOf iRange left ∧ (group = -1 ∨ 0 ≤ group ∧ group < iRange) := by
  induction passes generalizing iPos groupID rng with
  | zero => exact ⟨iPos, groupID, rng, rfl, groups, valid⟩
  | succ passes ih =>
    unfold pickGroup
    generalize R.rand rng = drawn
    obtain ⟨r1, rest⟩ := drawn
    by_cases zero : r1.val = 0
    · simp only [zero, if_true]
      exact ih groups valid rest
    · have below : r1.val % iRange < groupID.length := by
        rw [groups.1]
        exact Nat.mod_lt _ positive
      simp only [if_neg zero, List.getElem?_eq_getElem below]
      refine ih ⟨by rw [List.length_set, groups.1], fun group member => ?_⟩
        (groups.2 _ (List.getElem_mem below)) rest
      rcases List.mem_or_eq_of_mem_set member with old | new
      · exact groups.2 group old
      · exact Or.inl new

theorem gather_spec (npnodeMap : NpnodeMap) (query : Query) (iLimit : Nat) {entries : List (MapStr × NPNode)}
    (stored : ∀ entry ∈ entries, entry ∈ npnodeMap.entries) {found : List PeerInfoWithAddr}
    (sound : ∀ entry ∈ found, Answers npnodeMap query entry) :
    ∃ it more, gather query iLimit entries found = some (it, more) ∧
      ∀ entry ∈ more, Answers npnodeMap query entry := by
  induction entries generalizing found with
  | nil => exact ⟨[], found, rfl, sound⟩
  | cons head rest ih =>
    have storedRest : ∀ entry ∈ rest, entry ∈ npnodeMap.entries := fun entry member =>
      stored entry (List.mem_cons_of_mem _ member)
    unfold gather
    split_ifs with limit full wanted
    · exact ⟨_, found, rfl, sound⟩
    · exact ⟨_, found, rfl, sound⟩
    · simp only [Query.put, if_pos (Nat.lt_of_not_le full)]
      refine ih storedRest fun entry member => ?_
      rcases List.mem_append.mp member with old | new
      · exact sound entry old
      · rw [List.mem_singleton.mp new]
        exact ⟨head, stored head (List.mem_cons_self ..), wanted, rfl⟩
    · exact ih storedRest sound

theorem search_spec (R : Rand) (npnodeMap : NpnodeMap) (query : Query) {iRange : Nat}
    (range : iRange = npnodeMap.size / 30 + 1) (passes : Nat) {groupID : List Int}
    (groups : GroupsOf iRange groupID) {found : List PeerInfoWithAddr}
    (sound : ∀ entry ∈ found, Answers npnodeMap query entry) (rng : R.State) :
    search R npnodeMap query iRange passes groupID found rng = .error .unfinished ∨
    ∃ entries after, search R npnodeMap query iRange passes groupID found rng = .ok (entries, after) ∧
      ∀ entry ∈ entries, Answers npnodeMap query entry := by
  induction passes generalizing groupID found rng with
  | zero => exact Or.inl rfl
  | succ passes ih =>
    have positive : 0 < iRange := by omega
    obtain ⟨group, left, after, picked, groupsLeft, valid⟩ :=
      pickGroup_spec R positive iRange groups (Or.inr ⟨le_refl 0, by omega⟩) rng
    simp only [search, picked]
    by_cases unpicked : group = -1
    · rw [if_pos unpicked]
      exact Or.inr ⟨found, after, rfl, sound⟩
    · have ⟨natural, below⟩ := valid.resolve_left unpicked
      have inside : (group * 30).toNat ≤ npnodeMap.entries.length := by
        unfold OrderedMap.size at range
        omega
      have stored : ∀ entry ∈ npnodeMap.entries.drop (group * 30).toNat, entry ∈ npnodeMap.entries :=
        fun entry member => List.mem_of_mem_drop member
      obtain ⟨it, more, gathered, soundMore⟩ := gather_spec npnodeMap query 0 stored sound
      rw [if_neg unpicked, seek_eq_drop inside]
      simp only [gathered]
      split_ifs
      · exact Or.inr ⟨more, after, rfl, soundMore⟩
      · exact Or.inr ⟨more, after, rfl, soundMore⟩
      · exact ih groupsLeft soundMore after

theorem getNpAddress_spec (R : Rand) (npnodeMap : NpnodeMap) (query : Query) (passes : Nat) (rng : R.State) :
    getNpAddress R npnodeMap query passes rng = .error .unfinished ∨
    ∃ entries after, getNpAddress R npnodeMap query passes rng = .ok (entries, after) ∧
      ∀ entry ∈ entries, Answers npnodeMap query entry := by
  unfold getNpAddress
  exact search_spec R npnodeMap query rfl passes (groupsOf_range _) (by simp) _

theorem gather_congr {first second : Query} (wants : first.wants = second.wants)
    (count : first.inCount = second.inCount)
    (iLimit : Nat) (entries : List (MapStr × NPNode)) (found : List PeerInfoWithAddr) :
    gather first iLimit entries found = gather second iLimit entries found := by
  induction entries generalizing found with
  | nil => rfl
  | cons head rest ih => simp only [gather, Query.put, wants, count, ih]

theorem search_congr (R : Rand) (npnodeMap : NpnodeMap) {first second : Query} (wants : first.wants = second.wants)
    (count : first.inCount = second.inCount) (iRange passes : Nat) (groupID : List Int)
    (found : List PeerInfoWithAddr) (rng : R.State) :
    search R npnodeMap first iRange passes groupID found rng =
      search R npnodeMap second iRange passes groupID found rng := by
  induction passes generalizing groupID found rng with
  | zero => rfl
  | succ passes ih => simp only [search, gather_congr wants count, count, ih]

theorem getNpAddress_congr (R : Rand) (npnodeMap : NpnodeMap) {first second : Query}
    (wants : first.wants = second.wants) (count : first.inCount = second.inCount) (passes : Nat) (rng : R.State) :
    npnodeMap.getNpAddress R first passes rng = npnodeMap.getNpAddress R second passes rng :=
  search_congr R npnodeMap wants count _ passes _ [] _

def Named (npnodeMap : NpnodeMap) : Prop := ∀ entry ∈ npnodeMap.entries, entry.2.digits.rank = entry.1.rank

theorem named_empty : Named .empty := by simp [Named, OrderedMap.empty]

theorem Named.timerCheck {npnodeMap : NpnodeMap} (named : Named npnodeMap) (currTime : Int) :
    Named (npnodeMap.timerCheck currTime) := fun entry member => named entry (OrderedMap.mem_filter.mp member).1

theorem Named.deleteNode {npnodeMap : NpnodeMap} (named : Named npnodeMap) (digits : MapStr) :
    Named (npnodeMap.deleteNode digits) := fun entry member => named entry (OrderedMap.mem_filter.mp member).1

theorem mem_insertNode {npnodeMap : NpnodeMap} {digits : MapStr} {node : NPNode} {entry : MapStr × NPNode}
    (member : entry ∈ (npnodeMap.insertNode digits node).entries) :
    entry.1.rank = digits.rank ∧ entry.2 = node.assign ∨
      entry.1.rank ≠ digits.rank ∧ entry ∈ npnodeMap.entries := by
  cases known : npnodeMap.find digits with
  | none =>
    simp only [NpnodeMap.insertNode, known] at member
    rcases OrderedMap.eq_or_mem_of_mem_insertEntry member with rfl | old
    · exact Or.inl ⟨rfl, rfl⟩
    · exact Or.inr ⟨OrderedMap.find_eq_none.mp known entry old, old⟩
  | some stored =>
    simp only [NpnodeMap.insertNode, known] at member
    obtain ⟨value, old, changed⟩ := OrderedMap.mem_adjust member
    split_ifs at changed with self
    · exact Or.inl ⟨self, changed⟩
    · rw [← changed] at old
      exact Or.inr ⟨self, old⟩

theorem insertNode_unknown {npnodeMap : NpnodeMap} {digits : MapStr} (unknown : npnodeMap.find digits = none)
    (node : NPNode) : npnodeMap.insertNode digits node = npnodeMap.insert digits node.assign := by
  simp only [NpnodeMap.insertNode, unknown]

theorem getNode_eq_some {npnodeMap : NpnodeMap} {digits : MapStr} {node : NPNode} :
    npnodeMap.getNode digits = some node ↔ ∃ entry, npnodeMap.find digits = some entry ∧ entry.2.assign = node := by
  simp [getNode]

theorem find_insertNode (npnodeMap : NpnodeMap) (digits : MapStr) (node : NPNode) :
    ∃ key, (npnodeMap.insertNode digits node).find digits = some (key, node.assign) := by
  cases known : npnodeMap.find digits with
  | none =>
    rw [insertNode_unknown known]
    exact ⟨digits, OrderedMap.find_insert_self _ known⟩
  | some stored =>
    refine ⟨stored.1, ?_⟩
    simp only [NpnodeMap.insertNode, known]
    rw [OrderedMap.find_adjust_self, known]
    rfl

theorem getNode_insertNode (npnodeMap : NpnodeMap) (digits : MapStr) (node : NPNode) :
    (npnodeMap.insertNode digits node).getNode digits = some node.assign.assign := by
  obtain ⟨key, found⟩ := find_insertNode npnodeMap digits node
  exact getNode_eq_some.mpr ⟨(key, node.assign), found, rfl⟩

theorem Named.insertNode {npnodeMap : NpnodeMap} (named : Named npnodeMap) {digits : MapStr} {node : NPNode}
    (same : node.digits.rank = digits.rank) : Named (npnodeMap.insertNode digits node) := by
  intro entry member
  rcases mem_insertNode member with ⟨self, changed⟩ | ⟨_, old⟩
  · rw [changed, NPNode.assign_digits, same, self]
  · exact named entry old

theorem getNode_eq_none {npnodeMap : NpnodeMap} {digits : MapStr} :
    npnodeMap.getNode digits = none ↔ npnodeMap.find digits = none := by
  simp [getNode]

theorem Named.getNode {npnodeMap : NpnodeMap} (named : Named npnodeMap) {digits : MapStr} {node : NPNode}
    (found : npnodeMap.getNode digits = some node) : node.digits.rank = digits.rank := by
  obtain ⟨entry, listed, rfl⟩ := getNode_eq_some.mp found
  have ⟨member, same⟩ := OrderedMap.find_eq_some.mp listed
  exact (named entry member).trans same

end RabbitStreamer.Tracker.NpManager
