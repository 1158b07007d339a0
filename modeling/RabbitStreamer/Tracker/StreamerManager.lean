import RabbitStreamer.Core.StructDefine
import RabbitStreamer.Core.Streamer
import RabbitStreamer.Lib.OrderedMap
import RabbitStreamer.Tracker.Uuid

/-! `RsTrackerStreamManager`: the registered super peers and their channels. -/

namespace RabbitStreamer.Tracker.StreamerManager
open RabbitStreamer.Lib RabbitStreamer.Core.Struct RabbitStreamer.Core.StructDefine RabbitStreamer.Core.Streamer
open RabbitStreamer.Tracker.Uuid

/-- `channel_map`. The nodes in it are made by `operator=`, so each has `resourceCount` hashes. -/
abbrev ChannelMap := OrderedMap MapStr.rank ChannelNode

namespace ChannelMap

def getChannelInterval (channelMap : ChannelMap) (channelHash : MD5HashStr) : Option BlockInterval :=
  channelMap.entries.findSome? fun entry =>
    (entry.2.pHash.find? fun hash => hash.same channelHash).map MD5HashStr.blockInterval

def getChannelCount (channelMap : ChannelMap) : Nat := channelMap.size

/-- A copy of the node, which the clock stamps. -/
def getChannel (channelMap : ChannelMap) (now : Int) (uuid : MapStr) : Except Halt (Option ChannelNode) :=
  match channelMap.find uuid with
  | none => .ok none
  | some entry => (entry.2.assign now).map some

def insertChannel (channelMap : ChannelMap) (now : Int) (uuid : MapStr) (chnl : ChannelNode) :
    Except Halt ChannelMap := do
  let node ← channelMap.getChannel now uuid
  let pNode ← chnl.assign now
  match node with
  | none => pure (channelMap.insert uuid pNode)
  | some _ => pure (channelMap.adjust uuid fun _ => pNode)

def deleteChannel (channelMap : ChannelMap) (uuid : MapStr) : ChannelMap := channelMap.erase uuid

/-- `get_cp_address` for one super peer: all addresses but its own. The array has room for one
entry less than there are channels; none where more are written. -/
def getCpAddressExcept (channelMap : ChannelMap) (uuid : MapStr) : Option (List NetAddress) :=
  let sel := (channelMap.find uuid).map fun entry => entry.2.spAddress
  let inCount := channelMap.getChannelCount - 1
  if inCount = 0 then some []
  else
    let others := (channelMap.entries.map fun entry => entry.2.spAddress).filter fun spAddress =>
      match sel with
      | none => true
      | some own => !own.same spAddress
    if others.length ≤ inCount then some others else none

/-- `get_cp_address` for normal peers: a stretch of the map, from a random position where there
are more channels than asked for. The generator is seeded with the clock first. -/
def getCpAddress (R : Rand) (channelMap : ChannelMap) (now : Int) (inCount : Nat) : List NetAddress × R.State :=
  let rng := R.srand (Lib.Bytes.ofInt32 now)
  let imax := channelMap.size
  let (iPos, rng) :=
    if inCount < imax then
      let (iR, rng) := R.rand rng
      (iR.val % (imax - inCount), rng)
    else (0, rng)
  (((channelMap.entries.drop iPos).take inCount).map fun entry => entry.2.spAddress, rng)

/-- The super peers that have a channel, at most `inCount` of them. -/
def getSpAddress (channelMap : ChannelMap) (resHash : MD5HashStr) (inCount : Nat) : List NetAddress :=
  let having := channelMap.entries.filter fun entry => entry.2.pHash.any fun hash => hash.same resHash
  (having.take inCount).map fun entry => entry.2.spAddress

end ChannelMap

open ChannelMap

theorem getChannel_unknown {channelMap : ChannelMap} {uuid : MapStr} (unknown : channelMap.find uuid = none)
    (now : Int) : channelMap.getChannel now uuid = .ok none := by
  simp only [getChannel, unknown]

theorem getChannel_known {channelMap : ChannelMap} {uuid : MapStr} {entry : MapStr × ChannelNode}
    (known : channelMap.find uuid = some entry) (now : Int) :
    channelMap.getChannel now uuid = (entry.2.assign now).map some := by
  simp only [getChannel, known]

theorem insertChannel_unknown {channelMap : ChannelMap} {uuid : MapStr} (unknown : channelMap.find uuid = none)
    (now : Int) (chnl : ChannelNode) :
    channelMap.insertChannel now uuid chnl = (chnl.assign now).map fun pNode => channelMap.insert uuid pNode := by
  simp only [insertChannel, getChannel_unknown unknown]
  cases chnl.assign now <;> rfl

theorem insertChannel_known {channelMap : ChannelMap} {uuid : MapStr} {entry : MapStr × ChannelNode}
    (known : channelMap.find uuid = some entry) (now : Int) (chnl : ChannelNode) :
    channelMap.insertChannel now uuid chnl = (entry.2.assign now).bind fun _ =>
      (chnl.assign now).map fun pNode => channelMap.adjust uuid fun _ => pNode := by
  simp only [insertChannel, getChannel_known known]
  cases entry.2.assign now with
  | error reason => rfl
  | ok copy => cases chnl.assign now <;> rfl

theorem insertChannel_eq_ok {channelMap after : ChannelMap} {uuid : MapStr} {now : Int} {chnl : ChannelNode}
    (inserted : channelMap.insertChannel now uuid chnl = .ok after) :
    ∃ pNode, chnl.assign now = .ok pNode ∧
      (channelMap.find uuid = none ∧ after = channelMap.insert uuid pNode ∨
        (∃ entry, channelMap.find uuid = some entry) ∧ after = channelMap.adjust uuid fun _ => pNode) := by
  cases found : channelMap.find uuid with
  | none =>
    rw [insertChannel_unknown found] at inserted
    cases copied : chnl.assign now with
    | error reason => simp [copied, Except.map] at inserted
    | ok pNode =>
      simp only [copied, Except.map, Except.ok.injEq] at inserted
      exact ⟨pNode, rfl, Or.inl ⟨rfl, inserted.symm⟩⟩
  | some entry =>
    rw [insertChannel_known found] at inserted
    cases old : entry.2.assign now with
    | error reason => simp [old, Except.bind] at inserted
    | ok copy =>
      cases copied : chnl.assign now with
      | error reason => simp [old, copied, Except.bind, Except.map] at inserted
      | ok pNode =>
        simp only [old, copied, Except.bind, Except.map, Except.ok.injEq] at inserted
        exact ⟨pNode, rfl, Or.inr ⟨⟨entry, rfl⟩, inserted.symm⟩⟩

theorem find_insertChannel {channelMap after : ChannelMap} {uuid : MapStr} {now : Int} {chnl pNode : ChannelNode}
    (inserted : channelMap.insertChannel now uuid chnl = .ok after) (copied : chnl.assign now = .ok pNode) :
    ∃ key, after.find uuid = some (key, pNode) := by
  obtain ⟨same, again, ⟨unknown, rfl⟩ | ⟨⟨entry, known⟩, rfl⟩⟩ := insertChannel_eq_ok inserted
  · cases copied.symm.trans again
    exact ⟨uuid, OrderedMap.find_insert_self _ unknown⟩
  · cases copied.symm.trans again
    rw [OrderedMap.find_adjust_self, known]
    exact ⟨entry.1, rfl⟩

theorem mem_insertChannel {channelMap after : ChannelMap} {uuid : MapStr} {now : Int} {chnl : ChannelNode}
    (inserted : channelMap.insertChannel now uuid chnl = .ok after) {entry : MapStr × ChannelNode}
    (member : entry ∈ after.entries) :
    entry.1.rank = uuid.rank ∧ chnl.assign now = .ok entry.2 ∨
      entry.1.rank ≠ uuid.rank ∧ entry ∈ channelMap.entries := by
  obtain ⟨pNode, copied, ⟨unknown, rfl⟩ | ⟨_, rfl⟩⟩ := insertChannel_eq_ok inserted
  · rcases OrderedMap.eq_or_mem_of_mem_insertEntry member with rfl | old
    · exact Or.inl ⟨rfl, copied⟩
    · exact Or.inr ⟨OrderedMap.find_eq_none.mp unknown entry old, old⟩
  · obtain ⟨value, old, changed⟩ := OrderedMap.mem_adjust member
    split_ifs at changed with self
    · exact Or.inl ⟨self, changed ▸ copied⟩
    · rw [← changed] at old
      exact Or.inr ⟨self, old⟩

theorem insertChannel_eq_error {channelMap : ChannelMap} {uuid : MapStr} {now : Int} {chnl : ChannelNode}
    {reason : Halt} (failed : channelMap.insertChannel now uuid chnl = .error reason) : reason = .fault := by
  have inserting : ∀ change : ChannelNode → ChannelMap, (chnl.assign now).map change = .error reason →
      reason = .fault := by
    intro change failed
    cases copied : chnl.assign now with
    | error other =>
      simp only [copied, Except.map, Except.error.injEq] at failed
      exact failed ▸ ChannelNode.assign_eq_error copied
    | ok pNode => simp [copied, Except.map] at failed
  cases found : channelMap.find uuid with
  | none =>
    rw [insertChannel_unknown found] at failed
    exact inserting _ failed
  | some entry =>
    rw [insertChannel_known found] at failed
    cases old : entry.2.assign now with
    | error other =>
      simp only [old, Except.bind, Except.error.injEq] at failed
      exact failed ▸ ChannelNode.assign_eq_error old
    | ok copy =>
      simp only [old, Except.bind] at failed
      exact inserting _ failed

end RabbitStreamer.Tracker.StreamerManager
