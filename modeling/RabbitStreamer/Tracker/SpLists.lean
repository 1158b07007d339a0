import RabbitStreamer.Tracker.SpAddresses
import RabbitStreamer.Tracker.SpConnector

/-! The list of super peers that the tracker sends, and the byte that counts them. -/

namespace RabbitStreamer.Tracker.SpLists
open RabbitStreamer.Core.Struct RabbitStreamer.Core.StructDefine RabbitStreamer.Core.Streamer
open RabbitStreamer.Core.Message RabbitStreamer.Core.Message.P2PMESSAGE RabbitStreamer.Core.MessageCodec
open RabbitStreamer.Tracker.Uuid RabbitStreamer.Tracker.StreamerManager RabbitStreamer.Tracker.State
open RabbitStreamer.Tracker.SpConnector RabbitStreamer.Tracker.SpAddresses

variable {R : Rand}

/-- The addresses of the channels that have another address than the one under the uuid. -/
def others (channelMap : ChannelMap) (uuid : MapStr) : List NetAddress :=
  (channelMap.entries.filter (elsewhere channelMap uuid)).map fun channel => channel.2.spAddress

def listFrame (count : UInt8) (addr : List NetAddress) : List UInt8 :=
  frame TS2SP_SP_LIST ([count] ++ addr.flatMap NetAddress.toBytes)

/-- A list goes out that has as many of the other addresses as a byte can count. -/
def ListsMost (tracker : TrackerState R) (uuid : MapStr) (result : Except Halt (TrackerState R × List Sent)) : Prop :=
  ∃ listed, listed.Sublist (others tracker.channelMap uuid) ∧
    listed.length = min (others tracker.channelMap uuid).length 255 ∧
    result = .ok (tracker, [.write (listFrame (UInt8.ofNat listed.length) listed)])

theorem writeArray_take {α : Type} (width : Nat) (write : α → RsWriter Unit) {count : Nat} {items : List α}
    (enough : count ≤ items.length) :
    writeArray width write count items = writeArray width write count (items.take count) := by
  induction count generalizing items with
  | zero => rfl
  | succ count ih =>
    cases items with
    | nil => exact absurd enough (by simp)
    | cons head tail =>
      rw [List.take_succ_cons, writeArray, writeArray, ih (Nat.le_of_succ_le_succ enough)]

theorem pack_counted (heap : Heap) {count : UInt8} {addr : List NetAddress} (enough : count.toNat ≤ addr.length) :
    pack heap (⟨count, addr⟩ : Ts2SpSpList) = .ok (listFrame count (addr.take count.toNat)) := by
  have few : count.toNat < 256 := count.toNat_lt
  have counted : (addr.take count.toNat).length = count.toNat := List.length_take_of_le enough
  have size : RsMessage.reservePackSize (⟨count, addr⟩ : Ts2SpSpList) =
      RsMessage.reservePackSize (⟨count, addr.take count.toNat⟩ : Ts2SpSpList) := rfl
  have same : RsMessage.packSubmsg (⟨count, addr⟩ : Ts2SpSpList) =
      RsMessage.packSubmsg (⟨count, addr.take count.toNat⟩ : Ts2SpSpList) :=
    congrArg (fun list : RsWriter Unit => do writeChar TS2SP_SP_LIST; writeChar count; list)
      (writeArray_take 8 (fun address => writeNbytes (NetAddress.toBytes address)) enough)
  have packed := (encodes_spList ⟨count, addr.take count.toNat⟩ counted).pack
    (by simp only [RsMessage.reservePackSize, basePackSize]; omega) heap
  rw [pack, packSink, size, same]
  exact packed

theorem sendSpList_registered {tracker : TrackerState R} {uuid : MapStr} {own : MapStr × ChannelNode}
    (registered : tracker.channelMap.find uuid = some own) (positive : 1 ≤ (others tracker.channelMap uuid).length)
    (lastReceiveAddr : NetAddress) (env : Env) :
    sendSpList uuid tracker lastReceiveAddr env = .ok (tracker, [.write (listFrame
      (UInt8.ofNat (others tracker.channelMap uuid).length)
      ((others tracker.channelMap uuid).take ((others tracker.channelMap uuid).length % 256)))]) := by
  have lists : tracker.channelMap.getCpAddressExcept uuid = some (others tracker.channelMap uuid) :=
    listsOthers_registered registered
  generalize others tracker.channelMap uuid = addr at *
  have count : (UInt8.ofNat addr.length).toNat = addr.length % 256 := UInt8.toNat_ofNat'
  have packed := @pack_counted env.heap (UInt8.ofNat addr.length) addr (by rw [count]; exact Nat.mod_le _ _)
  unfold sendSpList
  rw [lists]
  cases addr with
  | nil => exact absurd positive (by decide)
  | cons first rest =>
    rw [count] at packed
    dsimp only
    rw [packed]
    rfl

theorem count_of_listsMost {tracker : TrackerState R} {uuid : MapStr} {own : MapStr × ChannelNode}
    (registered : tracker.channelMap.find uuid = some own) (positive : 1 ≤ (others tracker.channelMap uuid).length)
    {lastReceiveAddr : NetAddress} {env : Env}
    (most : ListsMost tracker uuid (sendSpList uuid tracker lastReceiveAddr env)) :
    (others tracker.channelMap uuid).length % 256 = min (others tracker.channelMap uuid).length 255 := by
  rw [sendSpList_registered registered positive] at most
  obtain ⟨listed, _, length, sent⟩ := most
  simp only [Except.ok.injEq, Prod.mk.injEq, List.cons.injEq, Sent.write.injEq, true_and, and_true] at sent
  have count := congrArg UInt8.toNat (List.cons.inj (frame_inj sent)).1
  rw [UInt8.toNat_ofNat', UInt8.toNat_ofNat', length] at count
  omega

/-- The list is as long as it can be just where the number of the other channels fits in its count,
or the count that is cut is the largest. -/
theorem sp_list_most_iff {tracker : TrackerState R} {uuid : MapStr} {own : MapStr × ChannelNode}
    (registered : tracker.channelMap.find uuid = some own) (positive : 1 ≤ (others tracker.channelMap uuid).length)
    (lastReceiveAddr : NetAddress) (env : Env) :
    ListsMost tracker uuid (sendSpList uuid tracker lastReceiveAddr env) ↔
      (others tracker.channelMap uuid).length ≤ 255 ∨ (others tracker.channelMap uuid).length % 256 = 255 := by
  constructor
  · intro most
    have count := count_of_listsMost registered positive most
    omega
  · intro fits
    rw [sendSpList_registered registered positive]
    unfold ListsMost
    generalize others tracker.channelMap uuid = addr at fits
    have length : (addr.take (addr.length % 256)).length = addr.length % 256 :=
      List.length_take_of_le (Nat.mod_le _ _)
    have same : UInt8.ofNat addr.length = UInt8.ofNat (addr.length % 256) := by
      rw [← UInt8.toNat_inj, UInt8.toNat_ofNat', UInt8.toNat_ofNat', Nat.mod_mod]
    refine ⟨addr.take (addr.length % 256), List.take_sublist _ _, by rw [length]; omega, ?_⟩
    rw [length, same]

def twoRegistered : TrackerState .counting := ⟨.empty, twoSuperPeers, (0 : Nat), .init 0⟩

theorem sp_list_of_two : ListsMost twoRegistered (.ofUuid (.fill _ 97))
    (sendSpList (.ofUuid (.fill _ 97)) twoRegistered ⟨AF_INET, 1, 1⟩ ⟨0, fun _ => 0, 0, 0, 0, 255⟩) :=
  (@sp_list_most_iff .counting twoRegistered (.ofUuid (.fill _ 97)) _ rfl (by decide) _ _).mpr (by decide)

def named (i : Nat) : MapStr := .ofUuid (.ofList _ [UInt8.ofNat (1 + i / 64), UInt8.ofNat (1 + i % 64)])

theorem rank_named : ∀ i < 257, (named i).rank = [1 + i / 64, 1 + i % 64] := by decide +kernel

def crowd : ChannelMap where
  entries := (List.range 257).map fun i =>
    (named i, { ChannelNode.init 0 with spAddress := ⟨AF_INET, 1, UInt32.ofNat i⟩ })
  sorted := by
    refine List.pairwise_map.mpr (List.pairwise_lt_range.imp_of_mem fun {first second} left right before => ?_)
    rw [rank_named first (List.mem_range.mp left), rank_named second (List.mem_range.mp right)]
    simp only [List.cons_lt_cons_iff, List.not_lt_nil, and_false, or_false]
    omega

def crowded : TrackerState .counting := ⟨.empty, crowd, (0 : Nat), .init 0⟩

theorem others_crowded : (others crowded.channelMap (named 0)).length = 256 := by decide +kernel

theorem crowded_registered : crowded.channelMap.find (named 0) =
    some (named 0, { ChannelNode.init 0 with spAddress := ⟨AF_INET, 1, 0⟩ }) := by decide +kernel

/-- To the first of them a list of none goes out. -/
theorem sp_list_of_crowd : ¬ ∀ (tracker : TrackerState .counting) (uuid : MapStr) (own : MapStr × ChannelNode)
    (lastReceiveAddr : NetAddress) (env : Env), tracker.channelMap.find uuid = some own →
      1 ≤ (others tracker.channelMap uuid).length →
        ListsMost tracker uuid (sendSpList uuid tracker lastReceiveAddr env) := by
  intro most
  have positive : 1 ≤ (others crowded.channelMap (named 0)).length := by rw [others_crowded]; decide
  have listed := most crowded (named 0) _ ⟨AF_INET, 1, 0⟩ ⟨0, fun _ => 0, 0, 0, 0, 255⟩ crowded_registered positive
  have count := count_of_listsMost crowded_registered positive listed
  rw [others_crowded] at count
  exact absurd count (by decide)

end RabbitStreamer.Tracker.SpLists
