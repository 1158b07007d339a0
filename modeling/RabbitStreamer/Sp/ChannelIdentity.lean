import RabbitStreamer.Sp.BlockRelay
import RabbitStreamer.Sp.NpConnector
import RabbitStreamer.Tracker.NpManager
import RabbitStreamer.Tracker.StreamerManager

/-! The identity of a channel: a super peer finds its queue by `operator<`, the tracker finds the
channel by `operator==`, and `send_media_type` finds what it sends by `memcmp`. -/

namespace RabbitStreamer.Sp.ChannelIdentity
open RabbitStreamer.Lib RabbitStreamer.Lib.Bytes RabbitStreamer.Lib.CString RabbitStreamer.Lib.Transition
open RabbitStreamer.Core.Struct RabbitStreamer.Core.StructDefine RabbitStreamer.Protocol.BufferQueue
open RabbitStreamer.Sp.SourceManager RabbitStreamer.Sp.SourceManager.SourceMap RabbitStreamer.Sp.CsConnector
open RabbitStreamer.Sp.NpConnector RabbitStreamer.Sp.BlockRelay RabbitStreamer.Tracker.NpManager
open RabbitStreamer.Tracker.NpManager.NpnodeMap RabbitStreamer.Tracker.StreamerManager
open RabbitStreamer.Tracker.StreamerManager.ChannelMap RabbitStreamer.Tracker.Uuid

/-- The 32 bytes that `memcmp` compares. -/
def characters (hash : MD5HashStr) : List UInt8 := hash.hash.data.take MD5_LEN

abbrev requested (resourceHash : ByteArr MD5_LEN) : MD5HashStr := .ofMd5 resourceHash (.init 0)

/-- The three comparisons agree on whether these are one hash. -/
structure OneRelation (first second : MD5HashStr) : Prop where
  order : first.same second = true ↔ first.less second = false ∧ second.less first = false
  bytes : first.same second = true ↔ characters first = characters second

/-- Before either hash ends they differ in more than the case of a letter. -/
def DifferInText (first second : MD5HashStr) : Prop :=
  ∃ i < MD5_LEN, (∀ j < i, first.hash.data.getD j 0 ≠ 0) ∧
    tolower (first.hash.data.getD i 0) ≠ tolower (second.hash.data.getD i 0)

/-- The search of `send_media_type` among the sources. -/
def searchSource (sources : SourceMap) (resourceHash : ByteArr MD5_LEN) : Option SourceStatus :=
  sources.getSourceList.find? fun source => characters source.chnlHash = resourceHash.data

/-- What is found under `key` is the resource that was asked for, wherever it is looked for: `==`
matches, the scans of the tracker answer as they do for the key, and a media type message has
nothing in it that was left unset by the search. -/
structure MatchedAlike (sources : SourceMap) (key : MD5HashStr) (resourceHash : ByteArr MD5_LEN) : Prop where
  same : key.same (requested resourceHash) = true
  spAddress : ∀ (channelMap : ChannelMap) (inCount : Nat),
    channelMap.getSpAddress (requested resourceHash) inCount = channelMap.getSpAddress key inCount
  channelInterval : ∀ channelMap : ChannelMap,
    channelMap.getChannelInterval (requested resourceHash) = channelMap.getChannelInterval key
  npAddress : ∀ (R : Rand) (npnodeMap : NpnodeMap) (query : Query) (passes : Nat) (rng : R.State),
    npnodeMap.getNpAddress R { query with resHash := requested resourceHash } passes rng =
      npnodeMap.getNpAddress R { query with resHash := key } passes rng
  search : ∃ source, searchSource sources resourceHash = some source
  filled : ∀ (heap : Heap) (unset : Unset) (fields : Core.Message.Sp2SpMediatype),
    sendMediaType sources heap { unset with fields } resourceHash = sendMediaType sources heap unset resourceHash

theorem same_iff {first second : MD5HashStr} : first.same second = true ↔
    text UInt8.toNat MD5_LEN first.hash.data = text UInt8.toNat MD5_LEN second.hash.data := by
  rw [MD5HashStr.same, decide_eq_true_iff, strncmp, strncmpBy_eq_zero]

theorem unordered_iff {first second : MD5HashStr} :
    first.less second = false ∧ second.less first = false ↔ first.rank = second.rank := by
  rw [← Bool.not_eq_true, ← Bool.not_eq_true, MD5HashStr.less_iff, MD5HashStr.less_iff, not_lt, not_lt]
  exact ⟨fun both => le_antisymm both.2 both.1, fun equal => ⟨equal.ge, equal.le⟩⟩

theorem rank_ne_iff {first second : MD5HashStr} : first.rank ≠ second.rank ↔ DifferInText first second := by
  have going : ∀ byte : UInt8, tolower byte ≠ 0 ↔ byte ≠ 0 := fun byte =>
    not_congr (tolower_eq_zero.trans (UInt8.toNat_inj (b := 0)))
  simp only [MD5HashStr.rank, text_ne_iff, going, DifferInText]

theorem rank_eq_of_same {first second : MD5HashStr} (same : first.same second = true) : first.rank = second.rank := by
  by_contra different
  obtain ⟨i, inside, going, differ⟩ := rank_ne_iff.mp different
  refine (text_ne_iff UInt8.toNat MD5_LEN _ _).mpr ⟨i, inside, fun j below zero => ?_, fun equal => ?_⟩
    (same_iff.mp same)
  · exact going j below (UInt8.toNat_inj.mp zero)
  · exact differ (congrArg tolower (UInt8.toNat_inj.mp equal))

theorem same_of_characters {first second : MD5HashStr} (equal : characters first = characters second) :
    first.same second = true := same_iff.mpr (text_congr _ _ _ _ equal)

theorem oneRelation_iff (first second : MD5HashStr) :
    OneRelation first second ↔ characters first = characters second ∨ DifferInText first second := by
  rw [← rank_ne_iff]
  constructor
  · intro one
    by_cases equal : characters first = characters second
    · exact Or.inl equal
    · exact Or.inr fun ranked => equal (one.bytes.mp (one.order.mpr (unordered_iff.mpr ranked)))
  · rintro (equal | different)
    · have same := same_of_characters equal
      exact ⟨iff_of_true same (unordered_iff.mpr (rank_eq_of_same same)), iff_of_true same equal⟩
    · have other : ¬first.same second = true := fun same => different (rank_eq_of_same same)
      exact ⟨iff_of_false other fun both => different (unordered_iff.mp both),
        iff_of_false other fun equal => other (same_of_characters equal)⟩

theorem same_congr {first second : MD5HashStr} (alike : first.same second = true) (hash : MD5HashStr) :
    hash.same second = hash.same first := by
  rw [Bool.eq_iff_iff, same_iff, same_iff, same_iff.mp alike]

theorem sendMediaType_filled {sources : SourceMap} {resourceHash : ByteArr MD5_LEN} {source : SourceStatus}
    (found : searchSource sources resourceHash = some source) (heap : Heap) (unset : Unset)
    (fields : Core.Message.Sp2SpMediatype) :
    sendMediaType sources heap { unset with fields } resourceHash =
      sendMediaType sources heap unset resourceHash := by
  unfold searchSource characters at found
  simp only [sendMediaType, found, mediatypeMsg]

structure Keyed (md5 : List UInt8 → ByteArr MD5_LEN) (sources : SourceMap) : Prop where
  keys : ∀ entry ∈ sources.entries, entry.2.sourceHash = entry.1
  digests : ∀ entry ∈ sources.entries, ∃ name, characters entry.1 = (md5 name).data

theorem characters_ofMd5 (md5 : ByteArr MD5_LEN) (blockInterval : BlockInterval) :
    characters (.ofMd5 md5 blockInterval) = md5.data :=
  List.take_left' md5.length_data

theorem keyed_createSource {md5 : List UInt8 → ByteArr MD5_LEN} {sources : SourceMap} (keyed : Keyed md5 sources)
    (around : Surroundings) (channelName name : List UInt8) (blockInterval : BlockInterval) (source : Bool) :
    Keyed md5 (sources.createSource around (.ofMd5 (md5 channelName) blockInterval) name source) := by
  unfold createSource
  split
  · exact keyed
  · constructor
    · intro entry member
      rcases OrderedMap.eq_or_mem_of_mem_insertEntry member with rfl | old
      · rfl
      · exact keyed.keys entry old
    · intro entry member
      rcases OrderedMap.eq_or_mem_of_mem_insertEntry member with rfl | old
      · exact ⟨channelName, characters_ofMd5 _ _⟩
      · exact keyed.digests entry old

theorem keyed_adjust {md5 : List UInt8 → ByteArr MD5_LEN} {sources : SourceMap} (keyed : Keyed md5 sources)
    (hash : MD5HashStr) {change : RsBufferQueue → RsBufferQueue}
    (keeps : ∀ queue, sources.getBufferQueue hash = some queue → (change queue).sourceHash = queue.sourceHash) :
    Keyed md5 (sources.adjust hash change) := by
  constructor
  · intro entry member
    obtain ⟨queue, old, same⟩ := OrderedMap.mem_adjust member
    have own := keyed.keys _ old
    rw [same]
    split_ifs with ranked
    · exact (keeps queue (getBufferQueue_eq_some.mpr ⟨_, OrderedMap.find_eq_some.mpr ⟨old, ranked⟩⟩)).trans own
    · exact own
  · intro entry member
    obtain ⟨queue, old, _⟩ := OrderedMap.mem_adjust member
    obtain ⟨name, digested⟩ := keyed.digests _ old
    exact ⟨name, digested⟩

theorem kept_keyed (md5 : List UInt8 → ByteArr MD5_LEN) : Kept md5 fun sources _ => Keyed md5 sources where
  create keyed around channelName blockInterval name :=
    keyed_createSource keyed around channelName name blockInterval true
  header keyed hash _ := keyed_adjust keyed hash fun _ _ => rfl
  store keyed hash _ _ _ _ known stored _ _ := keyed_adjust keyed hash fun other found => by
    obtain rfl := Option.some.inj (known.symm.trans found)
    exact (storeBlock_keeps stored).2

theorem keyed_empty (md5 : List UInt8 → ByteArr MD5_LEN) : Keyed md5 .empty where
  keys := fun _ member => absurd member List.not_mem_nil
  digests := fun _ member => absurd member List.not_mem_nil

theorem run_keyed {md5 : List UInt8 → ByteArr MD5_LEN} {unset : Nat → MD5HashStr} {events : List CsEvent}
    {recorded : Recorded} (ran : run (CsConnector.step md5) (start unset) events = some recorded) :
    Keyed md5 recorded.peer.sources :=
  (kept_keyed md5).run (keyed_empty md5) ran

theorem searchSource_iff {md5 : List UInt8 → ByteArr MD5_LEN} {sources : SourceMap} (keyed : Keyed md5 sources)
    {resourceHash : ByteArr MD5_LEN} {key : MD5HashStr} {queue : RsBufferQueue}
    (found : sources.find (requested resourceHash) = some (key, queue)) :
    (∃ source, searchSource sources resourceHash = some source) ↔ characters key = resourceHash.data := by
  obtain ⟨member, ranked⟩ := OrderedMap.find_eq_some.mp found
  rw [← Option.isSome_iff_exists, searchSource, List.find?_isSome]
  constructor
  · rintro ⟨source, listed, equal⟩
    obtain ⟨entry, stored, rfl⟩ := List.mem_map.mp listed
    have spelled : characters entry.1 = resourceHash.data := by
      rw [← keyed.keys entry stored]
      exact of_decide_eq_true equal
    have same := same_of_characters (spelled.trans (characters_ofMd5 resourceHash (.init 0)).symm)
    cases sources.entry_unique stored member ((rank_eq_of_same same).trans ranked.symm)
    exact spelled
  · intro spelled
    refine ⟨_, List.mem_map.mpr ⟨(key, queue), member, rfl⟩, decide_eq_true ?_⟩
    exact (congrArg characters (keyed.keys _ member)).trans spelled

theorem matchedAlike_iff {md5 : List UInt8 → ByteArr MD5_LEN} {sources : SourceMap} (keyed : Keyed md5 sources)
    {resourceHash : ByteArr MD5_LEN} {key : MD5HashStr} {queue : RsBufferQueue}
    (found : sources.find (requested resourceHash) = some (key, queue)) :
    MatchedAlike sources key resourceHash ↔ characters key = resourceHash.data := by
  constructor
  · intro alike
    exact (searchSource_iff keyed found).mp alike.search
  · intro spelled
    have same : key.same (requested resourceHash) = true :=
      same_of_characters (spelled.trans (characters_ofMd5 resourceHash (.init 0)).symm)
    obtain ⟨source, searched⟩ := (searchSource_iff keyed found).mpr spelled
    exact {
      same
      spAddress := fun _ _ => by simp only [getSpAddress, same_congr same]
      channelInterval := fun _ => by simp only [getChannelInterval, same_congr same]
      npAddress := fun R npnodeMap query passes rng => by
        refine getNpAddress_congr R npnodeMap ?_ ?_ passes rng
        · funext node
          simp only [Query.wants, same_congr same]
        · rfl
      search := ⟨source, searched⟩
      filled := sendMediaType_filled searched }

/-- The comparisons agree on two hashes that are equal or differ in text, and a resource that
`source_hashmap` has is the one asked for when the request is spelled as the key. -/
theorem channel_identity_iff (md5 : List UInt8 → ByteArr MD5_LEN) (unset : Nat → MD5HashStr) (events : List CsEvent)
    (recorded : Recorded) (ran : run (CsConnector.step md5) (start unset) events = some recorded) :
    (∀ first second : MD5HashStr, OneRelation first second ↔
      characters first = characters second ∨ DifferInText first second) ∧
    ∀ (resourceHash : ByteArr MD5_LEN) (key : MD5HashStr) (queue : RsBufferQueue),
      recorded.peer.sources.find (requested resourceHash) = some (key, queue) →
      (MatchedAlike recorded.peer.sources key resourceHash ↔ characters key = resourceHash.data) :=
  ⟨oneRelation_iff, fun _ _ _ found => matchedAlike_iff (run_keyed ran) found⟩

theorem small_letters_found {resourceHash : ByteArr MD5_LEN}
    (ranked : (requested (.fill _ 97)).rank = (requested resourceHash).rank) :
    ∃ recorded key queue, run (CsConnector.step digest) (start blank) [registerEvent quiet] = some recorded ∧
      recorded.peer.sources.find (requested resourceHash) = some (key, queue) ∧
      characters key = List.replicate 32 97 := by
  obtain ⟨recorded, queue, taken, _, hash, known⟩ := registered digest blank quiet
  have ran : run (CsConnector.step digest) (start blank) [registerEvent quiet] = some recorded := by
    simp only [run, taken, Option.bind_some]
  obtain ⟨key, found⟩ := getBufferQueue_eq_some.mp known
  rw [OrderedMap.find_congr _ (hash.trans ranked)] at found
  obtain ⟨name, spelled⟩ := (run_keyed ran).digests _ (OrderedMap.find_eq_some.mp found).1
  exact ⟨recorded, key, queue, ran, found, spelled⟩

theorem small_letters_matched :
    ∃ recorded key queue, run (CsConnector.step digest) (start blank) [registerEvent quiet] = some recorded ∧
      recorded.peer.sources.find (requested (.fill _ 97)) = some (key, queue) ∧
      MatchedAlike recorded.peer.sources key (.fill _ 97) := by
  obtain ⟨recorded, key, queue, ran, found, spelled⟩ := @small_letters_found (.fill _ 97) rfl
  have alike := (channel_identity_iff digest blank [registerEvent quiet] recorded ran).2 _ key queue found
  exact ⟨recorded, key, queue, ran, found, alike.mpr spelled⟩

/-- In capitals the channel is found, but it is another one to `==` and to `memcmp`. -/
theorem capital_letters_apart :
    ¬OneRelation (requested (.fill _ 97)) (requested (.fill _ 65)) ∧
    ∃ recorded key queue, run (CsConnector.step digest) (start blank) [registerEvent quiet] = some recorded ∧
      recorded.peer.sources.find (requested (.fill _ 65)) = some (key, queue) ∧
      ¬MatchedAlike recorded.peer.sources key (.fill _ 65) := by
  constructor
  · intro one
    exact absurd (one.order.mpr (by decide +kernel)) (by decide +kernel)
  · obtain ⟨recorded, key, queue, ran, found, spelled⟩ := @small_letters_found (.fill _ 65) (by decide +kernel)
    refine ⟨recorded, key, queue, ran, found, fun alike => ?_⟩
    have capitals := (matchedAlike_iff (run_keyed ran) found).mp alike
    exact absurd (spelled.symm.trans capitals) (by decide +kernel)

end RabbitStreamer.Sp.ChannelIdentity
