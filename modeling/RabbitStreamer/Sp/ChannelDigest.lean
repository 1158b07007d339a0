import RabbitStreamer.Core.Md5Digest
import RabbitStreamer.Sp.ChannelIdentity

/-! Channels under the digests that `get_register` computes: 32 digits and small letters, on which
all comparisons agree. -/

namespace RabbitStreamer.Sp.ChannelDigest
open RabbitStreamer.Lib RabbitStreamer.Lib.Bytes RabbitStreamer.Lib.CString RabbitStreamer.Lib.Memory
open RabbitStreamer.Lib.Transition RabbitStreamer.Core.Md5 RabbitStreamer.Core.Md5Digest
open RabbitStreamer.Core.Message.P2PMESSAGE
open RabbitStreamer.Core.Struct RabbitStreamer.Core.StructDefine
open RabbitStreamer.Protocol.BufferQueue RabbitStreamer.Sp.SourceManager RabbitStreamer.Sp.SourceManager.SourceMap
open RabbitStreamer.Sp.CsConnector RabbitStreamer.Sp.BlockRelay RabbitStreamer.Sp.ChannelIdentity

/-- The text that `get_register` copies into `chnl_hash`, from a fresh `MD5`. -/
def registerHash (buffer : ByteArr 64) (digest : ByteArr 16) (channelName : List UInt8) : Option (List UInt8) := do
  let md5 ← (MD5.init buffer digest).update channelName (UInt32.ofNat channelName.length)
  let ended ← md5.finalize
  pure ended.hexDigest

theorem hexDigest_length (bytes : List UInt8) : (bytes.flatMap hexByte).length = 2 * bytes.length := by
  induction bytes with
  | nil => rfl
  | cons byte rest ih =>
    rw [List.flatMap_cons, List.length_append, ih, List.length_cons]
    change 2 + _ = _
    omega

theorem rawDigest_length (message : List UInt8) : (rawDigest message).length = 16 := by
  simp only [rawDigest, List.length_append, le32_length]

def channelHash (channelName : List UInt8) : ByteArr MD5_LEN :=
  ⟨md5Text channelName, by rw [md5Text, hexDigest_length, rawDigest_length]⟩

theorem registerHash_eq (buffer : ByteArr 64) (digest : ByteArr 16) {channelName : List UInt8}
    (bound : channelName.length ≤ 2 ^ 32 - 64) :
    registerHash buffer digest channelName = some (channelHash channelName).data := by
  obtain ⟨md5, fed, holds⟩ := feed_holds (holds_init buffer digest) bound
  obtain ⟨ended, finalized, done, raw, _⟩ := finalize_eq holds
  rw [feed] at fed
  simp only [registerHash, fed, finalized, Option.bind_eq_bind, Option.bind_some, MD5.hexDigest, if_pos done, raw]
  rfl

def SmallHex (byte : UInt8) : Prop := 48 ≤ byte.toNat ∧ byte.toNat ≤ 57 ∨ 97 ≤ byte.toNat ∧ byte.toNat ≤ 102

instance (byte : UInt8) : Decidable (SmallHex byte) := inferInstanceAs (Decidable (_ ∨ _))

theorem smallHex_hexByte (byte : UInt8) : ∀ digit ∈ hexByte byte, SmallHex digit := by
  have all : ∀ n : Fin 256, (hexByte (UInt8.ofNat n)).all fun digit => decide (SmallHex digit) := by decide +kernel
  have one := all ⟨byte.toNat, byte.toNat_lt⟩
  rw [UInt8.ofNat_toNat] at one
  intro digit member
  exact of_decide_eq_true (List.all_eq_true.mp one digit member)

theorem hexByte_injective {first second : UInt8} (same : hexByte first = hexByte second) : first = second := by
  have value : ∀ n : Fin 256, ∃ high low, hexByte (UInt8.ofNat n) = [high, low] ∧
      (if high < 58 then high - 48 else high - 87) * 16 + (if low < 58 then low - 48 else low - 87) =
        UInt8.ofNat n := by
    intro n
    refine ⟨_, _, rfl, ?_⟩
    revert n
    decide +kernel
  obtain ⟨high, low, left, first'⟩ := value ⟨first.toNat, first.toNat_lt⟩
  obtain ⟨high', low', right, second'⟩ := value ⟨second.toNat, second.toNat_lt⟩
  rw [UInt8.ofNat_toNat] at left right first' second'
  rw [left, right, List.cons.injEq, List.cons.injEq] at same
  rw [← first', ← second', same.1, same.2.1]

theorem hexDigest_injective {first second : List UInt8} (same : first.flatMap hexByte = second.flatMap hexByte) :
    first = second := by
  induction first generalizing second with
  | nil =>
    cases second with
    | nil => rfl
    | cons head tail => simp [hexByte] at same
  | cons byte rest ih =>
    cases second with
    | nil => simp [hexByte] at same
    | cons head tail =>
      rw [List.flatMap_cons, List.flatMap_cons] at same
      obtain ⟨one, more⟩ := List.append_inj same rfl
      rw [hexByte_injective one, ih more]

theorem smallHex_channelHash (channelName : List UInt8) : ∀ digit ∈ (channelHash channelName).data,
    SmallHex digit := by
  intro digit member
  obtain ⟨byte, _, printed⟩ := List.mem_flatMap.mp member
  exact smallHex_hexByte byte digit printed

theorem tolower_smallHex {byte : UInt8} (small : SmallHex byte) : tolower byte = byte.toNat := by
  unfold tolower
  unfold SmallHex at small
  rw [if_neg (by omega)]

theorem text_smallHex {digits : List UInt8} (small : ∀ digit ∈ digits, SmallHex digit) :
    text tolower digits.length digits = digits.map UInt8.toNat := by
  induction digits with
  | nil => rfl
  | cons digit rest ih =>
    have current := small digit (List.mem_cons_self ..)
    have going : digit.toNat ≠ 0 := by
      unfold SmallHex at current
      omega
    rw [List.length_cons, text, List.headD_cons, List.tail_cons, tolower_smallHex current, if_neg going,
      List.map_cons, ih fun other member => small other (List.mem_cons_of_mem _ member)]

theorem rank_eq {hash : MD5HashStr} {name : List UInt8} (spelled : characters hash = (channelHash name).data) :
    hash.rank = (characters hash).map UInt8.toNat := by
  have length : (characters hash).length = MD5_LEN := by rw [spelled, ByteArr.length_data]
  have read : hash.hash.data.take MD5_LEN = (characters hash).take MD5_LEN := by
    rw [characters, List.take_take, Nat.min_self]
  have small := text_smallHex (smallHex_channelHash name)
  rw [← spelled, length] at small
  rw [MD5HashStr.rank, text_congr _ _ _ _ read, small]

theorem rank_channelHash {first second : MD5HashStr} {name other : List UInt8}
    (left : characters first = (channelHash name).data) (right : characters second = (channelHash other).data) :
    first.rank = second.rank ↔ rawDigest name = rawDigest other := by
  rw [rank_eq left, rank_eq right, left, right]
  constructor
  · intro same
    exact hexDigest_injective (List.map_injective_iff.mpr (fun _ _ => UInt8.toNat_inj.mp) same)
  · intro same
    exact congrArg (fun raw => (List.flatMap hexByte raw).map UInt8.toNat) same

/-- The name in a `CS2SP_REGISTER`. -/
def registeredName (event : CsEvent) : Option (List UInt8) :=
  if event.message.msgType = CS2SP_REGISTER then
    some (view event.message.msg 1 (event.message.msg 0).toInt8.toInt.toNat)
  else none

section Step

variable {md5 : List UInt8 → ByteArr MD5_LEN} {recorded next : Recorded} {event : CsEvent}

def Known (sources : SourceMap) (hash : MD5HashStr) : Prop := ∃ entry, sources.find hash = some entry

theorem known_iff {sources : SourceMap} {hash : MD5HashStr} :
    Known sources hash ↔ hash.rank ∈ sources.entries.map fun entry => entry.1.rank := by
  simp only [Known, OrderedMap.find_eq_some, List.mem_map]

theorem known_adjust (sources : SourceMap) (hash other : MD5HashStr) (change : RsBufferQueue → RsBufferQueue) :
    Known (sources.adjust other change) hash ↔ Known sources hash := by
  have keys := congrArg (List.map MD5HashStr.rank) (OrderedMap.keys_adjust sources other change)
  rw [List.map_map, List.map_map] at keys
  rw [known_iff, known_iff]
  exact Eq.to_iff (congrArg (hash.rank ∈ ·) keys)

theorem known_createSource (sources : SourceMap) (around : Surroundings) (hash other : MD5HashStr) (name : List UInt8)
    (source : Bool) :
    Known (sources.createSource around other name source) hash ↔ Known sources hash ∨ hash.rank = other.rank := by
  unfold createSource
  split
  · rename_i queue found
    obtain ⟨key, listed⟩ := getBufferQueue_eq_some.mp found
    refine ⟨Or.inl, fun either => either.elim id fun same => ⟨(key, queue), ?_⟩⟩
    rw [OrderedMap.find_congr _ same, listed]
  · rename_i absent
    have unknown := getBufferQueue_eq_none.mp absent
    by_cases same : hash.rank = other.rank
    · rw [Known, OrderedMap.find_congr _ same, OrderedMap.find_insert_self _ unknown]
      exact iff_of_true ⟨_, rfl⟩ (Or.inr same)
    · rw [Known, OrderedMap.find_insert_of_ne _ same, or_iff_left same, Known]

theorem known_register (sources : SourceMap) (around : Surroundings) (hash : MD5HashStr) (digest : ByteArr MD5_LEN)
    (blockInterval : BlockInterval) (name : List UInt8) :
    Known (sources.createSource around (.ofMd5 digest blockInterval) name true) hash ↔
      Known sources hash ∨ hash.rank = (requested digest).rank := known_createSource ..

theorem known_addHeader (sources : SourceMap) (hash other : MD5HashStr) (header : List UInt8) :
    Known (sources.addHeader other header) hash ↔ Known sources hash := known_adjust ..

theorem known_step (taken : CsConnector.step md5 recorded event = some next) (hash : MD5HashStr) :
    Known next.peer.sources hash ↔ Known recorded.peer.sources hash ∨
      ∃ name, registeredName event = some name ∧ hash.rank = (requested (md5 name)).rank := by
  have other : event.message.msgType ≠ CS2SP_REGISTER →
      ¬∃ name, registeredName event = some name ∧ hash.rank = (requested (md5 name)).rank := by
    rintro plain ⟨name, named, _⟩
    rw [registeredName, if_neg plain] at named
    exact absurd named (by simp)
  simp only [CsConnector.step] at taken
  split_ifs at taken with register block header
  · obtain ⟨after, made, rfl⟩ := Option.map_eq_some_iff.mp taken
    simp only [registeredName, if_pos register, Option.some.injEq, exists_eq_left']
    simp only [getRegister] at made
    split_ifs at made
    · cases made
      exact known_register ..
    · cases made
      exact (known_addHeader ..).trans (known_register ..)
  · rw [or_iff_left (other register)]
    obtain ⟨result, made, rfl⟩ := Option.map_eq_some_iff.mp taken
    rcases getBlock_cases made with ⟨peer, _⟩ | ⟨_, _, _, _, _, _, _, _, _, peer, _⟩
    · rw [peer]
    · rw [peer]
      exact known_adjust ..
  · rw [or_iff_left (other register)]
    obtain ⟨after, made, rfl⟩ := Option.map_eq_some_iff.mp taken
    simp only [getMediatype] at made
    split at made
    · cases made
      rfl
    · split_ifs at made
      cases made
      exact known_addHeader ..
  · cases taken
    rw [or_iff_left (other register)]

theorem known_run {unset : Nat → MD5HashStr} {events : List CsEvent}
    (ran : run (CsConnector.step md5) (start unset) events = some recorded) (hash : MD5HashStr) :
    Known recorded.peer.sources hash ↔
      ∃ event ∈ events, ∃ name, registeredName event = some name ∧ hash.rank = (requested (md5 name)).rank := by
  refine run_history (fun past recorded => Known recorded.peer.sources hash ↔
    ∃ event ∈ past, ∃ name, registeredName event = some name ∧ hash.rank = (requested (md5 name)).rank) ?_ ?_ ran
  · refine iff_of_false ?_ (by simp)
    rintro ⟨entry, found⟩
    cases found
  · intro past state event next _ known taken
    rw [known_step taken, known]
    simp only [List.mem_append, List.mem_singleton, or_and_right, exists_or, exists_eq_left]

end Step

theorem registeredName_length {event : CsEvent} {name : List UInt8} (named : registeredName event = some name) :
    name.length ≤ 127 := by
  rw [registeredName] at named
  split_ifs at named
  have small := (event.message.msg 0).toInt8.toInt_lt
  rw [← Option.some.inj named, view_length]
  omega

/-- The digest in `chnl_hash` is that of the name, a resource is found when a name with its digest
was registered, and to every comparison what was found is what was asked for. -/
theorem channel_by_digest (unset : Nat → MD5HashStr) (events : List CsEvent) (recorded : Recorded)
    (ran : run (CsConnector.step channelHash) (start unset) events = some recorded) :
    (∀ event ∈ events, ∀ name, registeredName event = some name → ∀ buffer digest,
      registerHash buffer digest name = some (channelHash name).data) ∧
    ∀ name, (Known recorded.peer.sources (requested (channelHash name)) ↔
        ∃ event ∈ events, ∃ other, registeredName event = some other ∧ rawDigest other = rawDigest name) ∧
      ∀ key queue, recorded.peer.sources.find (requested (channelHash name)) = some (key, queue) →
        MatchedAlike recorded.peer.sources key (channelHash name) := by
  refine ⟨fun event _ name named buffer digest => ?_, fun name => ⟨?_, fun key queue found => ?_⟩⟩
  · exact registerHash_eq buffer digest ((registeredName_length named).trans (by decide))
  · have ranked : ∀ other, (requested (channelHash name)).rank = (requested (channelHash other)).rank ↔
        rawDigest other = rawDigest name := fun other =>
      (rank_channelHash (characters_ofMd5 _ _) (characters_ofMd5 _ _)).trans eq_comm
    rw [known_run ran]
    simp only [ranked]
  · obtain ⟨member, same⟩ := OrderedMap.find_eq_some.mp found
    obtain ⟨other, spelled⟩ := (run_keyed ran).digests _ member
    have raw := (rank_channelHash spelled (characters_ofMd5 (channelHash name) (.init 0))).mp same
    refine (matchedAlike_iff (run_keyed ran) found).mpr (spelled.trans ?_)
    exact congrArg (List.flatMap hexByte) raw

def namedRegister : CsEvent := ⟨0, ⟨CS2SP_REGISTER, ofBytes [2, 97, 98], 56⟩, quiet⟩

theorem named_channel_by_digest :
    ∃ recorded key queue, run (CsConnector.step channelHash) (start blank) [namedRegister] = some recorded ∧
      recorded.peer.sources.find (requested (channelHash [97, 98])) = some (key, queue) ∧
      MatchedAlike recorded.peer.sources key (channelHash [97, 98]) ∧
      ¬Known recorded.peer.sources (requested (channelHash [98])) := by
  obtain ⟨recorded, ran⟩ := Option.isSome_iff_exists.mp
    (show (run (CsConnector.step channelHash) (start blank) [namedRegister]).isSome = true by decide +kernel)
  have name : registeredName namedRegister = some [97, 98] := by decide +kernel
  have found := channel_by_digest blank [namedRegister] recorded ran
  obtain ⟨⟨key, queue⟩, present⟩ := (found.2 [97, 98]).1.mpr ⟨_, List.mem_singleton_self _, [97, 98], name, rfl⟩
  refine ⟨recorded, key, queue, ran, present, (found.2 [97, 98]).2 key queue present, fun known => ?_⟩
  obtain ⟨event, member, other, named, same⟩ := (found.2 [98]).1.mp known
  cases List.mem_singleton.mp member
  cases name.symm.trans named
  exact absurd same (by decide +kernel)

end RabbitStreamer.Sp.ChannelDigest
