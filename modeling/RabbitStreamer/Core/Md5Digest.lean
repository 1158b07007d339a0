import RabbitStreamer.Core.Md5
import RabbitStreamer.Lib.BlockHash
import RabbitStreamer.Lib.Transition

/-! What `MD5` computes: however a message is cut into updates, its text is that of the padded
message taken block by block. -/

namespace RabbitStreamer.Core.Md5Digest
open RabbitStreamer.Lib.Bytes RabbitStreamer.Lib.BlockHash RabbitStreamer.Lib.Transition RabbitStreamer.Core.Md5

/-- A one bit, zero bits up to eight bytes before the end of a block, and the number of bits. -/
def padding (message : List UInt8) : List UInt8 :=
  0x80 :: List.replicate ((119 - message.length % 64) % 64) 0 ++ leBytes 8 (8 * message.length)

def rawDigest (message : List UInt8) : List UInt8 :=
  let words := absorb transform 64 magic (message ++ padding message)
  le32 words.a ++ le32 words.b ++ le32 words.c ++ le32 words.d

def md5Text (message : List UInt8) : List UInt8 := (rawDigest message).flatMap hexByte

structure Holds (md5 : MD5) (message : List UInt8) : Prop where
  running : md5.finalized = false
  state : md5.state = absorb transform 64 magic message
  count : md5.count0.toNat + 2 ^ 32 * md5.count1.toNat = 8 * message.length % 2 ^ 64
  buffer : md5.buffer.data.take (message.length % 64) = leftover 64 message

theorem holds_init (buffer : ByteArr 64) (digest : ByteArr 16) : Holds (.init buffer digest) [] where
  running := rfl
  state := rfl
  count := rfl
  buffer := rfl

theorem bufferIndex_toNat {count0 count1 : UInt32} {length : Nat}
    (count : count0.toNat + 2 ^ 32 * count1.toNat = 8 * length % 2 ^ 64) :
    ((count0 >>> 3) &&& 0x3F).toNat = length % 64 := by
  have low := Nat.and_two_pow_sub_one_eq_mod (count0.toNat / 2 ^ 3) 6
  have bound := count0.toNat_lt
  rw [UInt32.toNat_and, UInt32.toNat_shiftRight, Nat.shiftRight_eq_div_pow]
  change count0.toNat / 2 ^ 3 &&& 2 ^ 6 - 1 = _
  rw [low]
  omega

theorem count_update {count0 count1 : UInt32} {length : Nat} (inputLength : UInt32)
    (count : count0.toNat + 2 ^ 32 * count1.toNat = 8 * length % 2 ^ 64) :
    (count0 + (inputLength <<< 3)).toNat + 2 ^ 32 * ((if count0 + (inputLength <<< 3) < inputLength <<< 3
      then count1 + 1 else count1) + (inputLength >>> 29)).toNat = 8 * (length + inputLength.toNat) % 2 ^ 64 := by
  have first := count0.toNat_lt
  have second := count1.toNat_lt
  have third := inputLength.toNat_lt
  have bits : (inputLength <<< 3).toNat = inputLength.toNat * 8 % 2 ^ 32 := by
    rw [UInt32.toNat_shiftLeft, Nat.shiftLeft_eq]
    rfl
  have high : (inputLength >>> 29).toNat = inputLength.toNat / 2 ^ 29 := by
    rw [UInt32.toNat_shiftRight, Nat.shiftRight_eq_div_pow]
    rfl
  split_ifs with carries
  · rw [UInt32.lt_iff_toNat_lt, UInt32.toNat_add, bits] at carries
    rw [UInt32.toNat_add, UInt32.toNat_add, UInt32.toNat_add, UInt32.toNat_one, bits, high]
    omega
  · rw [UInt32.lt_iff_toNat_lt, UInt32.toNat_add, bits] at carries
    rw [UInt32.toNat_add, UInt32.toNat_add, bits, high]
    omega

theorem read_eq {input : List UInt8} {index count : UInt32} {length : Nat} (inside : length ≤ input.length)
    (fits : index.toNat + count.toNat ≤ length) :
    Md5.read input index count = some (((input.take length).drop index.toNat).take count.toNat) := by
  rw [Md5.read, if_pos (fits.trans inside), List.drop_take, List.take_take, Nat.min_eq_left (by omega)]

theorem put_zero (buffer : ByteArr 64) {bytes : List UInt8} (fits : bytes.length ≤ 64) :
    ∃ filled, put buffer 0 bytes = some filled ∧ filled.data = bytes ++ buffer.data.drop bytes.length := by
  refine ⟨_, dif_pos (by rwa [UInt32.toNat_zero, Nat.zero_add]), ?_⟩
  simp

theorem put_behind {buffer : ByteArr 64} {index : UInt32} {length : Nat} (place : index.toNat = length)
    {bytes : List UInt8} (fits : length + bytes.length ≤ 64) :
    ∃ filled, put buffer index bytes = some filled ∧
      filled.data = buffer.data.take length ++ bytes ++ buffer.data.drop (length + bytes.length) := by
  subst place
  exact ⟨_, dif_pos fits, rfl⟩

theorem transformRest_eq {input : List UInt8} {inputLength : UInt32} (inside : inputLength.toNat ≤ input.length)
    (bound : inputLength.toNat ≤ 2 ^ 32 - 64) (turns : Nat) {inputIndex : UInt32} (state : Words)
    (before : inputIndex.toNat ≤ inputLength.toNat) (enough : inputLength.toNat - inputIndex.toNat < 64 * turns) :
    ∃ index, transformRest input inputLength turns inputIndex state =
        some (index, absorb transform 64 state ((input.take inputLength.toNat).drop inputIndex.toNat)) ∧
      index.toNat ≤ inputLength.toNat ∧ (input.take inputLength.toNat).drop index.toNat =
        leftover 64 ((input.take inputLength.toNat).drop inputIndex.toNat) := by
  induction turns generalizing inputIndex state with
  | zero => omega
  | succ turns ih =>
    have ahead : (inputIndex + 63).toNat = inputIndex.toNat + 63 :=
      (UInt32.toNat_add ..).trans (Nat.mod_eq_of_lt (by change inputIndex.toNat + 63 < 2 ^ 32; omega))
    have size : ((input.take inputLength.toNat).drop inputIndex.toNat).length =
        inputLength.toNat - inputIndex.toNat := by
      rw [List.length_drop, List.length_take_of_le inside]
    rw [transformRest]
    by_cases more : inputIndex + 63 < inputLength
    · rw [UInt32.lt_iff_toNat_lt, ahead] at more
      have next : (inputIndex + 64).toNat = inputIndex.toNat + 64 :=
        (UInt32.toNat_add ..).trans (Nat.mod_eq_of_lt (by change inputIndex.toNat + 64 < 2 ^ 32; omega))
      have full : (((input.take inputLength.toNat).drop inputIndex.toNat).take 64).length = 64 :=
        List.length_take_of_le (by omega)
      have split := List.take_append_drop 64 ((input.take inputLength.toNat).drop inputIndex.toNat)
      rw [List.drop_drop, ← next] at split
      have absorbed := absorb_block (by decide) full transform state
        ((input.take inputLength.toNat).drop (inputIndex + 64).toNat)
      have skipped := leftover_block (by decide) full ((input.take inputLength.toNat).drop (inputIndex + 64).toNat)
      rw [split] at absorbed skipped
      obtain ⟨index, looped, inRange, rest⟩ := @ih (inputIndex + 64) (transform state
        (((input.take inputLength.toNat).drop inputIndex.toNat).take 64)) (by omega) (by omega)
      have looked : read input inputIndex 64 =
          some (((input.take inputLength.toNat).drop inputIndex.toNat).take 64) :=
        read_eq inside (by change inputIndex.toNat + 64 ≤ inputLength.toNat; omega)
      refine ⟨index, ?_, inRange, rest.trans skipped.symm⟩
      rw [if_pos (by rwa [UInt32.lt_iff_toNat_lt, ahead]), looked, Option.bind_eq_bind, Option.bind_some, absorbed]
      exact looped
    · have last := more
      rw [UInt32.lt_iff_toNat_lt, ahead] at last
      refine ⟨inputIndex, ?_, before, ?_⟩
      · rw [if_neg more, absorb_of_lt _ _ (by omega)]
      · rw [leftover_of_lt (by omega)]

section Update

variable {md5 : MD5} {message input : List UInt8} {inputLength : UInt32}

theorem bufferSpace_toNat (holds : Holds md5 message) :
    ((64 : UInt32) - ((md5.count0 >>> 3) &&& 0x3F)).toNat = 64 - message.length % 64 := by
  have index := bufferIndex_toNat holds.count
  have small : (md5.count0 >>> 3) &&& 0x3F ≤ 64 := by
    rw [UInt32.le_iff_toNat_le, index]
    change message.length % 64 ≤ 64
    omega
  rw [UInt32.toNat_sub_of_le _ _ small, index]
  rfl

theorem update_short (holds : Holds md5 message) (inside : inputLength.toNat ≤ input.length)
    (room : message.length % 64 + inputLength.toNat < 64) :
    ∃ next, md5.update input inputLength = some next ∧ Holds next (message ++ input.take inputLength.toNat) := by
  have index := bufferIndex_toNat holds.count
  have space := bufferSpace_toNat holds
  have size : (input.take inputLength.toNat).length = inputLength.toNat := List.length_take_of_le inside
  have old : (leftover 64 message).length = message.length % 64 := leftover_length message
  obtain ⟨filled, made, data⟩ := put_behind index
    (size.symm ▸ room.le : _ + (input.take inputLength.toNat).length ≤ 64)
  have looked : read input 0 inputLength = some (input.take inputLength.toNat) := by
    rw [read_eq inside (by rw [UInt32.toNat_zero]; omega), UInt32.toNat_zero, List.drop_zero, List.take_take,
      Nat.min_self]
  have short : (leftover 64 message ++ input.take inputLength.toNat).length < 64 := by
    rw [List.length_append, old, size]
    exact room
  refine ⟨{ md5 with
    count0 := md5.count0 + (inputLength <<< 3)
    count1 := (if md5.count0 + (inputLength <<< 3) < inputLength <<< 3 then md5.count1 + 1 else md5.count1) +
      (inputLength >>> 29)
    buffer := filled }, ?_, holds.running, ?_, ?_, ?_⟩
  · rw [MD5.update, if_neg (by rw [holds.running]; decide)]
    dsimp only
    rw [if_neg (by rw [ge_iff_le, UInt32.le_iff_toNat_le, space]; omega), looked, Option.bind_eq_bind,
      Option.bind_some,
      made]
    rfl
  · rw [absorb_append (by decide), absorb_of_lt _ _ short]
    exact holds.state
  · rw [List.length_append, size]
    exact count_update inputLength holds.count
  · rw [leftover_append (by decide), leftover_of_lt short, data, holds.buffer, List.length_append, size,
      Nat.add_mod, Nat.mod_eq_of_lt (show message.length % 64 + inputLength.toNat % 64 < 64 by omega),
      Nat.mod_eq_of_lt (show inputLength.toNat < 64 by omega)]
    exact List.take_left' (by rw [List.length_append, old, size])

theorem update_long (holds : Holds md5 message) (inside : inputLength.toNat ≤ input.length)
    (bound : inputLength.toNat ≤ 2 ^ 32 - 64) (fills : 64 ≤ message.length % 64 + inputLength.toNat) :
    ∃ next, md5.update input inputLength = some next ∧ Holds next (message ++ input.take inputLength.toNat) ∧
      (message.length % 64 + inputLength.toNat = 64 →
        next.buffer.data = leftover 64 message ++ input.take inputLength.toNat) := by
  have index := bufferIndex_toNat holds.count
  have space := bufferSpace_toNat holds
  have size : (input.take inputLength.toNat).length = inputLength.toNat := List.length_take_of_le inside
  have old : (leftover 64 message).length = message.length % 64 := leftover_length message
  obtain ⟨bufferSpace, same⟩ : ∃ bufferSpace, bufferSpace = (64 : UInt32) - ((md5.count0 >>> 3) &&& 0x3F) := ⟨_, rfl⟩
  rw [← same] at space
  have head : ((input.take inputLength.toNat).take bufferSpace.toNat).length = bufferSpace.toNat :=
    List.length_take_of_le (by omega)
  have looked : read input 0 bufferSpace = some ((input.take inputLength.toNat).take bufferSpace.toNat) := by
    rw [read_eq inside (by rw [UInt32.toNat_zero]; omega), UInt32.toNat_zero, List.drop_zero]
  obtain ⟨filled, made, data⟩ := put_behind index
    (by rw [head, space]; omega : _ + ((input.take inputLength.toNat).take bufferSpace.toNat).length ≤ 64)
  rw [holds.buffer, head, space, Nat.add_sub_cancel' (by omega), List.drop_of_length_le (by rw [ByteArr.length_data]),
    List.append_nil] at data
  have full : filled.data.length = 64 := filled.size
  obtain ⟨last, looped, inRange, rest⟩ := transformRest_eq inside bound (input.length + 1)
    (transform md5.state filled.data) (show bufferSpace.toNat ≤ inputLength.toNat by omega) (by omega)
  have whole : leftover 64 message ++ input.take inputLength.toNat =
      filled.data ++ (input.take inputLength.toNat).drop bufferSpace.toNat := by
    rw [data, ← space, List.append_assoc, List.take_append_drop]
  have fewer : ((input.take inputLength.toNat).drop last.toNat).length < 64 := by
    rw [rest, leftover_length]
    exact Nat.mod_lt _ (by decide)
  have left : (inputLength - last).toNat = inputLength.toNat - last.toNat :=
    UInt32.toNat_sub_of_le _ _ (UInt32.le_iff_toNat_le.mpr inRange)
  have remaining : read input last (inputLength - last) = some ((input.take inputLength.toNat).drop last.toNat) := by
    rw [read_eq inside (by rw [left]; omega), List.take_of_length_le (by rw [left, List.length_drop, size])]
  obtain ⟨final, stored, kept⟩ := put_zero filled fewer.le
  refine ⟨{ md5 with
    state := absorb transform 64 (transform md5.state filled.data)
      ((input.take inputLength.toNat).drop bufferSpace.toNat)
    count0 := md5.count0 + (inputLength <<< 3)
    count1 := (if md5.count0 + (inputLength <<< 3) < inputLength <<< 3 then md5.count1 + 1 else md5.count1) +
      (inputLength >>> 29)
    buffer := final }, ?_, ⟨holds.running, ?_, ?_, ?_⟩, fun exactly => ?_⟩
  · rw [MD5.update, if_neg (by rw [holds.running]; decide)]
    dsimp only
    rw [← same, if_pos (by rw [ge_iff_le, UInt32.le_iff_toNat_le, space]; omega)]
    simp only [looked, made, looped, remaining, stored, Option.bind_eq_bind, Option.bind_some]
    rfl
  · rw [absorb_append (by decide), whole, absorb_block (by decide) full, ← holds.state]
  · rw [List.length_append, size]
    exact count_update inputLength holds.count
  · have same : leftover 64 (message ++ input.take inputLength.toNat) =
        (input.take inputLength.toNat).drop last.toNat := by
      rw [leftover_append (by decide), whole, leftover_block (by decide) full, rest]
    rw [← leftover_length, same, kept]
    exact List.take_left
  · have nothing : (input.take inputLength.toNat).drop last.toNat = [] := by
      rw [rest, List.drop_of_length_le (by rw [size]; omega)]
      rfl
    rw [kept, nothing, List.nil_append, List.length_nil, List.drop_zero, data, ← space, List.take_of_length_le]
    rw [size]
    omega

theorem update_holds (holds : Holds md5 message) (inside : inputLength.toNat ≤ input.length)
    (bound : inputLength.toNat ≤ 2 ^ 32 - 64) :
    ∃ next, md5.update input inputLength = some next ∧ Holds next (message ++ input.take inputLength.toNat) := by
  rcases Nat.lt_or_ge (message.length % 64 + inputLength.toNat) 64 with room | fills
  · exact update_short holds inside room
  · obtain ⟨next, updated, after, _⟩ := update_long holds inside bound fills
    exact ⟨next, updated, after⟩

theorem shifted_byte (word : UInt32) {places : UInt32} (inside : places.toNat < 32) :
    ((word >>> places) &&& 0xff).toUInt8 = UInt8.ofNat (word.toNat / 2 ^ places.toNat % 256) := by
  apply UInt8.toNat_inj.mp
  have low := Nat.and_two_pow_sub_one_eq_mod (word.toNat / 2 ^ places.toNat) 8
  rw [UInt32.toNat_toUInt8, UInt32.toNat_and, UInt32.toNat_shiftRight, Nat.mod_eq_of_lt inside,
    Nat.shiftRight_eq_div_pow, UInt8.toNat_ofNat']
  exact congrArg (· % 2 ^ 8) low

theorem encodeWord_eq (word : UInt32) : encodeWord word = le32 word := by
  have first := shifted_byte word (show (0 : UInt32).toNat < 32 by decide)
  have second := shifted_byte word (show (8 : UInt32).toNat < 32 by decide)
  have third := shifted_byte word (show (16 : UInt32).toNat < 32 by decide)
  have fourth := shifted_byte word (show (24 : UInt32).toNat < 32 by decide)
  rw [UInt32.shiftRight_zero, UInt32.toNat_zero, pow_zero, Nat.div_one] at first
  rw [encodeWord, first, second, third, fourth]
  simp only [le32, leBytes, Nat.div_div_eq_div_mul]
  rfl

theorem encode_count {count0 count1 : UInt32} {length : Nat}
    (count : count0.toNat + 2 ^ 32 * count1.toNat = 8 * length % 2 ^ 64) :
    encodeWord count0 ++ encodeWord count1 = leBytes 8 (8 * length) := by
  have joined := leBytes_append 4 4 count1.toNat count0.toNat_lt
  rw [encodeWord_eq, encodeWord_eq, le32, le32, ← leBytes_mod 8 (8 * length)]
  rw [← joined]
  exact congrArg (leBytes 8) count

theorem padLen_toNat {index : UInt32} {used : Nat} (place : index.toNat = used) (inside : used < 64) :
    (if index < 56 then 56 - index else 120 - index).toNat = if used < 56 then 56 - used else 120 - used := by
  subst place
  by_cases early : index.toNat < 56
  · rw [if_pos (UInt32.lt_iff_toNat_lt.mpr early), if_pos early]
    exact UInt32.toNat_sub_of_le _ _ (UInt32.le_iff_toNat_le.mpr early.le)
  · rw [if_neg (mt UInt32.lt_iff_toNat_lt.mp early), if_neg early]
    refine UInt32.toNat_sub_of_le _ _ (UInt32.le_iff_toNat_le.mpr ?_)
    change index.toNat ≤ 120
    omega

theorem padding_eq (message : List UInt8) {padLen : Nat}
    (length : padLen = if message.length % 64 < 56 then 56 - message.length % 64 else 120 - message.length % 64) :
    PADDING.take padLen ++ leBytes 8 (8 * message.length) = padding message := by
  obtain ⟨zeros, rfl⟩ : ∃ zeros, padLen = zeros + 1 := ⟨padLen - 1, by split_ifs at length <;> omega⟩
  have same : zeros = (119 - message.length % 64) % 64 := by split_ifs at length <;> omega
  rw [PADDING, List.take_succ_cons, List.take_replicate, Nat.min_eq_left (by omega), same, padding]

theorem finalize_eq (holds : Holds md5 message) :
    ∃ ended, md5.finalize = some ended ∧ ended.finalized = true ∧ ended.digest.data = rawDigest message ∧
      ∃ whole last, message ++ padding message = whole ++ last ∧ last.length = 64 ∧
        ended.buffer.data = 0 :: last.tail := by
  obtain ⟨index, place⟩ : ∃ index, index = (md5.count0 >>> 3) &&& 0x3f := ⟨_, rfl⟩
  obtain ⟨padLen, chosen⟩ : ∃ padLen, padLen = if index < 56 then 56 - index else 120 - index := ⟨_, rfl⟩
  have length := padLen_toNat (place ▸ bufferIndex_toNat holds.count) (Nat.mod_lt message.length (by decide : 0 < 64))
  rw [← chosen] at length
  have inside : padLen.toNat ≤ PADDING.length := by
    change padLen.toNat ≤ 64
    split_ifs at length <;> omega
  have size : (message ++ PADDING.take padLen.toNat).length % 64 = 56 := by
    rw [List.length_append, List.length_take_of_le inside]
    split_ifs at length <;> omega
  have bits := encode_count holds.count
  have eight : (8 : UInt32).toNat ≤ (leBytes 8 (8 * message.length)).length := by rw [leBytes_length]; decide
  have all : (leBytes 8 (8 * message.length)).take (8 : UInt32).toNat = leBytes 8 (8 * message.length) :=
    List.take_of_length_le (by rw [leBytes_length]; decide)
  obtain ⟨padded, updated, before⟩ := update_holds holds inside (inside.trans (by decide))
  obtain ⟨counted, counting, after, kept⟩ := update_long before eight (by decide) (by rw [size]; decide)
  have last := kept (by rw [size]; decide)
  rw [all] at last after
  rw [List.append_assoc, padding_eq message length] at after
  obtain ⟨cleared, stored, left⟩ := put_zero counted.buffer (show [(0 : UInt8)].length ≤ 64 by decide)
  refine ⟨{ counted with
    digest := ⟨encodeWord counted.state.a ++ encodeWord counted.state.b ++ encodeWord counted.state.c ++
      encodeWord counted.state.d, rfl⟩
    buffer := cleared
    finalized := true }, ?_, rfl, ?_, (message ++ PADDING.take padLen.toNat).take
      (64 * ((message ++ PADDING.take padLen.toNat).length / 64)), counted.buffer.data, ?_, counted.buffer.size, ?_⟩
  · rw [MD5.finalize, if_neg (by rw [holds.running]; decide)]
    dsimp only
    rw [← place, ← chosen, bits]
    simp only [updated, counting, stored, Option.bind_eq_bind, Option.bind_some]
    rfl
  · simp only [encodeWord_eq, rawDigest, after.state]
  · rw [last, ← List.append_assoc, leftover, List.take_append_drop, List.append_assoc, padding_eq message length]
  · rw [left, List.length_singleton, List.drop_one, List.singleton_append]

end Update

/-- One call of `update` with a whole piece of a message. -/
def feed (md5 : MD5) (piece : List UInt8) : Option MD5 := md5.update piece (UInt32.ofNat piece.length)

theorem feed_holds {md5 : MD5} {message piece : List UInt8} (holds : Holds md5 message)
    (bound : piece.length ≤ 2 ^ 32 - 64) : ∃ next, feed md5 piece = some next ∧ Holds next (message ++ piece) := by
  have length : (UInt32.ofNat piece.length).toNat = piece.length := UInt32.toNat_ofNat_of_lt' (by
    change piece.length < 2 ^ 32
    omega)
  have fed := update_holds holds length.le (length.symm ▸ bound)
  rwa [length, List.take_length] at fed

/-- However a message is cut into updates, and whatever was in the object's memory, its text is that
of the padded message, and all but the first byte of the last block stays behind. -/
theorem text_of_pieces (buffer : ByteArr 64) (digest : ByteArr 16) (pieces : List (List UInt8))
    (bounded : ∀ piece ∈ pieces, piece.length ≤ 2 ^ 32 - 64) :
    ∃ md5 ended, run feed (.init buffer digest) pieces = some md5 ∧ md5.finalize = some ended ∧
      ended.hexDigest = md5Text pieces.flatten ∧
      ∃ whole last, pieces.flatten ++ padding pieces.flatten = whole ++ last ∧ last.length = 64 ∧
        ended.buffer.data = 0 :: last.tail := by
  obtain ⟨md5, ran, holds⟩ := run_progress (fun past md5 => Holds md5 past.flatten) pieces (holds_init buffer digest)
    fun past piece rest md5 split _ before => by
      obtain ⟨next, fed, after⟩ := feed_holds before
        (bounded piece (split ▸ List.mem_append_right _ (List.mem_cons_self ..)))
      exact ⟨next, fed, by rwa [List.flatten_append, List.flatten_singleton]⟩
  obtain ⟨ended, finalized, done, raw, behind⟩ := finalize_eq holds
  exact ⟨md5, ended, ran, finalized, by rw [MD5.hexDigest, if_pos done, raw, md5Text], behind⟩

theorem text_of_two_pieces : ∃ md5 ended, run feed (.init (.fill _ 7) (.fill _ 7)) [[97], [98, 99]] = some md5 ∧
    md5.finalize = some ended ∧ ended.hexDigest = md5Text [97, 98, 99] ∧
    ∃ whole last, [97, 98, 99] ++ padding [97, 98, 99] = whole ++ last ∧ last.length = 64 ∧
      ended.buffer.data = 0 :: last.tail := text_of_pieces _ _ [[97], [98, 99]] (by decide)

example : (md5Text [97, 98, 99]).map (fun byte => Char.ofNat byte.toNat) =
    "900150983cd24fb0d6963f7d28e17f72".toList := by
  decide +kernel

end RabbitStreamer.Core.Md5Digest
