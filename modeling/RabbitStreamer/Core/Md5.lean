import RabbitStreamer.Lib.Bytes

/-! `MD5`: the digest under which a channel is known, as the vendored class computes it. -/

namespace RabbitStreamer.Core.Md5
open RabbitStreamer.Lib.Bytes

/-- The four words of `state`, and those that `transform` works on. -/
structure Words where
  a : UInt32
  b : UInt32
  c : UInt32
  d : UInt32
  deriving DecidableEq

def F (x y z : UInt32) : UInt32 := (x &&& y) ||| (~~~x &&& z)
def G (x y z : UInt32) : UInt32 := (x &&& z) ||| (y &&& ~~~z)
def H (x y z : UInt32) : UInt32 := x ^^^ y ^^^ z
def I (x y z : UInt32) : UInt32 := y ^^^ (x ||| ~~~z)

def rotateLeft (x n : UInt32) : UInt32 := (x <<< n) ||| (x >>> (32 - n))

/-- One of the 64 steps. The next one has its words in the places of `d`, `a`, `b` and `c`. -/
def turn (mix : UInt32 → UInt32 → UInt32 → UInt32) (x s ac : UInt32) (words : Words) : Words :=
  let a := words.a + (mix words.b words.c words.d + x + ac)
  ⟨words.d, rotateLeft a s + words.b, words.b, words.c⟩

def FF (x s ac : UInt32) : Words → Words := turn F x s ac
def GG (x s ac : UInt32) : Words → Words := turn G x s ac
def HH (x s ac : UInt32) : Words → Words := turn H x s ac
def II (x s ac : UInt32) : Words → Words := turn I x s ac

def S11 : UInt32 := 7
def S12 : UInt32 := 12
def S13 : UInt32 := 17
def S14 : UInt32 := 22
def S21 : UInt32 := 5
def S22 : UInt32 := 9
def S23 : UInt32 := 14
def S24 : UInt32 := 20
def S31 : UInt32 := 4
def S32 : UInt32 := 11
def S33 : UInt32 := 16
def S34 : UInt32 := 23
def S41 : UInt32 := 6
def S42 : UInt32 := 10
def S43 : UInt32 := 15
def S44 : UInt32 := 21

def round1 (x : Nat → UInt32) : List (Words → Words) :=
  [FF (x 0) S11 0xd76aa478, FF (x 1) S12 0xe8c7b756, FF (x 2) S13 0x242070db, FF (x 3) S14 0xc1bdceee,
    FF (x 4) S11 0xf57c0faf, FF (x 5) S12 0x4787c62a, FF (x 6) S13 0xa8304613, FF (x 7) S14 0xfd469501,
    FF (x 8) S11 0x698098d8, FF (x 9) S12 0x8b44f7af, FF (x 10) S13 0xffff5bb1, FF (x 11) S14 0x895cd7be,
    FF (x 12) S11 0x6b901122, FF (x 13) S12 0xfd987193, FF (x 14) S13 0xa679438e, FF (x 15) S14 0x49b40821]

def round2 (x : Nat → UInt32) : List (Words → Words) :=
  [GG (x 1) S21 0xf61e2562, GG (x 6) S22 0xc040b340, GG (x 11) S23 0x265e5a51, GG (x 0) S24 0xe9b6c7aa,
    GG (x 5) S21 0xd62f105d, GG (x 10) S22 0x2441453, GG (x 15) S23 0xd8a1e681, GG (x 4) S24 0xe7d3fbc8,
    GG (x 9) S21 0x21e1cde6, GG (x 14) S22 0xc33707d6, GG (x 3) S23 0xf4d50d87, GG (x 8) S24 0x455a14ed,
    GG (x 13) S21 0xa9e3e905, GG (x 2) S22 0xfcefa3f8, GG (x 7) S23 0x676f02d9, GG (x 12) S24 0x8d2a4c8a]

def round3 (x : Nat → UInt32) : List (Words → Words) :=
  [HH (x 5) S31 0xfffa3942, HH (x 8) S32 0x8771f681, HH (x 11) S33 0x6d9d6122, HH (x 14) S34 0xfde5380c,
    HH (x 1) S31 0xa4beea44, HH (x 4) S32 0x4bdecfa9, HH (x 7) S33 0xf6bb4b60, HH (x 10) S34 0xbebfbc70,
    HH (x 13) S31 0x289b7ec6, HH (x 0) S32 0xeaa127fa, HH (x 3) S33 0xd4ef3085, HH (x 6) S34 0x4881d05,
    HH (x 9) S31 0xd9d4d039, HH (x 12) S32 0xe6db99e5, HH (x 15) S33 0x1fa27cf8, HH (x 2) S34 0xc4ac5665]

def round4 (x : Nat → UInt32) : List (Words → Words) :=
  [II (x 0) S41 0xf4292244, II (x 7) S42 0x432aff97, II (x 14) S43 0xab9423a7, II (x 5) S44 0xfc93a039,
    II (x 12) S41 0x655b59c3, II (x 3) S42 0x8f0ccc92, II (x 10) S43 0xffeff47d, II (x 1) S44 0x85845dd1,
    II (x 8) S41 0x6fa87e4f, II (x 15) S42 0xfe2ce6e0, II (x 6) S43 0xa3014314, II (x 13) S44 0x4e0811a1,
    II (x 4) S41 0xf7537e82, II (x 11) S42 0xbd3af235, II (x 2) S43 0x2ad7d2bb, II (x 9) S44 0xeb86d391]

def encodeWord (word : UInt32) : List UInt8 :=
  [(word &&& 0xff).toUInt8, ((word >>> 8) &&& 0xff).toUInt8, ((word >>> 16) &&& 0xff).toUInt8,
    ((word >>> 24) &&& 0xff).toUInt8]

/-- `decode` of the word with this index. -/
def decodeWord (input : List UInt8) (i : Nat) : UInt32 :=
  (input.getD (4 * i) 0).toUInt32 ||| ((input.getD (4 * i + 1) 0).toUInt32 <<< 8) |||
    ((input.getD (4 * i + 2) 0).toUInt32 <<< 16) ||| ((input.getD (4 * i + 3) 0).toUInt32 <<< 24)

def transform (state : Words) (block : List UInt8) : Words :=
  let x := decodeWord block
  let words := (round1 x ++ round2 x ++ round3 x ++ round4 x).foldl (fun words step => step words) state
  ⟨state.a + words.a, state.b + words.b, state.c + words.c, state.d + words.d⟩

/-- The object: `count[0]` and `count[1]` are the halves of the number of bits. -/
structure MD5 where
  state : Words
  count0 : UInt32
  count1 : UInt32
  buffer : ByteArr 64
  digest : ByteArr 16
  finalized : Bool

/-- `state[0]` to `state[3]` at the start. -/
def magic : Words := ⟨0x67452301, 0xefcdab89, 0x98badcfe, 0x10325476⟩

/-- The constructor: `init` leaves `buffer` and `digest` as they are. -/
def MD5.init (buffer : ByteArr 64) (digest : ByteArr 16) : MD5 := ⟨magic, 0, 0, buffer, digest, false⟩

/-- The bytes at `input + index`; a read behind the end has no result. -/
def read (input : List UInt8) (index count : UInt32) : Option (List UInt8) :=
  if index.toNat + count.toNat ≤ input.length then some ((input.drop index.toNat).take count.toNat) else none

/-- `memcpy` into the buffer; neither has a write behind its end. -/
def put (buffer : ByteArr 64) (index : UInt32) (bytes : List UInt8) : Option (ByteArr 64) :=
  if fits : index.toNat + bytes.length ≤ 64 then
    some ⟨buffer.data.take index.toNat ++ bytes ++ buffer.data.drop (index.toNat + bytes.length), by simp; omega⟩
  else none

/-- The loop of `update`, which stops after `turns` at the latest. -/
def transformRest (input : List UInt8) (inputLength : UInt32) : Nat → UInt32 → Words → Option (UInt32 × Words)
  | 0, _, _ => none
  | turns + 1, inputIndex, state =>
    if inputIndex + 63 < inputLength then do
      let block ← read input inputIndex 64
      transformRest input inputLength turns (inputIndex + 64) (transform state block)
    else some (inputIndex, state)

def MD5.update (md5 : MD5) (input : List UInt8) (inputLength : UInt32) : Option MD5 :=
  if md5.finalized then some md5
  else do
    let bufferIndex := (md5.count0 >>> 3) &&& 0x3F
    let count0 := md5.count0 + (inputLength <<< 3)
    let carried := if count0 < inputLength <<< 3 then md5.count1 + 1 else md5.count1
    let count1 := carried + (inputLength >>> 29)
    let bufferSpace := 64 - bufferIndex
    if inputLength ≥ bufferSpace then
      let head ← read input 0 bufferSpace
      let buffer ← put md5.buffer bufferIndex head
      let (inputIndex, state) ←
        transformRest input inputLength (input.length + 1) bufferSpace (transform md5.state buffer.data)
      let rest ← read input inputIndex (inputLength - inputIndex)
      let buffer ← put buffer 0 rest
      pure { md5 with state, count0, count1, buffer }
    else
      let rest ← read input 0 inputLength
      let buffer ← put md5.buffer bufferIndex rest
      pure { md5 with count0, count1, buffer }

def PADDING : List UInt8 := 0x80 :: List.replicate 63 0

/-- The `memset` at the end has `sizeof(*buffer)`: it clears the first byte. -/
def MD5.finalize (md5 : MD5) : Option MD5 :=
  if md5.finalized then some md5
  else do
    let bits := encodeWord md5.count0 ++ encodeWord md5.count1
    let index := (md5.count0 >>> 3) &&& 0x3f
    let padLen := if index < 56 then 56 - index else 120 - index
    let padded ← md5.update PADDING padLen
    let counted ← padded.update bits 8
    let state := counted.state
    let digest : ByteArr 16 :=
      ⟨encodeWord state.a ++ encodeWord state.b ++ encodeWord state.c ++ encodeWord state.d, rfl⟩
    let buffer ← put counted.buffer 0 [0]
    pure { counted with digest, buffer, finalized := true }

def hexDigit (value : UInt8) : UInt8 := if value < 10 then 48 + value else 87 + value

def hexByte (byte : UInt8) : List UInt8 := [hexDigit (byte / 16), hexDigit (byte % 16)]

/-- The text that `hex_digest` points at: an empty one before `finalize`. -/
def MD5.hexDigest (md5 : MD5) : List UInt8 := if md5.finalized then md5.digest.data.flatMap hexByte else []

end RabbitStreamer.Core.Md5
