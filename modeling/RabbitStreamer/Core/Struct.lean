import RabbitStreamer.Lib.Bytes
import RabbitStreamer.Lib.CString

/-! The plain data of the streamer: addresses, block intervals and channel hashes, with
the memory layout a 64-bit little-endian host gives them. -/

namespace RabbitStreamer.Core.Struct
open RabbitStreamer.Lib.Bytes RabbitStreamer.Lib.CString

abbrev MD5_LEN : Nat := 32
abbrev UUID_LENGTH : Nat := 16
abbrev MEDIA_BLOCK_SIZE : Nat := 16384
abbrev MAX_BUFFER_SIZE : Nat := 1024
abbrev AF_INET : UInt16 := 2
abbrev UINT_MAX : UInt32 := 0xffffffff

/-- A `float` as the 32 bits the code copies around; no function computes with one. -/
abbrev FloatBits := UInt32

/-- What memory holds where the program has not written: any bytes at all. -/
abbrev Heap := Nat → UInt8

/-- Ports and addresses keep the bytes of network order, as the socket delivers them. -/
structure NetAddress where
  sinFamily : UInt16
  sinPort : UInt16
  sAddr : UInt32
  deriving DecidableEq, Repr

namespace NetAddress

def init : NetAddress := ⟨AF_INET, 0, 0⟩

/-- The object after `memset` over it. -/
def zero : NetAddress := ⟨0, 0, 0⟩

/-- `operator==` compares address and port, not the family. -/
def same (first second : NetAddress) : Bool :=
  first.sAddr == second.sAddr && first.sinPort == second.sinPort

/-- The byte of `s_addr` at an offset in memory. -/
def addrByte (address : NetAddress) (offset : Nat) : UInt8 := (le32 address.sAddr).getD offset 0

def isNatIP (address : NetAddress) : Bool :=
  let temp := address.addrByte 0
  if temp = 10 then true
  else if temp = 192 then address.addrByte 1 = 168
  else if temp = 172 then 16 ≤ address.addrByte 1 ∧ address.addrByte 1 ≤ 31
  else false

def toBytes (address : NetAddress) : List UInt8 :=
  le16 address.sinFamily ++ le16 address.sinPort ++ le32 address.sAddr

def ofBytes (bytes : List UInt8) : NetAddress :=
  let port := bytes.drop 2
  ⟨ofLe16 (bytes.take 2), ofLe16 (port.take 2), ofLe32 (port.drop 2)⟩

@[simp] theorem toBytes_length (address : NetAddress) : address.toBytes.length = 8 := by simp [toBytes]

@[simp] theorem ofBytes_toBytes (address : NetAddress) : ofBytes address.toBytes = address := by
  simp only [ofBytes, toBytes, List.append_assoc, List.take_left', List.drop_left', le16_length,
    ofLe16_le16, ofLe32_le32]

end NetAddress

structure P2PAddress where
  outerIP : NetAddress
  subnetIP : NetAddress
  deriving DecidableEq, Repr

namespace P2PAddress

def zero : P2PAddress := ⟨.zero, .zero⟩

/-- `IsNAT`: a peer that others can reach has no subnet address. -/
def isNAT (address : P2PAddress) : Bool := !(0xffffffff == address.subnetIP.sAddr)

def toBytes (address : P2PAddress) : List UInt8 := address.outerIP.toBytes ++ address.subnetIP.toBytes

def ofBytes (bytes : List UInt8) : P2PAddress := ⟨.ofBytes (bytes.take 8), .ofBytes (bytes.drop 8)⟩

@[simp] theorem toBytes_length (address : P2PAddress) : address.toBytes.length = 16 := by simp [toBytes]

@[simp] theorem ofBytes_toBytes (address : P2PAddress) : ofBytes address.toBytes = address := by
  simp only [ofBytes, toBytes, List.take_left', List.drop_left', NetAddress.toBytes_length,
    NetAddress.ofBytes_toBytes]

end P2PAddress

structure CorePeerInfo where
  word : UInt32
  deriving DecidableEq, Repr

namespace CorePeerInfo

def zero : CorePeerInfo := ⟨0⟩
def toBytes (info : CorePeerInfo) : List UInt8 := le32 info.word
def ofBytes (bytes : List UInt8) : CorePeerInfo := ⟨ofLe32 bytes⟩

@[simp] theorem toBytes_length (info : CorePeerInfo) : info.toBytes.length = 4 := le32_length _
@[simp] theorem ofBytes_toBytes (info : CorePeerInfo) : ofBytes info.toBytes = info := by
  simp [ofBytes, toBytes]

theorem toBytes_ofBytes (bytes : List UInt8) (width : bytes.length = 4) : (ofBytes bytes).toBytes = bytes :=
  le32_ofLe32 bytes width

end CorePeerInfo

structure PeerInfoWithAddr where
  coreInfo : CorePeerInfo
  address : P2PAddress
  deriving DecidableEq, Repr

namespace PeerInfoWithAddr

def toBytes (peer : PeerInfoWithAddr) : List UInt8 := peer.coreInfo.toBytes ++ peer.address.toBytes
def ofBytes (bytes : List UInt8) : PeerInfoWithAddr := ⟨.ofBytes (bytes.take 4), .ofBytes (bytes.drop 4)⟩

@[simp] theorem toBytes_length (peer : PeerInfoWithAddr) : peer.toBytes.length = 20 := by simp [toBytes]

@[simp] theorem ofBytes_toBytes (peer : PeerInfoWithAddr) : ofBytes peer.toBytes = peer := by
  simp only [ofBytes, toBytes, List.take_left', List.drop_left', CorePeerInfo.toBytes_length,
    CorePeerInfo.ofBytes_toBytes, P2PAddress.ofBytes_toBytes]

end PeerInfoWithAddr

structure TransferInfo where
  totalDownBytes : UInt64
  totalUpBytes : UInt64
  currDownSpeed : FloatBits
  currUpSpeed : FloatBits
  avgDownSpeed : FloatBits
  avgUpSpeed : FloatBits
  deriving DecidableEq, Repr

namespace TransferInfo

def zero : TransferInfo := ⟨0, 0, 0, 0, 0, 0⟩

def toBytes (info : TransferInfo) : List UInt8 :=
  le64 info.totalDownBytes ++ le64 info.totalUpBytes ++ le32 info.currDownSpeed ++
    le32 info.currUpSpeed ++ le32 info.avgDownSpeed ++ le32 info.avgUpSpeed

def ofBytes (bytes : List UInt8) : TransferInfo :=
  let up := bytes.drop 8
  let currDown := up.drop 8
  let currUp := currDown.drop 4
  let avgDown := currUp.drop 4
  ⟨ofLe64 (bytes.take 8), ofLe64 (up.take 8), ofLe32 (currDown.take 4), ofLe32 (currUp.take 4),
    ofLe32 (avgDown.take 4), ofLe32 (avgDown.drop 4)⟩

@[simp] theorem toBytes_length (info : TransferInfo) : info.toBytes.length = 32 := by simp [toBytes]

@[simp] theorem ofBytes_toBytes (info : TransferInfo) : ofBytes info.toBytes = info := by
  simp only [ofBytes, toBytes, List.append_assoc, List.take_left', List.drop_left', le64_length,
    le32_length, ofLe64_le64, ofLe32_le32]

theorem toBytes_ofBytes (bytes : List UInt8) (width : bytes.length = 32) : (ofBytes bytes).toBytes = bytes := by
  simp only [ofBytes, toBytes]
  rw [le64_ofLe64 _ (by simp; omega), le64_ofLe64 _ (by simp; omega), le32_ofLe32 _ (by simp; omega),
    le32_ofLe32 _ (by simp; omega), le32_ofLe32 _ (by simp; omega), le32_ofLe32 _ (by simp; omega)]
  simp only [List.append_assoc, List.take_append_drop]

end TransferInfo

/-- The block ids from `start` up to but not including `start + size`. -/
structure BlockInterval where
  start : UInt32
  size : UInt32
  deriving DecidableEq, Repr

namespace BlockInterval

/-- The default constructor sets `start` only. -/
def init (unset : UInt32) : BlockInterval := ⟨UINT_MAX, unset⟩

/-- `and_op`: the later start and the earlier end; the sums are `uint32_t`. -/
def andOp (first second : BlockInterval) : BlockInterval :=
  let start := max first.start second.start
  let ends := min (first.start + first.size) (second.start + second.size)
  ⟨start, if start < ends then ends - start else 0⟩

def toBytes (interval : BlockInterval) : List UInt8 := le32 interval.start ++ le32 interval.size

def ofBytes (bytes : List UInt8) : BlockInterval := ⟨ofLe32 (bytes.take 4), ofLe32 (bytes.drop 4)⟩

@[simp] theorem toBytes_length (interval : BlockInterval) : interval.toBytes.length = 8 := by
  simp [toBytes]

@[simp] theorem ofBytes_toBytes (interval : BlockInterval) : ofBytes interval.toBytes = interval := by
  simp only [ofBytes, toBytes, List.take_left', List.drop_left', le32_length, ofLe32_le32]

theorem toBytes_ofBytes (bytes : List UInt8) (width : bytes.length = 8) : (ofBytes bytes).toBytes = bytes := by
  simp only [ofBytes, toBytes]
  rw [le32_ofLe32 _ (by simp; omega), le32_ofLe32 _ (by simp; omega), List.take_append_drop]

end BlockInterval

/-- A channel hash of 32 characters and a terminator, with the channel's interval. -/
structure MD5HashStr where
  hash : ByteArr (MD5_LEN + 1)
  blockInterval : BlockInterval
  deriving DecidableEq

namespace MD5HashStr

/-- The 32 characters copied in and the terminator set behind them. -/
def ofMd5 (md5 : ByteArr MD5_LEN) (blockInterval : BlockInterval) : MD5HashStr :=
  ⟨⟨md5.data ++ [0], by simp⟩, blockInterval⟩

/-- `operator<`: case-insensitive. -/
def less (first second : MD5HashStr) : Bool := strncasecmp MD5_LEN first.hash.data second.hash.data < 0

def same (first second : MD5HashStr) : Bool := strncmp MD5_LEN first.hash.data second.hash.data = 0

/-- The text by which `operator<` orders hashes. -/
def rank (hash : MD5HashStr) : List Nat := text tolower MD5_LEN hash.hash.data

theorem less_iff (first second : MD5HashStr) : first.less second ↔ first.rank < second.rank := by
  simp [less, rank, strncasecmp, strncmpBy_neg]

end MD5HashStr

end RabbitStreamer.Core.Struct
