import Mathlib.Data.List.Basic
import Mathlib.Tactic.Ring

/-! Bytes in memory: little-endian words of any width, arrays of a fixed length
and two's complement 32-bit integers. -/

namespace RabbitStreamer.Lib.Bytes

def leBytes : Nat → Nat → List UInt8
  | 0, _ => []
  | count + 1, value => UInt8.ofNat (value % 256) :: leBytes count (value / 256)

def leNat : List UInt8 → Nat
  | [] => 0
  | byte :: tail => byte.toNat + 256 * leNat tail

@[simp] theorem leBytes_length (count value : Nat) : (leBytes count value).length = count := by
  induction count generalizing value with
  | zero => rfl
  | succ count ih => simp [leBytes, ih]

theorem leNat_leBytes (count value : Nat) (bound : value < 256 ^ count) :
    leNat (leBytes count value) = value := by
  induction count generalizing value with
  | zero => simp only [pow_zero] at bound; simp only [leBytes, leNat]; omega
  | succ count ih =>
    have small : value / 256 < 256 ^ count := by
      rw [Nat.div_lt_iff_lt_mul (by decide)]
      simpa only [pow_succ] using bound
    have low : (UInt8.ofNat (value % 256)).toNat = value % 256 := by simp
    simp only [leBytes, leNat, low, ih _ small]
    omega

theorem leNat_lt (bytes : List UInt8) : leNat bytes < 256 ^ bytes.length := by
  induction bytes with
  | nil => simp [leNat]
  | cons byte tail ih =>
    have top : byte.toNat < 256 := byte.toNat_lt
    simp only [leNat, List.length_cons, pow_succ]
    omega

theorem leBytes_leNat (bytes : List UInt8) : leBytes bytes.length (leNat bytes) = bytes := by
  induction bytes with
  | nil => rfl
  | cons byte tail ih =>
    have top : byte.toNat < 256 := byte.toNat_lt
    have low : (byte.toNat + 256 * leNat tail) % 256 = byte.toNat := by omega
    have high : (byte.toNat + 256 * leNat tail) / 256 = leNat tail := by omega
    simp only [List.length_cons, leNat, leBytes, low, high, ih, UInt8.ofNat_toNat]

theorem leBytes_append (first second : Nat) {low : Nat} (high : Nat) (bound : low < 256 ^ first) :
    leBytes (first + second) (low + 256 ^ first * high) = leBytes first low ++ leBytes second high := by
  induction first generalizing low with
  | zero =>
    have zero : low = 0 := by simpa using bound
    rw [zero, pow_zero, Nat.one_mul, Nat.zero_add, Nat.zero_add, leBytes, List.nil_append]
  | succ first ih =>
    have small : low / 256 < 256 ^ first := by
      rw [Nat.div_lt_iff_lt_mul (by decide)]
      simpa only [pow_succ] using bound
    have shift : 256 ^ (first + 1) * high = 256 * (256 ^ first * high) := by ring
    have rest : (low + 256 * (256 ^ first * high)) / 256 = low / 256 + 256 ^ first * high := by omega
    have byte : (low + 256 * (256 ^ first * high)) % 256 = low % 256 := by omega
    rw [shift, Nat.succ_add, leBytes, leBytes, rest, byte, ih small, List.cons_append]

theorem leBytes_mod (count value : Nat) : leBytes count (value % 256 ^ count) = leBytes count value := by
  induction count generalizing value with
  | zero => rfl
  | succ count ih =>
    have rest : value % 256 ^ (count + 1) / 256 = value / 256 % 256 ^ count := by
      rw [pow_succ', Nat.mod_mul_right_div_self]
    rw [leBytes, leBytes, rest, ih, Nat.mod_mod_of_dvd _ (dvd_pow_self 256 (Nat.succ_ne_zero count))]

def le16 (value : UInt16) : List UInt8 := leBytes 2 value.toNat
def le32 (value : UInt32) : List UInt8 := leBytes 4 value.toNat
def le64 (value : UInt64) : List UInt8 := leBytes 8 value.toNat
def ofLe16 (bytes : List UInt8) : UInt16 := UInt16.ofNat (leNat bytes)
def ofLe32 (bytes : List UInt8) : UInt32 := UInt32.ofNat (leNat bytes)
def ofLe64 (bytes : List UInt8) : UInt64 := UInt64.ofNat (leNat bytes)

@[simp] theorem le16_length (value : UInt16) : (le16 value).length = 2 := leBytes_length _ _
@[simp] theorem le32_length (value : UInt32) : (le32 value).length = 4 := leBytes_length _ _
@[simp] theorem le64_length (value : UInt64) : (le64 value).length = 8 := leBytes_length _ _

@[simp] theorem ofLe16_le16 (value : UInt16) : ofLe16 (le16 value) = value := by
  have bound : value.toNat < 256 ^ 2 := value.toNat_lt
  rw [ofLe16, le16, leNat_leBytes _ _ bound, UInt16.ofNat_toNat]

@[simp] theorem ofLe32_le32 (value : UInt32) : ofLe32 (le32 value) = value := by
  have bound : value.toNat < 256 ^ 4 := value.toNat_lt
  rw [ofLe32, le32, leNat_leBytes _ _ bound, UInt32.ofNat_toNat]

@[simp] theorem ofLe64_le64 (value : UInt64) : ofLe64 (le64 value) = value := by
  have bound : value.toNat < 256 ^ 8 := value.toNat_lt
  rw [ofLe64, le64, leNat_leBytes _ _ bound, UInt64.ofNat_toNat]

theorem le32_ofLe32 (bytes : List UInt8) (four : bytes.length = 4) : le32 (ofLe32 bytes) = bytes := by
  have bound := leNat_lt bytes
  rw [four] at bound
  have value : (ofLe32 bytes).toNat = leNat bytes := by
    rw [ofLe32, UInt32.toNat_ofNat']
    exact Nat.mod_eq_of_lt bound
  rw [le32, value, ← four, leBytes_leNat]

theorem le16_ofLe16 (bytes : List UInt8) (two : bytes.length = 2) : le16 (ofLe16 bytes) = bytes := by
  have bound := leNat_lt bytes
  rw [two] at bound
  have value : (ofLe16 bytes).toNat = leNat bytes := by
    rw [ofLe16, UInt16.toNat_ofNat']
    exact Nat.mod_eq_of_lt bound
  rw [le16, value, ← two, leBytes_leNat]

theorem le64_ofLe64 (bytes : List UInt8) (eight : bytes.length = 8) : le64 (ofLe64 bytes) = bytes := by
  have bound := leNat_lt bytes
  rw [eight] at bound
  have value : (ofLe64 bytes).toNat = leNat bytes := by
    rw [ofLe64, UInt64.toNat_ofNat']
    exact Nat.mod_eq_of_lt bound
  rw [le64, value, ← eight, leBytes_leNat]

structure ByteArr (n : Nat) where
  data : List UInt8
  size : data.length = n
  deriving DecidableEq

namespace ByteArr

variable {n : Nat}

@[simp] theorem length_data (array : ByteArr n) : array.data.length = n := array.size

theorem ext_data {first second : ByteArr n} (same : first.data = second.data) : first = second := by
  cases first
  cases second
  cases same
  rfl

def fill (n : Nat) (byte : UInt8) : ByteArr n := ⟨List.replicate n byte, List.length_replicate⟩

def ofList (n : Nat) (bytes : List UInt8) : ByteArr n :=
  ⟨(bytes ++ List.replicate n 0).take n, by simp⟩

theorem ofList_of_length (bytes : List UInt8) (width : bytes.length = n) :
    (ofList n bytes).data = bytes := by
  subst width
  exact List.take_left

@[simp] theorem ofList_data (array : ByteArr n) : ofList n array.data = array :=
  ext_data (ofList_of_length _ array.size)

/-- Overwrite the leading bytes, as `memcpy` into the array does. -/
def overwrite (array : ByteArr n) (bytes : List UInt8) (fits : bytes.length ≤ n) : ByteArr n :=
  ⟨bytes ++ array.data.drop bytes.length, by simp; omega⟩

theorem overwrite_prefix (array : ByteArr n) (bytes : List UInt8) (fits : bytes.length ≤ n) :
    bytes <+: (array.overwrite bytes fits).data := List.prefix_append _ _

end ByteArr

/-- The value a 32-bit `int` holds after an operation with this exact result. -/
def wrap32 (value : Int) : Int := (value + 2147483648) % 4294967296 - 2147483648

def IsInt32 (value : Int) : Prop := -2147483648 ≤ value ∧ value < 2147483648

instance (value : Int) : Decidable (IsInt32 value) := inferInstanceAs (Decidable (_ ∧ _))

theorem wrap32_of_isInt32 {value : Int} (inside : IsInt32 value) : wrap32 value = value := by
  unfold wrap32
  unfold IsInt32 at inside
  omega

theorem isInt32_wrap32 (value : Int) : IsInt32 (wrap32 value) := by
  unfold wrap32 IsInt32
  omega

def toInt32 (value : UInt32) : Int := wrap32 value.toNat

theorem toInt32_of_lt {value : UInt32} (small : value.toNat < 2147483648) :
    toInt32 value = value.toNat := wrap32_of_isInt32 (by unfold IsInt32; omega)

theorem isInt32_toInt32 (value : UInt32) : IsInt32 (toInt32 value) := isInt32_wrap32 _

def ofInt32 (value : Int) : UInt32 := UInt32.ofNat (value % 4294967296).toNat

theorem toInt32_ofInt32 {value : Int} (inside : IsInt32 value) : toInt32 (ofInt32 value) = value := by
  have value : (ofInt32 value).toNat = (value % 4294967296).toNat := by
    rw [ofInt32, UInt32.toNat_ofNat']
    omega
  unfold toInt32 wrap32
  unfold IsInt32 at inside
  rw [value]
  omega

theorem ofInt32_natCast (value : Nat) : ofInt32 (value : Int) = UInt32.ofNat value := by
  apply UInt32.toNat_inj.mp
  rw [ofInt32, UInt32.toNat_ofNat', UInt32.toNat_ofNat']
  omega

end RabbitStreamer.Lib.Bytes
