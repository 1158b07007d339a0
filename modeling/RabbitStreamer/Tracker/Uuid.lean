import Mathlib.Data.List.TakeWhile
import RabbitStreamer.Core.StructDefine

/-! The C library's random numbers and the uuids that the tracker makes of them. -/

namespace RabbitStreamer.Tracker.Uuid
open RabbitStreamer.Lib.Bytes RabbitStreamer.Core.Struct RabbitStreamer.Core.StructDefine

/-- A deterministic generator: `srand` sets its state as a function of the seed alone. -/
structure Rand where
  State : Type
  rand : State → Fin 2147483648 × State
  srand : UInt32 → State

def Rand.counting : Rand where
  State := Nat
  rand state := (⟨state % 2147483648, Nat.mod_lt _ (by decide)⟩, state + 1)
  srand seed := seed.toNat

def hexDigit (value : Nat) : UInt8 := UInt8.ofNat (if value < 10 then 48 + value else 87 + value)

def hexDigits : Nat → Nat → List UInt8
  | 0, _ => []
  | count + 1, value => hexDigits count (value / 16) ++ [hexDigit (value % 16)]

/-- `%04x` of an `int` that is not negative: leading zeros only up to four digits. -/
def hex04 (value : Nat) : List UInt8 :=
  let digits := hexDigits 8 value
  (digits.take 4).dropWhile (· = 48) ++ digits.drop 4

@[simp] theorem hexDigits_length (count value : Nat) : (hexDigits count value).length = count := by
  induction count generalizing value with
  | zero => rfl
  | succ count ih => rw [hexDigits, List.length_append, ih, List.length_singleton]

theorem hexDigits_add (high low value : Nat) :
    hexDigits (high + low) value = hexDigits high (value / 16 ^ low) ++ hexDigits low value := by
  induction low generalizing value with
  | zero => rw [Nat.pow_zero, Nat.div_one, hexDigits, List.append_nil, Nat.add_zero]
  | succ low ih =>
    have more : value / 16 / 16 ^ low = value / 16 ^ (low + 1) := by
      rw [Nat.div_div_eq_div_mul, Nat.pow_succ, Nat.mul_comm]
    rw [← Nat.add_assoc, hexDigits, ih, more, hexDigits, List.append_assoc]

theorem hexDigit_eq_zero : ∀ value < 16, (hexDigit value = 48 ↔ value = 0) := by decide

theorem hexDigits_eq_zeros (count value : Nat) :
    (∀ digit ∈ hexDigits count value, digit = 48) ↔ value % 16 ^ count = 0 := by
  induction count generalizing value with
  | zero => simp [hexDigits, Nat.mod_one]
  | succ count ih =>
    have parts : value % 16 ^ (count + 1) = value % 16 + 16 * (value / 16 % 16 ^ count) := by
      rw [Nat.pow_succ, Nat.mul_comm, Nat.mod_mul]
    have last := hexDigit_eq_zero (value % 16) (Nat.mod_lt _ (by decide))
    rw [hexDigits, List.forall_mem_append, ih, List.forall_mem_singleton, last, parts]
    omega

theorem hex04_length (value : Nat) :
    (hex04 value).length = ((hexDigits 4 (value / 65536)).dropWhile (· = 48)).length + 4 := by
  have digits : hexDigits 8 value = hexDigits 4 (value / 65536) ++ hexDigits 4 value := hexDigits_add 4 4 value
  have front := hexDigits_length 4 (value / 65536)
  rw [hex04, digits, List.take_left' front, List.drop_left' front, List.length_append, hexDigits_length]

theorem hex04_length_le_iff {value : Nat} (int : value < 4294967296) : (hex04 value).length ≤ 4 ↔ value < 65536 := by
  have zeros := hexDigits_eq_zeros 4 (value / 65536)
  calc (hex04 value).length ≤ 4
      ↔ (hexDigits 4 (value / 65536)).dropWhile (· = 48) = [] := by
        rw [hex04_length, ← List.length_eq_zero_iff]
        omega
    _ ↔ ∀ digit ∈ hexDigits 4 (value / 65536), digit = 48 := by
        rw [List.dropWhile_eq_nil_iff]
        simp only [decide_eq_true_eq]
    _ ↔ value < 65536 := by
        rw [zeros]
        omega

/-- Results of `rand` are written as numerals. -/
instance rand_positive : NeZero 2147483648 := ⟨by decide⟩

/-- Four results of `rand`. -/
structure Draws where
  r1 : Fin 2147483648
  r2 : Fin 2147483648
  r3 : Fin 2147483648
  r4 : Fin 2147483648
  deriving DecidableEq

namespace Draws

def next (R : Rand) (rng : R.State) : Draws × R.State :=
  let (r1, rng) := R.rand rng
  let (r2, rng) := R.rand rng
  let (r3, rng) := R.rand rng
  let (r4, rng) := R.rand rng
  (⟨r1, r2, r3, r4⟩, rng)

/-- What `sprintf` writes, without the terminator. -/
def format (draws : Draws) : List UInt8 := hex04 draws.r1 ++ hex04 draws.r2 ++ hex04 draws.r3 ++ hex04 draws.r4

theorem format_length (draws : Draws) : draws.format.length =
    (hex04 draws.r1).length + (hex04 draws.r2).length + (hex04 draws.r3).length + (hex04 draws.r4).length := by
  simp only [format, List.length_append]

end Draws

/-- The array that `sprintf` fills; what it writes behind the array is not part of it. -/
def uuidOf (draws : Draws) : MapStr := ⟨.ofList _ (draws.format ++ [0])⟩

/-- `generate_uuid` of both connectors. -/
def generateUuid (R : Rand) (rng : R.State) : MapStr × R.State :=
  let (draws, rng) := Draws.next R rng
  (uuidOf draws, rng)

example : (uuidOf ⟨10, 70000, 255, 0⟩).str.data =
    [48, 48, 48, 97, 49, 49, 49, 55, 48, 48, 48, 102, 102, 48, 48, 48, 48] := by
  decide

end RabbitStreamer.Tracker.Uuid
