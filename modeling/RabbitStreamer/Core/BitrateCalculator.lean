import RabbitStreamer.Lib.Bytes
import RabbitStreamer.Lib.Transition

/-! `RsBitrateCalculator`: bytes are counted, and their rate is logged about once a second. -/

namespace RabbitStreamer.Core.BitrateCalculator
open RabbitStreamer.Lib.Bytes RabbitStreamer.Lib.Transition

structure RsBitrateCalculator where
  calculatorName : List UInt8
  recvBufferSize : UInt32
  lastRecvMsec : UInt32
  deriving DecidableEq

def RsBitrateCalculator.init (name : List UInt8) : RsBitrateCalculator := ⟨name, 0, 0⟩

structure Timeval where
  tvSec : Int
  tvUsec : Int

def Timeval.msec (tv : Timeval) : Int := tv.tvSec * 1000 + tv.tvUsec.tdiv 1000

/-- A line of the log; the rate is printed as an `int`. -/
structure Bitrate where
  calculatorName : List UInt8
  kbps : Int
  deriving DecidableEq

/-- The calculator after a call and the line it logs, if any; dividing by zero is a fault. No time is
given where `gettimeofday` fails. -/
def RsBitrateCalculator.updateBuffersize (calculator : RsBitrateCalculator) (size : UInt32) :
    Option Timeval → Option (RsBitrateCalculator × Option Bitrate)
  | none => some ({ calculator with recvBufferSize := calculator.recvBufferSize + size }, none)
  | some tv =>
      let recvBufferSize := calculator.recvBufferSize + size
      let currMs := ofInt32 tv.msec
      let deltaMs := currMs - calculator.lastRecvMsec
      if deltaMs > 1000 then
        if 1024 * deltaMs = 0 then none
        else some (⟨calculator.calculatorName, 0, currMs⟩,
          some ⟨calculator.calculatorName, toInt32 (1000 * recvBufferSize / (1024 * deltaMs))⟩)
      else some ({ calculator with recvBufferSize }, none)

structure Update where
  size : UInt32
  tv : Option Timeval

/-- The calculator, the bytes since the last line, and its time; the first line is taken to come after
one at time zero. -/
structure Metered where
  calculator : RsBitrateCalculator
  bytes : Nat
  since : Int

namespace Metered

def start (name : List UInt8) : Metered := ⟨.init name, 0, 0⟩

def counted (metered : Metered) (update : Update) : Nat := metered.bytes + update.size.toNat

def elapsed (metered : Metered) (tv : Timeval) : Int := tv.msec - metered.since

end Metered

open Metered

def step (metered : Metered) (update : Update) : Option Metered :=
  (metered.calculator.updateBuffersize update.size update.tv).map fun result =>
    if result.2.isSome then ⟨result.1, 0, (update.tv.map Timeval.msec).getD metered.since⟩
    else ⟨result.1, metered.counted update, metered.since⟩

/-- A call divides by no zero, and what it logs is the rate. -/
def Exact (metered : Metered) (update : Update) : Prop :=
  ∃ calculator logged, metered.calculator.updateBuffersize update.size update.tv = some (calculator, logged) ∧
    ∀ bitrate tv, logged = some bitrate → update.tv = some tv →
      bitrate.kbps = (1000 * (metered.counted update : Int)).fdiv (1024 * metered.elapsed tv)

/-- Whether a call logs: the milliseconds since the last line are counted to 32 bits. -/
def Logs (metered : Metered) (tv : Timeval) : Prop := 1000 < metered.elapsed tv % 4294967296

instance (metered : Metered) (tv : Timeval) : Decidable (Logs metered tv) := inferInstanceAs (Decidable (_ < _))

/-- The bytes are few enough for their product, and so is the time for its own unless the rate is
rounded to zero anyway. -/
def Representable (counted : Nat) (elapsed : Int) : Prop :=
  1000 * counted < 4294967296 ∧ (0 ≤ elapsed ∧ elapsed < 4194304 ∨
    (0 ≤ elapsed ∨ counted = 0) ∧ 1000 * (counted : Int) < 1024 * (elapsed % 4194304))

instance (counted : Nat) (elapsed : Int) : Decidable (Representable counted elapsed) :=
  inferInstanceAs (Decidable (_ ∧ _))

def Fits (metered : Metered) (update : Update) : Prop :=
  ∀ tv, update.tv = some tv → Logs metered tv → Representable (metered.counted update) (metered.elapsed tv)

def OneFits (metered : Metered) (update : Update) : Prop :=
  ∀ tv, update.tv = some tv → Logs metered tv →
    1000 * metered.counted update < 4294967296 ∨ metered.elapsed tv < 4194304

structure Counting (metered : Metered) : Prop where
  size : metered.calculator.recvBufferSize = UInt32.ofNat metered.bytes
  time : metered.calculator.lastRecvMsec = ofInt32 metered.since

theorem counting_start (name : List UInt8) : Counting (start name) := ⟨rfl, rfl⟩

theorem ofInt32_toNat (value : Int) : ((ofInt32 value).toNat : Int) = value % 4294967296 := by
  rw [ofInt32, UInt32.toNat_ofNat']
  omega

theorem sub_ofInt32_toNat (first second : Int) :
    ((ofInt32 first - ofInt32 second).toNat : Int) = (first - second) % 4294967296 := by
  have left := ofInt32_toNat first
  have right := ofInt32_toNat second
  rw [UInt32.toNat_sub]
  omega

theorem Counting.counted {metered : Metered} (counting : Counting metered) (update : Update) :
    metered.calculator.recvBufferSize + update.size = UInt32.ofNat (metered.counted update) := by
  rw [counting.size, Metered.counted, UInt32.ofNat_add, UInt32.ofNat_toNat]

theorem Counting.deltaMs {metered : Metered} (counting : Counting metered) (tv : Timeval) :
    ((ofInt32 tv.msec - metered.calculator.lastRecvMsec).toNat : Int) = metered.elapsed tv % 4294967296 := by
  rw [counting.time, sub_ofInt32_toNat, elapsed]

theorem divisor_toNat {delta : UInt32} {elapsed : Int} (same : (delta.toNat : Int) = elapsed % 4294967296) :
    ((1024 * delta).toNat : Int) = 1024 * (elapsed % 4194304) := by
  rw [UInt32.toNat_mul, show (1024 : UInt32).toNat = 1024 from rfl]
  omega

theorem dividend_toNat (counted : Nat) :
    ((1000 * UInt32.ofNat counted).toNat : Int) = 1000 * (counted : Int) % 4294967296 := by
  rw [UInt32.toNat_mul, UInt32.toNat_ofNat', show (1000 : UInt32).toNat = 1000 from rfl]
  omega

def rate (counted : Nat) (elapsed : Int) : Int := 1000 * (counted : Int) % 4294967296 / (1024 * (elapsed % 4194304))

theorem quotient_toInt32 (counted : Nat) {delta : UInt32} {elapsed : Int}
    (same : (delta.toNat : Int) = elapsed % 4294967296) (safe : elapsed % 4194304 ≠ 0) :
    toInt32 (1000 * UInt32.ofNat counted / (1024 * delta)) = rate counted elapsed := by
  have divisor := divisor_toNat same
  have dividend := dividend_toNat counted
  have value : ((1000 * UInt32.ofNat counted / (1024 * delta)).toNat : Int) = rate counted elapsed := by
    rw [UInt32.toNat_div, Int.natCast_ediv, divisor, dividend, rate]
  have small : rate counted elapsed < 2147483648 :=
    Int.ediv_lt_of_lt_mul (by omega) (by omega)
  rw [toInt32_of_lt (by omega), value]

section Call

variable {metered : Metered} {update : Update} {tv : Timeval}

theorem Counting.quiet (counting : Counting metered) (given : ∀ tv, update.tv = some tv → ¬Logs metered tv) :
    metered.calculator.updateBuffersize update.size update.tv = some
      ({ metered.calculator with recvBufferSize := UInt32.ofNat (metered.counted update) }, none) := by
  rw [← counting.counted update]
  cases told : update.tv with
  | none => rfl
  | some tv =>
    have early := given tv told
    have delta := counting.deltaMs tv
    unfold Logs at early
    exact if_neg fun late => by
      rw [GT.gt, UInt32.lt_iff_toNat_lt, show (1000 : UInt32).toNat = 1000 from rfl] at late
      omega

theorem Counting.logs (counting : Counting metered) (given : update.tv = some tv) (late : Logs metered tv) :
    metered.calculator.updateBuffersize update.size update.tv =
      if metered.elapsed tv % 4194304 = 0 then none
      else some (⟨metered.calculator.calculatorName, 0, ofInt32 tv.msec⟩,
        some ⟨metered.calculator.calculatorName, rate (metered.counted update) (metered.elapsed tv)⟩) := by
  have delta := counting.deltaMs tv
  have divisor := divisor_toNat delta
  have passed : ofInt32 tv.msec - metered.calculator.lastRecvMsec > 1000 := by
    unfold Logs at late
    rw [GT.gt, UInt32.lt_iff_toNat_lt, show (1000 : UInt32).toNat = 1000 from rfl]
    omega
  have zero : 1024 * (ofInt32 tv.msec - metered.calculator.lastRecvMsec) = 0 ↔ metered.elapsed tv % 4194304 = 0 := by
    rw [← UInt32.toNat_inj, show (0 : UInt32).toNat = 0 from rfl]
    omega
  unfold RsBitrateCalculator.updateBuffersize
  rw [given]
  dsimp only
  rw [if_pos passed, counting.counted update]
  by_cases trap : metered.elapsed tv % 4194304 = 0
  · rw [if_pos trap, if_pos (zero.mpr trap)]
  · rw [if_neg trap, if_neg (mt zero.mp trap), quotient_toInt32 _ delta trap]

theorem Counting.step {after : Metered} (counting : Counting metered) (taken : step metered update = some after) :
    Counting after := by
  unfold BitrateCalculator.step at taken
  by_cases early : ∀ tv, update.tv = some tv → ¬Logs metered tv
  · rw [counting.quiet early] at taken
    cases taken
    exact ⟨rfl, counting.time⟩
  · simp only [not_forall, not_not] at early
    obtain ⟨tv, given, late⟩ := early
    rw [counting.logs given late, given] at taken
    split_ifs at taken
    · cases taken
    · cases taken
      exact ⟨rfl, rfl⟩

def Right (counted : Nat) (elapsed : Int) : Prop :=
  elapsed % 4194304 ≠ 0 ∧ rate counted elapsed = (1000 * (counted : Int)).fdiv (1024 * elapsed)

theorem Counting.exact_iff (counting : Counting metered) : Exact metered update ↔
    ∀ tv, update.tv = some tv → Logs metered tv → Right (metered.counted update) (metered.elapsed tv) := by
  constructor
  · rintro ⟨calculator, logged, called, all⟩ tv given late
    rw [counting.logs given late] at called
    split_ifs at called with trap
    cases called
    exact ⟨trap, all _ tv rfl given⟩
  · intro right
    by_cases early : ∀ tv, update.tv = some tv → ¬Logs metered tv
    · exact ⟨_, _, counting.quiet early, fun _ _ other => nomatch other⟩
    · simp only [not_forall, not_not] at early
      obtain ⟨tv, given, late⟩ := early
      obtain ⟨safe, same⟩ := right tv given late
      refine ⟨_, _, (counting.logs given late).trans (if_neg safe), fun bitrate other line again => ?_⟩
      cases line
      cases given.symm.trans again
      exact same

end Call

theorem fdiv_neg_of_pos_of_neg {dividend divisor : Int} (positive : 0 < dividend) (negative : divisor < 0) :
    dividend.fdiv divisor < 0 := by
  rw [← Int.neg_fdiv_neg]
  exact Int.fdiv_neg_of_neg_of_pos (by omega) (by omega)

theorem rate_nonneg (counted : Nat) (elapsed : Int) : 0 ≤ rate counted elapsed :=
  Int.ediv_nonneg (by omega) (by omega)

theorem fdiv_of_long {dividend elapsed : Int} (natural : 0 ≤ dividend) (small : dividend < 4294967296)
    (long : 4194304 ≤ elapsed) : dividend.fdiv (1024 * elapsed) = 0 :=
  Int.fdiv_eq_zero_of_lt natural (by omega)

theorem right_of_representable {counted : Nat} {elapsed : Int} (late : 1000 < elapsed % 4294967296)
    (fits : Representable counted elapsed) : Right counted elapsed := by
  obtain ⟨product, ⟨natural, short⟩ | ⟨forward, rounded⟩⟩ := fits
  · refine ⟨by omega, ?_⟩
    rw [rate, Int.fdiv_eq_ediv_of_nonneg _ (by omega), Int.emod_eq_of_lt (by omega) (by omega),
      Int.emod_eq_of_lt natural short]
  · refine ⟨by omega, ?_⟩
    have zero : rate counted elapsed = 0 := by
      rw [rate, Int.emod_eq_of_lt (by omega) (by omega)]
      exact Int.ediv_eq_zero_of_lt (by omega) rounded
    rw [zero]
    by_cases nothing : counted = 0
    · rw [nothing]
      exact (Int.zero_fdiv _).symm
    · have natural : 0 ≤ elapsed := forward.resolve_right nothing
      have below : 1024 * (elapsed % 4194304) ≤ 1024 * elapsed := by omega
      exact (Int.fdiv_eq_zero_of_lt (by omega) (lt_of_lt_of_le rounded below)).symm

theorem ediv_emod_lt {dividend divisor : Int} (large : 4294967296 ≤ dividend) (positive : 0 < divisor)
    (fits : divisor < 4294967296) : dividend % 4294967296 / divisor < dividend / divisor := by
  have more : dividend % 4294967296 + 1 * divisor ≤ dividend := by omega
  have quotient := Int.ediv_le_ediv positive more
  rw [Int.add_mul_ediv_right _ _ (by omega)] at quotient
  omega

theorem representable_of_right {counted : Nat} {elapsed : Int}
    (oneFits : 1000 * counted < 4294967296 ∨ elapsed < 4194304) (right : Right counted elapsed) :
    Representable counted elapsed := by
  obtain ⟨safe, same⟩ := right
  by_cases back : elapsed < 0
  · -- A rate over a time that is set back is negative, and what is logged never is.
    have nothing : counted = 0 := by
      by_contra some
      have negative : (1000 * (counted : Int)).fdiv (1024 * elapsed) < 0 :=
        fdiv_neg_of_pos_of_neg (by omega) (by omega)
      have natural := rate_nonneg counted elapsed
      omega
    exact ⟨by omega, Or.inr ⟨Or.inr nothing, by omega⟩⟩
  · by_cases short : elapsed < 4194304
    · rw [rate, Int.fdiv_eq_ediv_of_nonneg _ (by omega), Int.emod_eq_of_lt (by omega) short] at same
      refine ⟨?_, Or.inl ⟨by omega, short⟩⟩
      by_contra large
      have less := @ediv_emod_lt (1000 * counted) (1024 * elapsed) (by omega) (by omega) (by omega)
      omega
    · have product : 1000 * counted < 4294967296 := oneFits.resolve_right short
      rw [fdiv_of_long (by omega) (by omega) (by omega), rate, Int.emod_eq_of_lt (by omega) (by omega)] at same
      have rounded := (Int.ediv_lt_iff_lt_mul (by omega)).mp (lt_of_eq_of_lt same Int.one_pos)
      exact ⟨product, Or.inr ⟨Or.inl (by omega), by omega⟩⟩

theorem Counting.exact_of_fits {metered : Metered} {update : Update} (counting : Counting metered)
    (fits : Fits metered update) : Exact metered update :=
  counting.exact_iff.mpr fun tv given late => right_of_representable late (fits tv given late)

theorem Counting.fits_of_exact {metered : Metered} {update : Update} (counting : Counting metered)
    (oneFits : OneFits metered update) (told : Exact metered update) : Fits metered update := fun tv given late =>
  representable_of_right (oneFits tv given late) (counting.exact_iff.mp told tv given late)

/-- The rates that are logged are exact along every run in which the products fit, and along no
other in which never both are too large. -/
theorem bitrate_exact_along (name : List UInt8) (updates : List Update) :
    (Along step (start name) updates Fits → Along step (start name) updates Exact) ∧
      (Along step (start name) updates OneFits → Along step (start name) updates Exact →
        Along step (start name) updates Fits) := by
  have counting : ∀ past state, run step (start name) past = some state → Counting state :=
    fun past state reached =>
      run_invariant Counting (fun _ _ _ counting taken => counting.step taken) (counting_start name) reached
  constructor
  · intro fits past update rest state split reached
    exact (counting past state reached).exact_of_fits (fits past update rest state split reached)
  · intro oneFits exact past update rest state split reached
    exact (counting past state reached).fits_of_exact (oneFits past update rest state split reached)
      (exact past update rest state split reached)

def checkFits (metered : Metered) (update : Update) : Bool :=
  update.tv.all fun tv => Logs metered tv → Representable (metered.counted update) (metered.elapsed tv)

theorem fits_of_check {metered : Metered} {update : Update} (passed : checkFits metered update = true) :
    Fits metered update := by
  intro tv given
  rw [checkFits, given] at passed
  exact of_decide_eq_true passed

theorem megabyte_exact : Along step (start [])
    [⟨0, some ⟨1500000000, 0⟩⟩, ⟨1000000, some ⟨1500000002, 0⟩⟩] Exact :=
  (bitrate_exact_along [] _).1 (along_of_check (fun _ _ => fits_of_check) (by decide))

/-- Of the product for five million bytes in two seconds a sixth is left. -/
theorem burst_inexact : ¬ ∀ (name : List UInt8) (updates : List Update), Along step (start name) updates Exact := by
  intro always
  obtain ⟨calculator, logged, called, all⟩ := always []
    [⟨0, some ⟨1500000000, 0⟩⟩, ⟨5000000, some ⟨1500000002, 0⟩⟩] [⟨0, some ⟨1500000000, 0⟩⟩]
    ⟨5000000, some ⟨1500000002, 0⟩⟩ [] ⟨⟨[], 0, ofInt32 1500000000000⟩, 0, 1500000000000⟩ rfl rfl
  have computed : RsBitrateCalculator.updateBuffersize ⟨[], 0, ofInt32 1500000000000⟩ 5000000
      (some ⟨1500000002, 0⟩) = some (⟨[], 0, ofInt32 1500000002000⟩, some ⟨[], 344⟩) := by decide
  cases computed.symm.trans called
  exact absurd (all _ _ rfl rfl) (by decide)

end RabbitStreamer.Core.BitrateCalculator
