import Mathlib.Data.List.Lex
import Mathlib.Data.UInt

/-! `strncmp` and `strncasecmp`: bounded comparison of byte arrays up to the first
NUL, and the linear order on texts that it computes. -/

namespace RabbitStreamer.Lib.CString

def tolower (byte : UInt8) : Nat :=
  if 65 ≤ byte.toNat ∧ byte.toNat ≤ 90 then byte.toNat + 32 else byte.toNat

/-- Compare at most `count` bytes through `fold`, stopping at the first NUL. -/
def strncmpBy (fold : UInt8 → Nat) : Nat → List UInt8 → List UInt8 → Int
  | 0, _, _ => 0
  | count + 1, first, second =>
      let x := fold (first.headD 0)
      let y := fold (second.headD 0)
      if x ≠ y then (x : Int) - y
      else if x = 0 then 0
      else strncmpBy fold count first.tail second.tail

def strncmp (count : Nat) (first second : List UInt8) : Int :=
  strncmpBy UInt8.toNat count first second

def strncasecmp (count : Nat) (first second : List UInt8) : Int :=
  strncmpBy tolower count first second

/-- The folded text before the first NUL among the first `count` bytes. -/
def text (fold : UInt8 → Nat) : Nat → List UInt8 → List Nat
  | 0, _ => []
  | count + 1, bytes =>
      if fold (bytes.headD 0) = 0 then [] else fold (bytes.headD 0) :: text fold count bytes.tail

theorem strncmpBy_eq_zero (fold : UInt8 → Nat) (count : Nat) (first second : List UInt8) :
    strncmpBy fold count first second = 0 ↔ text fold count first = text fold count second := by
  induction count generalizing first second with
  | zero => simp [strncmpBy, text]
  | succ count ih =>
    simp only [strncmpBy, text]
    generalize fold (first.headD 0) = x
    generalize fold (second.headD 0) = y
    by_cases same : x = y
    · by_cases stop : y = 0
      · simp [same, stop]
      · simp [same, stop, ih]
    · have different : (x : Int) - y ≠ 0 := by omega
      simp only [ne_eq, same, not_false_eq_true, if_true, different, false_iff]
      split_ifs with left right right
      · omega
      · simp
      · simp
      · simp [same]

theorem strncmpBy_neg (fold : UInt8 → Nat) (count : Nat) (first second : List UInt8) :
    strncmpBy fold count first second < 0 ↔ text fold count first < text fold count second := by
  induction count generalizing first second with
  | zero => simp [strncmpBy, text]
  | succ count ih =>
    simp only [strncmpBy, text]
    generalize fold (first.headD 0) = x
    generalize fold (second.headD 0) = y
    by_cases same : x = y
    · by_cases stop : y = 0
      · simp [same, stop]
      · simp [same, stop, ih]
    · simp only [ne_eq, same, not_false_eq_true, if_true]
      split_ifs with left right right
      · omega
      · simp only [List.nil_lt_cons, iff_true]
        omega
      · simp only [List.not_lt_nil, iff_false]
        omega
      · simp only [List.cons_lt_cons_iff, same, false_and, or_false]
        omega

theorem text_congr (fold : UInt8 → Nat) (count : Nat) (first second : List UInt8)
    (same : first.take count = second.take count) : text fold count first = text fold count second := by
  induction count generalizing first second with
  | zero => rfl
  | succ count ih =>
    cases first with
    | nil => cases second with
      | nil => rfl
      | cons byte tail => simp at same
    | cons head rest => cases second with
      | nil => simp at same
      | cons byte tail =>
        simp only [List.take_succ_cons, List.cons.injEq] at same
        simp [text, same.1, ih rest tail same.2]

theorem tolower_eq_zero {byte : UInt8} : tolower byte = 0 ↔ byte.toNat = 0 := by
  unfold tolower
  by_cases letter : 65 ≤ byte.toNat ∧ byte.toNat ≤ 90
  · rw [if_pos letter]
    omega
  · rw [if_neg letter]

theorem text_ne_iff (fold : UInt8 → Nat) (count : Nat) (first second : List UInt8) :
    text fold count first ≠ text fold count second ↔
      ∃ i < count, (∀ j < i, fold (first.getD j 0) ≠ 0) ∧ fold (first.getD i 0) ≠ fold (second.getD i 0) := by
  induction count generalizing first second with
  | zero => simp [text]
  | succ count ih =>
    have head : ∀ bytes : List UInt8, bytes.headD 0 = bytes.getD 0 0 := fun bytes => by cases bytes <;> rfl
    have tail : ∀ (bytes : List UInt8) (i : Nat), bytes.tail.getD i 0 = bytes.getD (i + 1) 0 := fun bytes i => by
      cases bytes <;> simp
    simp only [text, head]
    by_cases same : fold (first.getD 0 0) = fold (second.getD 0 0)
    · by_cases stop : fold (second.getD 0 0) = 0
      · simp only [same, stop, if_true, ne_eq, not_true_eq_false, false_iff]
        rintro ⟨i, _, going, differ⟩
        cases i with
        | zero => exact differ same
        | succ i => exact going 0 (Nat.succ_pos i) (same.trans stop)
      · rw [same, if_neg stop, if_neg stop, ne_eq, List.cons.injEq, not_and]
        simp only [true_implies]
        refine (ih first.tail second.tail).trans ⟨?_, ?_⟩
        · rintro ⟨i, inside, going, differ⟩
          rw [tail, tail] at differ
          refine ⟨i + 1, Nat.succ_lt_succ inside, fun j below => ?_, differ⟩
          cases j with
          | zero => exact same ▸ stop
          | succ j => exact tail first j ▸ going j (Nat.lt_of_succ_lt_succ below)
        · rintro ⟨i, inside, going, differ⟩
          cases i with
          | zero => exact absurd same differ
          | succ i =>
            rw [← tail, ← tail] at differ
            have still : ∀ j < i, fold (first.tail.getD j 0) ≠ 0 := fun j below =>
              tail first j ▸ going (j + 1) (Nat.succ_lt_succ below)
            exact ⟨i, Nat.lt_of_succ_lt_succ inside, still, differ⟩
    · have differ : ∃ i < count + 1, (∀ j < i, fold (first.getD j 0) ≠ 0) ∧
          fold (first.getD i 0) ≠ fold (second.getD i 0) :=
        ⟨0, Nat.succ_pos count, fun j below => absurd below (Nat.not_lt_zero j), same⟩
      refine iff_of_true ?_ differ
      split_ifs with left right right
      · exact absurd (left.trans right.symm) same
      · exact List.cons_ne_nil _ _ ∘ Eq.symm
      · exact List.cons_ne_nil _ _
      · exact fun equal => same (List.cons.inj equal).1

end RabbitStreamer.Lib.CString
