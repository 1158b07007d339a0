import Mathlib.Data.List.Basic

/-! `RsTimer`: the timers of a process and the checks that signal them. -/

namespace RabbitStreamer.Core.Timer

variable {H : Type}

structure TimerItem (H : Type) where
  timeout : Int
  timerid : Int
  lastSignalTime : Int
  callback : H
  deriving DecidableEq

structure RsTimer (H : Type) where
  threadStartFlag : Bool
  lastThreadTime : Int
  timerVector : List (TimerItem H)

namespace RsTimer

def init : RsTimer H := ⟨false, 0, []⟩

def addTimer (timer : RsTimer H) (timeout timerid : Int) (callback : H) : RsTimer H :=
  { timer with
    threadStartFlag := true
    timerVector := timer.timerVector ++ [⟨timeout, timerid, 0, callback⟩] }

end RsTimer

def TimerItem.signal (curr : Int) (item : TimerItem H) : TimerItem H × Bool :=
  let delta := curr - item.lastSignalTime
  if delta ≥ item.timeout then ({ item with lastSignalTime := curr }, true) else (item, false)

/-- The timer after a check, and for each of its entries whether `handle_timeout` was called. -/
def RsTimer.checkTimeout (timer : RsTimer H) (curr : Int) : RsTimer H × List Bool :=
  if timer.lastThreadTime = 0 then
    ({ timer with
      lastThreadTime := curr
      timerVector := timer.timerVector.map fun item => { item with lastSignalTime := curr } },
    timer.timerVector.map fun _ => false)
  else
    ({ timer with timerVector := timer.timerVector.map fun item => (item.signal curr).1 },
    timer.timerVector.map fun item => (item.signal curr).2)

open RsTimer

variable [DecidableEq H]

/-- `operator==`, which does not look at the last signal. -/
def TimerItem.equals (item rhs : TimerItem H) : Bool :=
  item.callback == rhs.callback && item.timeout == rhs.timeout && item.timerid == rhs.timerid

/-- What `std::remove` leaves in the places behind the entries that it keeps is unspecified. -/
abbrev Leftover (H : Type) := Nat → TimerItem H

/-- The vector after `std::remove`, and the place that it returns. -/
def remove (vector : List (TimerItem H)) (item : TimerItem H) (leftover : Leftover H) : List (TimerItem H) × Nat :=
  let kept := vector.filter fun entry => !entry.equals item
  (kept ++ (List.range (vector.length - kept.length)).map leftover, kept.length)

/-- `vector::erase` of one place; there is nothing to erase at the end. -/
def erase (vector : List (TimerItem H)) (place : Nat) : Option (List (TimerItem H)) :=
  if place < vector.length then some (vector.eraseIdx place) else none

def RsTimer.deleteTimer (timer : RsTimer H) (timeout timerid : Int) (callback : H) (leftover : Leftover H) :
    Option (RsTimer H) :=
  let removed := remove timer.timerVector ⟨timeout, timerid, 0, callback⟩ leftover
  (erase removed.1 removed.2).map fun timerVector => { timer with timerVector }

def matching (timer : RsTimer H) (timeout timerid : Int) (callback : H) : Nat :=
  timer.timerVector.countP fun entry => entry.equals ⟨timeout, timerid, 0, callback⟩

/-- The entries that match are gone and the others are as before. -/
def Deleted (timer : RsTimer H) (timeout timerid : Int) (callback : H) (result : Option (RsTimer H)) : Prop :=
  result = some { timer with
    timerVector := timer.timerVector.filter fun entry => !entry.equals ⟨timeout, timerid, 0, callback⟩ }

theorem length_filter_not (vector : List (TimerItem H)) (item : TimerItem H) :
    (vector.filter fun entry => !entry.equals item).length + vector.countP (fun entry => entry.equals item) =
      vector.length := by
  rw [List.countP_eq_length_filter, Nat.add_comm]
  exact (List.length_eq_length_filter_add _).symm

theorem deleteTimer_eq (timer : RsTimer H) (timeout timerid : Int) (callback : H) (leftover : Leftover H) :
    timer.deleteTimer timeout timerid callback leftover =
      if matching timer timeout timerid callback = 0 then none
      else some { timer with
        timerVector := (timer.timerVector.filter fun entry => !entry.equals ⟨timeout, timerid, 0, callback⟩) ++
          ((List.range (matching timer timeout timerid callback)).map leftover).tail } := by
  have sizes := length_filter_not timer.timerVector ⟨timeout, timerid, 0, callback⟩
  unfold deleteTimer erase remove
  dsimp only
  unfold matching
  rw [List.length_append, List.length_map, List.length_range,
    show timer.timerVector.length - _ = timer.timerVector.countP _ by rw [← sizes, Nat.add_sub_cancel_left]]
  split_ifs with inside untouched untouched
  · omega
  · rw [List.eraseIdx_append_of_length_le (Nat.le_refl _), Nat.sub_self, List.eraseIdx_zero]
    rfl
  · rfl
  · omega

/-- A deletion takes away what it is asked to just where that is one entry. -/
theorem deleteTimer_deleted_iff (timer : RsTimer H) (timeout timerid : Int) (callback : H) (leftover : Leftover H) :
    Deleted timer timeout timerid callback (timer.deleteTimer timeout timerid callback leftover) ↔
      matching timer timeout timerid callback = 1 := by
  rw [Deleted, deleteTimer_eq]
  split_ifs with untouched
  · simp [untouched]
  · rw [Option.some.injEq, RsTimer.mk.injEq, List.append_right_eq_self, ← List.length_eq_zero_iff, List.length_tail,
      List.length_map, List.length_range]
    constructor
    · rintro ⟨_, _, single⟩
      omega
    · intro single
      exact ⟨rfl, rfl, by omega⟩

/-- Nothing is deleted in an empty vector, and nothing is left as it was. -/
theorem deleteTimer_none_matching : ¬ ∀ (timer : RsTimer Nat) (timeout timerid : Int) (callback : Nat)
    (leftover : Leftover Nat),
    Deleted timer timeout timerid callback (timer.deleteTimer timeout timerid callback leftover) := by
  intro always
  have deleted := always init 5000 0 7 fun _ => ⟨0, 0, 0, 0⟩
  exact absurd deleted (by simp [Deleted, deleteTimer_eq, matching, init])

end RabbitStreamer.Core.Timer
