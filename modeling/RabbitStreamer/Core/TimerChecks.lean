import RabbitStreamer.Core.Timer
import RabbitStreamer.Lib.Transition

/-! When the checks of a timer invoke the callbacks, against the times at which the timers were added. -/

namespace RabbitStreamer.Core.TimerChecks
open RabbitStreamer.Lib.Transition RabbitStreamer.Core.Timer RabbitStreamer.Core.Timer.RsTimer

variable {H : Type}

inductive Event (H : Type) where
  | addTimer (now timeout timerid : Int) (callback : H)
  | deleteTimer (timeout timerid : Int) (callback : H) (leftover : Leftover H)
  | checkTimeout (curr : Int)

/-- The timer, the time from which each of its entries counts (it was added then, or its callback
was last invoked), and the time of the last event. -/
structure Clocked (H : Type) where
  timer : RsTimer H
  since : List Int
  clock : Int

def Clocked.start : Clocked H := ⟨init, [], 0⟩

def Clocked.watched (clocked : Clocked H) : List (TimerItem H × Int) := clocked.timer.timerVector.zip clocked.since

/-- A check invokes no callback before its timeout has passed since the timer was added and since it
was last invoked. -/
def NeverEarly (clocked : Clocked H) : Event H → Prop
  | .checkTimeout curr => clocked.clock ≤ curr →
      ∀ entry ∈ clocked.watched.zip (clocked.timer.checkTimeout curr).2, entry.2 = true →
        entry.1.1.timeout ≤ curr - entry.1.2
  | _ => True

/-- A timer that was added after the first check, and has not been signalled since, is not checked
before its timeout has passed, unless the clock itself is still short of the timeout. -/
def Awaited (clocked : Clocked H) : Event H → Prop
  | .checkTimeout curr => clocked.clock ≤ curr → clocked.timer.lastThreadTime ≠ 0 →
      ∀ entry ∈ clocked.watched, entry.1.lastSignalTime = 0 → entry.1.timeout ≤ curr →
        entry.1.timeout ≤ curr - entry.2
  | _ => True

instance (clocked : Clocked H) : (event : Event H) → Decidable (Awaited clocked event)
  | .checkTimeout _ => inferInstanceAs (Decidable (_ → _))
  | .addTimer .. => isTrue trivial
  | .deleteTimer .. => isTrue trivial

def Timely (clock : Int) (entry : TimerItem H × Int) : Prop :=
  entry.2 ≤ clock ∧ (entry.1.lastSignalTime = 0 ∨ entry.2 ≤ entry.1.lastSignalTime)

structure Dated (clocked : Clocked H) : Prop where
  sized : clocked.timer.timerVector.length = clocked.since.length
  timely : ∀ entry ∈ clocked.watched, Timely clocked.clock entry

theorem dated_start : Dated (.start : Clocked H) where
  sized := rfl
  timely := fun _ member => absurd member List.not_mem_nil

theorem dated_of {timer : RsTimer H} {since : List Int} {clock : Int} {entries : List (TimerItem H × Int)}
    (sized : timer.timerVector.length = since.length) (whole : timer.timerVector.zip since = entries)
    (timely : ∀ entry ∈ entries, Timely clock entry) : Dated ⟨timer, since, clock⟩ := by
  subst whole
  exact ⟨sized, timely⟩

theorem Timely.later {clock now : Int} {entry : TimerItem H × Int} (timely : Timely clock entry)
    (later : clock ≤ now) : Timely now entry :=
  ⟨Int.le_trans timely.1 later, timely.2⟩

theorem mem_zip_map {A B C : Type} {first : List A} {second : List B} {value : A → C} {entry : (A × B) × C} :
    entry ∈ (first.zip second).zip (first.map value) ↔ entry.1 ∈ first.zip second ∧ entry.2 = value entry.1.1 := by
  induction first generalizing second with
  | nil => simp
  | cons head tail ih =>
    cases second with
    | nil => simp
    | cons time times =>
      simp only [List.zip_cons_cons, List.map_cons, List.mem_cons, ih, Prod.ext_iff]
      constructor
      · rintro (⟨same, called⟩ | ⟨member, called⟩)
        · exact ⟨Or.inl same, by rw [called, same.1]⟩
        · exact ⟨Or.inr member, called⟩
      · rintro ⟨same | member, called⟩
        · exact Or.inl ⟨same, by rw [called, same.1]⟩
        · exact Or.inr ⟨member, called⟩

theorem map_fst_filter {A B : Type} {first : List A} {second : List B} (keep : A → Bool)
    (sized : first.length = second.length) :
    ((first.zip second).filter fun entry => keep entry.1).map Prod.fst = first.filter keep := by
  have whole : (first.zip second).map Prod.fst = first := List.map_fst_zip (Nat.le_of_eq sized)
  conv_rhs => rw [← whole, List.filter_map]
  rfl

theorem signal_eq (curr : Int) (item : TimerItem H) :
    item.signal curr = if item.timeout ≤ curr - item.lastSignalTime then ({ item with lastSignalTime := curr }, true)
      else (item, false) := rfl

theorem zip_turns {A : Type} (turn : A → A × Bool) (curr : Int) (first : List A) (second : List Int) :
    (first.map fun item => (turn item).1).zip
        (List.zipWith (fun since now => if now then curr else since) second (first.map fun item => (turn item).2)) =
      (first.zip second).map fun entry =>
        ((turn entry.1).1, if (turn entry.1).2 then curr else entry.2) := by
  induction first generalizing second with
  | nil => rfl
  | cons head tail ih =>
    cases second with
    | nil => rfl
    | cons time times => simp [ih]

theorem neverEarly_iff {clocked : Clocked H} (dated : Dated clocked) (event : Event H) :
    NeverEarly clocked event ↔ Awaited clocked event := by
  cases event with
  | addTimer now timeout timerid callback => exact Iff.rfl
  | deleteTimer timeout timerid callback leftover => exact Iff.rfl
  | checkTimeout curr =>
    constructor
    · intro never later started entry member unsignalled due
      have fires : (entry.1.signal curr).2 = true := by
        rw [signal_eq, unsignalled, if_pos (by omega)]
      refine never later (entry, (entry.1.signal curr).2) ?_ fires
      unfold checkTimeout
      rw [if_neg started]
      exact mem_zip_map.mpr ⟨member, rfl⟩
    · intro awaited later entry member fires
      unfold checkTimeout at member
      split_ifs at member with started
      · have called := (mem_zip_map.mp member).2
        exact absurd (fires.symm.trans called) (by decide)
      · obtain ⟨watched, called⟩ := mem_zip_map.mp member
        rw [fires, signal_eq] at called
        split_ifs at called with due
        rcases (dated.timely entry.1 watched).2 with unsignalled | late
        · rw [unsignalled, Int.sub_zero] at due
          exact awaited later started entry.1 watched unsignalled due
        · omega

theorem Dated.addTimer {clocked : Clocked H} (dated : Dated clocked) {now : Int} (later : clocked.clock ≤ now)
    (timeout timerid : Int) (callback : H) :
    Dated ⟨clocked.timer.addTimer timeout timerid callback, clocked.since ++ [now], now⟩ := by
  refine dated_of ?_ (List.zip_append dated.sized) fun entry watched => ?_
  · simp [RsTimer.addTimer, dated.sized]
  · rcases List.mem_append.mp watched with old | new
    · exact (dated.timely entry old).later later
    · rw [List.mem_singleton.mp new]
      exact ⟨Int.le_refl _, Or.inl rfl⟩

theorem Dated.turns {clocked : Clocked H} (dated : Dated clocked) {curr : Int} (later : clocked.clock ≤ curr)
    (turn : TimerItem H → TimerItem H × Bool) (flag : Bool) (lastThreadTime : Int)
    (turned : ∀ item, turn item = (item, false) ∨ (turn item).1.lastSignalTime = curr) :
    Dated ⟨⟨flag, lastThreadTime, clocked.timer.timerVector.map fun item => (turn item).1⟩,
      List.zipWith (fun since now => if now then curr else since) clocked.since
        (clocked.timer.timerVector.map fun item => (turn item).2), curr⟩ := by
  refine dated_of ?_ (zip_turns turn curr clocked.timer.timerVector clocked.since) fun entry watched => ?_
  · simp [dated.sized]
  · obtain ⟨before, old, rfl⟩ := List.mem_map.mp watched
    rcases turned before.1 with same | moved
    · rw [same]
      exact (dated.timely before old).later later
    · have past : (if (turn before.1).2 then curr else before.2) ≤ curr := by
        split_ifs
        · exact Int.le_refl _
        · exact ((dated.timely before old).later later).1
      exact ⟨past, Or.inr (le_of_le_of_eq past moved.symm)⟩

theorem Dated.checkTimeout {clocked : Clocked H} (dated : Dated clocked) {curr : Int} (later : clocked.clock ≤ curr) :
    Dated ⟨(clocked.timer.checkTimeout curr).1,
      List.zipWith (fun since now => if now then curr else since) clocked.since (clocked.timer.checkTimeout curr).2,
      curr⟩ := by
  unfold RsTimer.checkTimeout
  split_ifs with started
  · exact dated.turns later (fun item => ({ item with lastSignalTime := curr }, false)) _ _ fun _ => Or.inr rfl
  · refine dated.turns later (fun item => item.signal curr) _ _ fun item => ?_
    rw [signal_eq]
    split_ifs
    · exact Or.inr rfl
    · exact Or.inl rfl

variable [DecidableEq H]

/-- The clock is positive and does not run backwards. An entry that a deletion leaves behind without
being one of those kept counts from then on. -/
def step (clocked : Clocked H) : Event H → Option (Clocked H)
  | .addTimer now timeout timerid callback =>
      if now ≤ 0 ∨ now < clocked.clock then none
      else some ⟨clocked.timer.addTimer timeout timerid callback, clocked.since ++ [now], now⟩
  | .deleteTimer timeout timerid callback leftover =>
      (clocked.timer.deleteTimer timeout timerid callback leftover).map fun timer =>
        let kept := clocked.watched.filter fun entry => !entry.1.equals ⟨timeout, timerid, 0, callback⟩
        ⟨timer, kept.map Prod.snd ++ List.replicate (timer.timerVector.length - kept.length) clocked.clock,
          clocked.clock⟩
  | .checkTimeout curr =>
      if curr ≤ 0 ∨ curr < clocked.clock then none
      else
        let (timer, invoked) := clocked.timer.checkTimeout curr
        some ⟨timer, List.zipWith (fun since now => if now then curr else since) clocked.since invoked, curr⟩

def Unique (clocked : Clocked H) : Event H → Prop
  | .deleteTimer timeout timerid callback _ => matching clocked.timer timeout timerid callback = 1
  | _ => True

instance (clocked : Clocked H) : (event : Event H) → Decidable (Unique clocked event)
  | .deleteTimer .. => inferInstanceAs (Decidable (_ = _))
  | .addTimer .. => isTrue trivial
  | .checkTimeout _ => isTrue trivial

theorem Dated.deleteTimer {clocked after : Clocked H} (dated : Dated clocked) {timeout timerid : Int} {callback : H}
    {leftover : Leftover H} (unique : matching clocked.timer timeout timerid callback = 1)
    (taken : step clocked (.deleteTimer timeout timerid callback leftover) = some after) : Dated after := by
  have deleted := (deleteTimer_deleted_iff clocked.timer timeout timerid callback leftover).mpr unique
  have kept := map_fst_filter (fun entry => !entry.equals ⟨timeout, timerid, 0, callback⟩) dated.sized
  have sizes := congrArg List.length kept
  rw [List.length_map] at sizes
  rw [step, deleted, Option.map_some, Option.some.injEq] at taken
  subst taken
  dsimp only [Clocked.watched]
  rw [sizes, Nat.sub_self, List.replicate_zero, List.append_nil]
  refine dated_of ?_ (List.zip_of_prod kept rfl).symm fun entry watched => ?_
  · rw [List.length_map, sizes]
  · exact dated.timely entry (List.mem_of_mem_filter watched)

theorem Dated.step {clocked after : Clocked H} {event : Event H} (dated : Dated clocked)
    (unique : Unique clocked event) (taken : step clocked event = some after) : Dated after := by
  cases event with
  | addTimer now timeout timerid callback =>
    simp only [TimerChecks.step] at taken
    split_ifs at taken with refused
    cases taken
    exact dated.addTimer (by omega) timeout timerid callback
  | deleteTimer timeout timerid callback leftover =>
    exact dated.deleteTimer unique taken
  | checkTimeout curr =>
    simp only [TimerChecks.step] at taken
    split_ifs at taken with refused
    cases taken
    exact dated.checkTimeout (by omega)

/-- Where each deletion takes away one timer, no callback is invoked too early just where no timer
that was added after the first check is checked too early. -/
theorem callbacks_never_early_iff (events : List (Event H)) (unique : Along step .start events Unique) :
    Along step .start events NeverEarly ↔ Along step .start events Awaited :=
  along_iff_under Dated dated_start unique (fun _ _ _ dated unique taken => dated.step unique taken)
    fun _ event dated _ => neverEarly_iff dated event

def exchanged : List (Event Nat) :=
  [.addTimer 5000 1000 0 7, .checkTimeout 5000, .deleteTimer 1000 0 7 fun _ => ⟨0, 0, 0, 0⟩,
    .addTimer 6000 500 1 7, .checkTimeout 6500]

theorem exchanged_never_early : Along step .start exchanged NeverEarly :=
  (callbacks_never_early_iff exchanged (along_of_check (fun _ _ => of_decide_eq_true) (by decide))).mpr
    (along_of_check (fun _ _ => of_decide_eq_true) (by decide))

/-- A timer of one second that is added after the first check is signalled a millisecond later. -/
theorem added_timer_early : ¬ ∀ events : List (Event Nat), Along step .start events NeverEarly := by
  intro never
  have early := never [.checkTimeout 5000, .addTimer 6000 1000 0 7, .checkTimeout 6001]
    [.checkTimeout 5000, .addTimer 6000 1000 0 7] (.checkTimeout 6001) []
    ⟨⟨true, 5000, [⟨1000, 0, 0, 7⟩]⟩, [6000], 6000⟩ rfl rfl
  exact absurd (early (by decide) ((⟨1000, 0, 0, 7⟩, 6000), true) (by decide) rfl) (by decide)

end RabbitStreamer.Core.TimerChecks
