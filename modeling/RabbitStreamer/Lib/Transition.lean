import Mathlib.Data.List.Induction

/-! Runs of a state machine whose steps may be refused, and the induction that
carries a step invariant over every run. -/

namespace RabbitStreamer.Lib.Transition

variable {S E : Type}

def run (step : S → E → Option S) : S → List E → Option S
  | state, [] => some state
  | state, event :: rest => (step state event).bind fun next => run step next rest

theorem run_cons_eq_some {step : S → E → Option S} {state final : S} {event : E} {rest : List E} :
    run step state (event :: rest) = some final ↔
      ∃ next, step state event = some next ∧ run step next rest = some final := by
  simp [run, Option.bind_eq_some_iff]

theorem run_append_eq_some {step : S → E → Option S} {state final : S} {first second : List E} :
    run step state (first ++ second) = some final ↔
      ∃ middle, run step state first = some middle ∧ run step middle second = some final := by
  induction first generalizing state with
  | nil => simp [run]
  | cons event rest ih =>
    simp only [List.cons_append, run_cons_eq_some, ih]
    constructor
    · rintro ⟨next, taken, middle, before, after⟩
      exact ⟨middle, ⟨next, taken, before⟩, after⟩
    · rintro ⟨middle, ⟨next, taken, before⟩, after⟩
      exact ⟨next, taken, middle, before, after⟩

theorem run_snoc_eq_some {step : S → E → Option S} {state final : S} {events : List E} {last : E} :
    run step state (events ++ [last]) = some final ↔
      ∃ middle, run step state events = some middle ∧ step middle last = some final := by
  simp [run_append_eq_some, run]

theorem run_invariant {step : S → E → Option S} (holds : S → Prop)
    (keep : ∀ state event next, holds state → step state event = some next → holds next)
    {state final : S} {events : List E} (start : holds state)
    (whole : run step state events = some final) : holds final := by
  induction events generalizing state with
  | nil =>
    simp only [run, Option.some.injEq] at whole
    exact whole ▸ start
  | cons event rest ih =>
    obtain ⟨next, taken, remaining⟩ := run_cons_eq_some.mp whole
    exact ih (keep state event next start taken) remaining

theorem run_history {step : S → E → Option S} {initial : S} (holds : List E → S → Prop)
    (start : holds [] initial)
    (keep : ∀ past state event next, run step initial past = some state → holds past state →
      step state event = some next → holds (past ++ [event]) next)
    {events : List E} {final : S} (whole : run step initial events = some final) : holds events final := by
  induction events using List.reverseRecOn generalizing final with
  | nil =>
    simp only [run, Option.some.injEq] at whole
    exact whole ▸ start
  | append_singleton past event ih =>
    obtain ⟨middle, before, taken⟩ := run_snoc_eq_some.mp whole
    exact keep past middle event final before (ih before) taken

def Along (step : S → E → Option S) (initial : S) (events : List E) (holds : S → E → Prop) : Prop :=
  ∀ past event rest state, events = past ++ event :: rest → run step initial past = some state → holds state event

theorem along_nil {step : S → E → Option S} {initial : S} {holds : S → E → Prop} : Along step initial [] holds := by
  intro past event rest state split
  exact absurd split (by simp)

theorem along_congr {step : S → E → Option S} {initial : S} {events : List E} {first second : S → E → Prop}
    (same : ∀ past state event, run step initial past = some state → (first state event ↔ second state event)) :
    Along step initial events first ↔ Along step initial events second := by
  constructor
  · intro along past event rest state split reached
    exact (same past state event reached).mp (along past event rest state split reached)
  · intro along past event rest state split reached
    exact (same past state event reached).mpr (along past event rest state split reached)

theorem along_cons {step : S → E → Option S} {initial : S} {event : E} {rest : List E} {holds : S → E → Prop} :
    Along step initial (event :: rest) holds ↔
      holds initial event ∧ ∀ next, step initial event = some next → Along step next rest holds := by
  constructor
  · intro along
    refine ⟨along [] event rest initial rfl rfl, fun next taken past other more state split reached => ?_⟩
    exact along (event :: past) other more state (by rw [split]; rfl) (run_cons_eq_some.mpr ⟨next, taken, reached⟩)
  · rintro ⟨atHead, later⟩ past other more state split reached
    cases past with
    | nil =>
      simp only [List.nil_append, List.cons.injEq] at split
      simp only [run, Option.some.injEq] at reached
      rw [← split.1, ← reached]
      exact atHead
    | cons first past =>
      simp only [List.cons_append, List.cons.injEq] at split
      obtain ⟨next, taken, remaining⟩ := run_cons_eq_some.mp reached
      rw [← split.1] at taken
      exact later next taken past other more state split.2 remaining

theorem along_of_append {step : S → E → Option S} {initial : S} {past rest : List E} {holds : S → E → Prop}
    (along : Along step initial (past ++ rest) holds) : Along step initial past holds := by
  intro before event behind state split reached
  exact along before event (behind ++ rest) state (by rw [split, List.append_assoc, List.cons_append]) reached

theorem along_behind {step : S → E → Option S} {initial middle : S} {past rest : List E} {holds : S → E → Prop}
    (along : Along step initial (past ++ rest) holds) (reached : run step initial past = some middle) :
    Along step middle rest holds := by
  intro before event behind state split ran
  exact along (past ++ before) event behind state (by rw [split, List.append_assoc])
    (run_append_eq_some.mpr ⟨middle, reached, ran⟩)

theorem along_snoc {step : S → E → Option S} {initial : S} {past : List E} {last : E} {holds : S → E → Prop} :
    Along step initial (past ++ [last]) holds ↔
      Along step initial past holds ∧ ∀ state, run step initial past = some state → holds state last := by
  constructor
  · intro along
    exact ⟨along_of_append along, fun state reached => along past last [] state rfl reached⟩
  · rintro ⟨before, now⟩ earlier event rest state split reached
    rcases List.eq_nil_or_concat rest with rfl | ⟨more, other, rfl⟩
    · obtain ⟨rfl, same⟩ := List.append_inj' split rfl
      rw [← (List.cons.inj same).1]
      exact now state reached
    · rw [List.concat_eq_append, ← List.cons_append, ← List.append_assoc] at split
      obtain ⟨rfl, _⟩ := List.append_inj' split rfl
      exact before earlier event more state rfl reached

theorem run_along {step : S → E → Option S} (holds : S → Prop) (condition : S → E → Prop)
    (keep : ∀ state event next, holds state → condition state event → step state event = some next → holds next)
    {state final : S} {events : List E} (start : holds state) (along : Along step state events condition)
    (whole : run step state events = some final) : holds final := by
  induction events generalizing state with
  | nil =>
    simp only [run, Option.some.injEq] at whole
    exact whole ▸ start
  | cons event rest ih =>
    obtain ⟨next, taken, remaining⟩ := run_cons_eq_some.mp whole
    obtain ⟨atHead, later⟩ := along_cons.mp along
    exact ih (keep state event next start atHead taken) (later next taken) remaining

/-- Two conditions that agree wherever an invariant holds, one of which keeps the invariant, hold
along the same runs. -/
theorem along_iff_of_invariant {step : S → E → Option S} {initial : S} {events : List E} {first second : S → E → Prop}
    (holds : S → Prop) (start : holds initial)
    (same : ∀ state event, holds state → (first state event ↔ second state event))
    (keep : ∀ state event next, holds state → first state event → step state event = some next → holds next) :
    Along step initial events first ↔ Along step initial events second := by
  have keepSecond : ∀ state event next, holds state → second state event → step state event = some next →
      holds next := fun state event next held current taken =>
    keep state event next held ((same state event held).mpr current) taken
  constructor
  · intro along past event rest state split reached
    have held := run_along holds first keep start (along_of_append (split ▸ along)) reached
    exact (same state event held).mp (along past event rest state split reached)
  · intro along past event rest state split reached
    have held := run_along holds second keepSecond start (along_of_append (split ▸ along)) reached
    exact (same state event held).mpr (along past event rest state split reached)

theorem along_iff_under {step : S → E → Option S} {initial : S} {events : List E}
    {condition first second : S → E → Prop} (holds : S → Prop) (start : holds initial)
    (met : Along step initial events condition)
    (keep : ∀ state event next, holds state → condition state event → step state event = some next → holds next)
    (same : ∀ state event, holds state → condition state event → (first state event ↔ second state event)) :
    Along step initial events first ↔ Along step initial events second := by
  have agree : ∀ past event rest state, events = past ++ event :: rest → run step initial past = some state →
      (first state event ↔ second state event) := fun past event rest state split reached =>
    same state event (run_along holds condition keep start (along_of_append (split ▸ met)) reached)
      (met past event rest state split reached)
  constructor
  · intro along past event rest state split reached
    exact (agree past event rest state split reached).mp (along past event rest state split reached)
  · intro along past event rest state split reached
    exact (agree past event rest state split reached).mpr (along past event rest state split reached)

def check (step : S → E → Option S) (test : S → E → Bool) : S → List E → Bool
  | _, [] => true
  | state, event :: rest => test state event && (step state event).all fun next => check step test next rest

theorem along_of_check {step : S → E → Option S} {test : S → E → Bool} {holds : S → E → Prop}
    (sound : ∀ state event, test state event = true → holds state event) {initial : S} {events : List E}
    (passed : check step test initial events = true) : Along step initial events holds := by
  induction events generalizing initial with
  | nil => exact along_nil
  | cons event rest ih =>
    simp only [check, Bool.and_eq_true, Option.all_eq_true] at passed
    exact along_cons.mpr ⟨sound _ _ passed.1, fun next taken => ih (passed.2 next taken)⟩

theorem run_progress {step : S → E → Option S} {initial : S} (holds : List E → S → Prop) (events : List E)
    (start : holds [] initial)
    (advance : ∀ past event rest state, events = past ++ event :: rest → run step initial past = some state →
      holds past state → ∃ next, step state event = some next ∧ holds (past ++ [event]) next) :
    ∃ final, run step initial events = some final ∧ holds events final := by
  have upTo : ∀ past, past <+: events → ∃ state, run step initial past = some state ∧ holds past state := by
    intro past
    induction past using List.reverseRecOn with
    | nil => exact fun _ => ⟨initial, rfl, start⟩
    | append_singleton past event ih =>
      rintro ⟨rest, whole⟩
      obtain ⟨state, ran, held⟩ := ih ⟨event :: rest, by simpa using whole⟩
      obtain ⟨next, taken, after⟩ := advance past event rest state (by simpa using whole.symm) ran held
      exact ⟨next, run_snoc_eq_some.mpr ⟨state, ran, taken⟩, after⟩
  exact upTo events (List.prefix_refl events)

end RabbitStreamer.Lib.Transition
