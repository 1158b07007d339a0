import Mathlib.Data.List.Basic
import RabbitStreamer.Lib.Transition

/-! Forward simulation: what the runs of a state machine amount to on an abstract state. -/

namespace RabbitStreamer.Lib.Simulation
open RabbitStreamer.Lib.Transition

variable {S E A D : Type}

def deeds (step : S → E → Option S) (deed : S → E → D) : S → List E → List D
  | _, [] => []
  | state, event :: rest => deed state event :: (step state event).elim [] fun next => deeds step deed next rest

theorem deeds_cons {step : S → E → Option S} {state next : S} {event : E} (deed : S → E → D)
    (taken : step state event = some next) (rest : List E) :
    deeds step deed state (event :: rest) = deed state event :: deeds step deed next rest := by
  rw [deeds, taken]
  rfl

theorem deeds_append {step : S → E → Option S} {state middle : S} {first : List E} (deed : S → E → D)
    (reached : run step state first = some middle) (second : List E) :
    deeds step deed state (first ++ second) = deeds step deed state first ++ deeds step deed middle second := by
  induction first generalizing state with
  | nil =>
    cases reached
    rfl
  | cons event rest ih =>
    obtain ⟨next, taken, remaining⟩ := run_cons_eq_some.mp reached
    rw [List.cons_append, deeds_cons deed taken, deeds_cons deed taken, ih remaining, List.cons_append]

theorem deeds_split {step : S → E → Option S} {deed : S → E → D} {initial final : S} {events : List E}
    (reached : run step initial events = some final) {past later : List D} {current : D}
    (split : deeds step deed initial events = past ++ current :: later) :
    ∃ before event behind state next, events = before ++ event :: behind ∧
      run step initial before = some state ∧ step state event = some next ∧ current = deed state event ∧
      run step next behind = some final ∧ later = deeds step deed next behind := by
  induction events generalizing initial past with
  | nil => simp [deeds] at split
  | cons event rest ih =>
    obtain ⟨next, taken, remaining⟩ := run_cons_eq_some.mp reached
    rw [deeds_cons deed taken] at split
    cases past with
    | nil =>
      obtain ⟨rfl, rfl⟩ := List.cons.inj split
      exact ⟨[], event, rest, initial, next, rfl, rfl, taken, rfl, remaining, rfl⟩
    | cons first more =>
      obtain ⟨before, other, behind, state, after, rfl, early, facts⟩ := ih remaining (List.cons.inj split).2
      exact ⟨event :: before, other, behind, state, after, rfl, run_cons_eq_some.mpr ⟨next, taken, early⟩, facts⟩

theorem exists_mem_deeds {step : S → E → Option S} {deed : S → E → D} {initial final : S} {events : List E}
    (reached : run step initial events = some final) {wanted : D → Prop} {sought : E → Prop}
    (same : ∀ state event, wanted (deed state event) ↔ sought event) :
    (∃ done ∈ deeds step deed initial events, wanted done) ↔ ∃ event ∈ events, sought event := by
  induction events generalizing initial with
  | nil => simp [deeds]
  | cons event rest ih =>
    obtain ⟨next, taken, remaining⟩ := run_cons_eq_some.mp reached
    rw [deeds_cons deed taken, List.exists_mem_cons_iff, List.exists_mem_cons_iff, same, ih remaining]

theorem along_deeds {step : S → E → Option S} {deed : S → E → D} {initial : S} {events : List E} (holds : D → Prop)
    (all : ∀ done ∈ deeds step deed initial events, holds done) :
    Along step initial events fun state event => holds (deed state event) := by
  intro past event rest state split reached
  apply all
  rw [split, deeds_append deed reached]
  exact List.mem_append_right _ (List.mem_cons_self ..)

/-- Where each step that is taken changes the abstract state by its deed, a run changes it by its
deeds in order. -/
theorem run_simulates {step : S → E → Option S} {deed : S → E → D} (view : S → A) (perform : A → D → A)
    (holds : S → Prop) (condition : S → E → Prop)
    (keep : ∀ state event next, holds state → condition state event → step state event = some next → holds next)
    (simulates : ∀ state event next, holds state → condition state event → step state event = some next →
      view next = perform (view state) (deed state event))
    {initial final : S} {events : List E} (start : holds initial) (along : Along step initial events condition)
    (reached : run step initial events = some final) :
    view final = (deeds step deed initial events).foldl perform (view initial) := by
  induction events generalizing initial with
  | nil =>
    cases reached
    rfl
  | cons event rest ih =>
    obtain ⟨next, taken, remaining⟩ := run_cons_eq_some.mp reached
    obtain ⟨atHead, later⟩ := along_cons.mp along
    rw [deeds_cons deed taken, List.foldl_cons, ← simulates initial event next start atHead taken]
    exact ih (keep initial event next start atHead taken) (later next taken) remaining

structure Part {P Q : Type} (step : S → E → Option S) (partStep : P → Q → Option P) (view : S → P)
    (own : E → Option Q) : Prop where
  moved : ∀ {state event next deed}, step state event = some next → own event = some deed →
    partStep (view state) deed = some (view next)
  still : ∀ {state event next}, step state event = some next → own event = none → view next = view state

section Part

variable {P Q : Type} {step : S → E → Option S} {partStep : P → Q → Option P} {view : S → P} {own : E → Option Q}
  {initial final : S} {events : List E}

theorem Part.run (part : Part step partStep view own) (reached : Transition.run step initial events = some final) :
    Transition.run partStep (view initial) (events.filterMap own) = some (view final) := by
  induction events generalizing initial with
  | nil =>
    cases reached
    rfl
  | cons event rest ih =>
    obtain ⟨next, taken, remaining⟩ := run_cons_eq_some.mp reached
    cases current : own event with
    | none =>
      rw [List.filterMap_cons_none current, ← part.still taken current]
      exact ih remaining
    | some deed =>
      rw [List.filterMap_cons_some current]
      exact run_cons_eq_some.mpr ⟨_, part.moved taken current, ih remaining⟩

theorem Part.along (part : Part step partStep view own) {holds : P → Q → Prop}
    (reached : Transition.run step initial events = some final)
    (along : Along step initial events fun state event => ∀ deed, own event = some deed → holds (view state) deed) :
    Along partStep (view initial) (events.filterMap own) holds := by
  induction events generalizing initial with
  | nil => exact along_nil
  | cons event rest ih =>
    obtain ⟨next, taken, remaining⟩ := run_cons_eq_some.mp reached
    obtain ⟨first, later⟩ := along_cons.mp along
    cases current : own event with
    | none =>
      rw [List.filterMap_cons_none current, ← part.still taken current]
      exact ih remaining (later next taken)
    | some deed =>
      rw [List.filterMap_cons_some current]
      refine along_cons.mpr ⟨first deed current, fun after moved => ?_⟩
      cases moved.symm.trans (part.moved taken current)
      exact ih remaining (later next taken)

end Part

end RabbitStreamer.Lib.Simulation
