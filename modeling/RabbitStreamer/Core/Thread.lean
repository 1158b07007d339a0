import RabbitStreamer.Core.Buffer
import RabbitStreamer.Lib.Transition

/-! `RsThread`: a thread of the cooperative scheduler, the call of `start_thread` that waits for its
id, and the functions of the derived class that `thread_loop` calls. -/

namespace RabbitStreamer.Core.Thread
open RabbitStreamer.Lib.Transition RabbitStreamer.Core.Buffer

abbrev ERROR_ST_CREATE_CYCLE_THREAD : Nat := 1017

inductive Hook where
  | onThreadStart
  | onBeforeLoop
  | loop
  | onEndLoop
  | onThreadStop
  deriving DecidableEq

/-- Where `thread_loop` is while others run: inside a function of the class, or asleep. -/
inductive Place where
  | created
  | inHook (hook : Hook)
  | waiting
  | sleeping
  | returned
  deriving DecidableEq

/-- The object; `tid` is whether there is one. -/
structure RsThread where
  tid : Bool
  cid : Int
  loopFlag : Bool
  canRun : Bool
  reallyTerminated : Bool
  disposed : Bool
  cycleIntervalUs : Int
  deriving DecidableEq

/-- The constructor leaves three fields as they are in memory; derived classes set the interval. -/
def RsThread.init (canRun reallyTerminated disposed : Bool) (cycleIntervalUs : Int) : RsThread where
  tid := false
  cid := -1
  loopFlag := false
  canRun := canRun
  reallyTerminated := reallyTerminated
  disposed := disposed
  cycleIntervalUs := cycleIntervalUs

/-- The object, the created thread's place, whether a call of `start_thread` is waiting, and the
functions called so far. -/
structure Lifecycle where
  thread : RsThread
  place : Option Place
  parent : Bool
  calls : List Hook
  deriving DecidableEq

namespace Lifecycle

def init (thread : RsThread) : Lifecycle := ⟨thread, none, false, []⟩

/-- The loop at the end of `start_thread`, and what the call answers where it is over. -/
def awaitCid (state : Lifecycle) : Lifecycle × Option Nat :=
  if state.thread.cid < 0 then ({ state with parent := true }, none)
  else ({ state with thread := { state.thread with canRun := true }, parent := false }, some ERROR_SUCCESS)

def startThread (state : Lifecycle) (created : Bool) : Lifecycle × Option Nat :=
  if state.thread.tid then (state, some ERROR_SUCCESS)
  else if created then
    awaitCid { state with
      thread := { state.thread with tid := true, disposed := false, loopFlag := true }, place := some .created }
  else (state, some ERROR_ST_CREATE_CYCLE_THREAD)

def call (state : Lifecycle) (hook : Hook) : Lifecycle :=
  { state with place := some (.inHook hook), calls := state.calls ++ [hook] }

def finish (state : Lifecycle) : Lifecycle :=
  call { state with thread := { state.thread with reallyTerminated := true } } .onThreadStop

def head (state : Lifecycle) : Lifecycle := if state.thread.loopFlag then state.call .onBeforeLoop else state.finish

/-- The loop that waits for `can_run`. -/
def awaitRun (state : Lifecycle) : Lifecycle :=
  if !state.thread.canRun && state.thread.loopFlag then { state with place := some .waiting } else state.head

def failed (state : Lifecycle) : Lifecycle :=
  if !state.thread.loopFlag then state.finish
  else if state.thread.cycleIntervalUs ≠ 0 then { state with place := some .sleeping }
  else state.head

/-- `thread_loop` from one place to the next, with what the function that it is in returns. -/
def turn (state : Lifecycle) (ret : Nat) : Option Lifecycle :=
  match state.place with
  | none => none
  | some .created => some (call { state with thread := { state.thread with cid := 0 } } .onThreadStart)
  | some (.inHook .onThreadStart) =>
      some (awaitRun { state with thread := { state.thread with reallyTerminated := false } })
  | some .waiting => some state.awaitRun
  | some (.inHook .onBeforeLoop) => some (if ret ≠ ERROR_SUCCESS then state.failed else state.call .loop)
  | some (.inHook .loop) => some (if ret ≠ ERROR_SUCCESS then state.failed else state.call .onEndLoop)
  | some (.inHook .onEndLoop) => some state.failed
  | some .sleeping => some state.head
  | some (.inHook .onThreadStop) => some { state with place := some .returned }
  | some .returned => none

end Lifecycle

/-- What the scheduler lets happen: a call of `start_thread`, a look of the waiting call, a turn of
the thread, and the flag set to false by whoever has the object. -/
inductive Event where
  | startThread (created : Bool)
  | look
  | turn (ret : Nat)
  | clear
  deriving DecidableEq

def step (state : Lifecycle) : Event → Option Lifecycle
  | .startThread created => some (state.startThread created).1
  | .look => if state.parent then some state.awaitCid.1 else none
  | .turn ret => state.turn ret
  | .clear => some { state with thread := { state.thread with loopFlag := false } }

/-- The functions called in the round that a place is in; none where no function has been called. -/
def Place.current : Place → Option (List Hook)
  | .created => none
  | .inHook .onThreadStart | .waiting | .sleeping => some []
  | .inHook .onBeforeLoop => some [.onBeforeLoop]
  | .inHook .loop => some [.onBeforeLoop, .loop]
  | .inHook .onEndLoop => some [.onBeforeLoop, .loop, .onEndLoop]
  | .inHook .onThreadStop | .returned => some [.onThreadStop]

/-- A round calls its functions in order and stops at one that fails. -/
def IsRound (round : List Hook) : Prop := round ≠ [] ∧ round <+: [.onBeforeLoop, .loop, .onEndLoop]

instance (round : List Hook) : Decidable (IsRound round) := inferInstanceAs (Decidable (_ ∧ _))

def Calls (calls current : List Hook) : Prop :=
  ∃ rounds : List (List Hook), (∀ round ∈ rounds, IsRound round) ∧
    calls = .onThreadStart :: (rounds.flatten ++ current)

/-- `on_thread_stop` has been called. -/
def Place.stopped : Place → Bool
  | .inHook .onThreadStop | .returned => true
  | _ => false

structure Sound (state : Lifecycle) : Prop where
  created : state.place.isSome = state.thread.tid
  uncalled : state.place = none ∨ state.place = some .created → state.calls = [] ∧ state.thread.cid = -1
  called : ∀ {place current}, state.place = some place → place.current = some current →
    Calls state.calls current ∧ state.thread.cid = 0
  stopped : ∀ {place}, state.place = some place → place.stopped = true → state.thread.loopFlag = false

structure Between (state : Lifecycle) : Prop where
  created : state.thread.tid = true
  cid : state.thread.cid = 0
  calls : Calls state.calls []

theorem calls_snoc {calls current : List Hook} (made : Calls calls current) (hook : Hook) :
    Calls (calls ++ [hook]) (current ++ [hook]) := by
  obtain ⟨rounds, each, rfl⟩ := made
  exact ⟨rounds, each, by rw [List.cons_append, List.append_assoc]⟩

theorem calls_close {calls current : List Hook} (made : Calls calls current) (round : IsRound current) :
    Calls calls [] := by
  obtain ⟨rounds, each, rfl⟩ := made
  refine ⟨rounds ++ [current], fun other member => ?_,
    by rw [List.flatten_append, List.flatten_singleton, List.append_nil]⟩
  rcases List.mem_append.mp member with old | new
  · exact each other old
  · rw [List.mem_singleton.mp new]
    exact round

theorem sound_call {state : Lifecycle} {hook : Hook} {current : List Hook} (created : state.thread.tid = true)
    (cid : state.thread.cid = 0) (calls : Calls (state.calls ++ [hook]) current)
    (place : (Place.inHook hook).current = some current)
    (stopped : (Place.inHook hook).stopped = true → state.thread.loopFlag = false) : Sound (state.call hook) where
  created := created.symm
  uncalled := by simp [Lifecycle.call]
  called := by
    rintro _ other ⟨⟩ same
    rw [place] at same
    exact ⟨Option.some.inj same ▸ calls, cid⟩
  stopped := by
    rintro _ ⟨⟩ ended
    exact stopped ended

section Between

variable {state : Lifecycle} (between : Between state)
include between

theorem sound_finish (down : state.thread.loopFlag = false) : Sound state.finish :=
  sound_call between.created between.cid (calls_snoc between.calls .onThreadStop) rfl fun _ => down

theorem sound_head : Sound state.head := by
  unfold Lifecycle.head
  split_ifs with up
  · exact sound_call between.created between.cid (calls_snoc between.calls .onBeforeLoop) rfl
      (by simp [Place.stopped])
  · exact sound_finish between (Bool.eq_false_of_not_eq_true up)

theorem sound_asleep {place : Place} (current : place.current = some []) (going : place.stopped = false) :
    Sound { state with place := some place } where
  created := between.created.symm
  uncalled := by
    rintro (absent | same)
    · cases absent
    · cases same
      cases current
  called := by
    rintro _ other ⟨⟩ same
    rw [current] at same
    exact ⟨Option.some.inj same ▸ between.calls, between.cid⟩
  stopped := by
    rintro _ ⟨⟩ ended
    rw [going] at ended
    cases ended

theorem sound_awaitRun : Sound state.awaitRun := by
  unfold Lifecycle.awaitRun
  split_ifs
  · exact sound_asleep between rfl rfl
  · exact sound_head between

theorem sound_failed : Sound state.failed := by
  unfold Lifecycle.failed
  split_ifs with down
  · exact sound_finish between (by simpa using down)
  · exact sound_asleep between rfl rfl
  · exact sound_head between

end Between

theorem between_of {state : Lifecycle} {place : Place} {current : List Hook} (sound : Sound state)
    (own : state.place = some place) (known : place.current = some current)
    (ended : current = [] ∨ IsRound current) :
    Between state := by
  obtain ⟨made, cid⟩ := sound.called own known
  refine ⟨by rw [← sound.created, own]; rfl, cid, ?_⟩
  rcases ended with rfl | round
  · exact made
  · exact calls_close made round

theorem sound_next {state : Lifecycle} {place : Place} {hook : Hook} {current : List Hook} (sound : Sound state)
    (own : state.place = some place) (known : place.current = some current)
    (next : (Place.inHook hook).current = some (current ++ [hook])) (going : (Place.inHook hook).stopped = false) :
    Sound (state.call hook) := by
  obtain ⟨made, cid⟩ := sound.called own known
  refine sound_call (by rw [← sound.created, own]; rfl) cid (calls_snoc made hook) next fun ended => ?_
  rw [going] at ended
  cases ended

theorem sound_turn {state next : Lifecycle} {ret : Nat} (sound : Sound state) (taken : state.turn ret = some next) :
    Sound next := by
  unfold Lifecycle.turn at taken
  split at taken <;> rename_i place <;> cases taken
  · have ⟨fresh, _⟩ := sound.uncalled (Or.inr place)
    have live : state.thread.tid = true := by rw [← sound.created, place]; rfl
    have made : Calls (state.calls ++ [.onThreadStart]) [] := ⟨[], by simp, by rw [fresh]; rfl⟩
    exact sound_call live rfl made rfl (by simp [Place.stopped])
  · obtain ⟨created, cid, calls⟩ := between_of sound place rfl (Or.inl rfl)
    exact sound_awaitRun ⟨created, cid, calls⟩
  · exact sound_awaitRun (between_of sound place rfl (Or.inl rfl))
  · split_ifs
    · exact sound_failed (between_of sound place rfl (Or.inr (by decide)))
    · exact sound_next sound place rfl rfl rfl
  · split_ifs
    · exact sound_failed (between_of sound place rfl (Or.inr (by decide)))
    · exact sound_next sound place rfl rfl rfl
  · exact sound_failed (between_of sound place rfl (Or.inr (by decide)))
  · exact sound_head (between_of sound place rfl (Or.inl rfl))
  · obtain ⟨made, cid⟩ := sound.called place rfl
    have down := sound.stopped place rfl
    exact {
      created := by rw [← sound.created, place]; rfl
      uncalled := by simp
      called := by
        rintro _ _ ⟨⟩ ⟨⟩
        exact ⟨made, cid⟩
      stopped := fun _ _ => down }

theorem sound_awaitCid {state : Lifecycle} (sound : Sound state) : Sound state.awaitCid.1 := by
  unfold Lifecycle.awaitCid
  split_ifs
  · exact ⟨sound.created, sound.uncalled, sound.called, sound.stopped⟩
  · exact ⟨sound.created, sound.uncalled, sound.called, sound.stopped⟩

theorem sound_step {state next : Lifecycle} {event : Event} (sound : Sound state)
    (taken : step state event = some next) :
    Sound next := by
  cases event with
  | startThread created =>
    cases taken
    simp only [Lifecycle.startThread]
    split_ifs with old new
    · exact sound
    · have absent : state.place = none := by
        rw [← Option.not_isSome_iff_eq_none, sound.created]
        exact old
      have fresh := sound.uncalled (Or.inl absent)
      exact sound_awaitCid {
        created := rfl
        uncalled := fun _ => fresh
        called := by rintro _ _ ⟨⟩ ⟨⟩
        stopped := by rintro _ ⟨⟩ ⟨⟩ }
    · exact sound
  | look =>
    simp only [step, Option.ite_none_right_eq_some] at taken
    rw [← Option.some.inj taken.2]
    exact sound_awaitCid sound
  | turn ret => exact sound_turn sound taken
  | clear =>
    cases taken
    exact ⟨sound.created, sound.uncalled, sound.called, fun _ _ => rfl⟩

theorem sound_init {thread : RsThread} (fresh : thread.tid = false) (unborn : thread.cid = -1) :
    Sound (.init thread) where
  created := fresh.symm
  uncalled := fun _ => ⟨rfl, unborn⟩
  called := by rintro _ _ ⟨⟩
  stopped := by rintro _ ⟨⟩

theorem sound_run {thread : RsThread} (fresh : thread.tid = false) (unborn : thread.cid = -1) {events : List Event}
    {state : Lifecycle} (ran : run step (.init thread) events = some state) : Sound state :=
  run_invariant Sound (fun _ _ _ sound taken => sound_step sound taken) (sound_init fresh unborn) ran

theorem place_cases (place : Place) : place = .created ∨
    place.current = some [.onThreadStop] ∧ place.stopped = true ∨
    ∃ current, place.current = some current ∧ (current = [] ∨ IsRound current) := by
  cases place with
  | created => exact Or.inl rfl
  | waiting => exact Or.inr (Or.inr ⟨[], rfl, Or.inl rfl⟩)
  | sleeping => exact Or.inr (Or.inr ⟨[], rfl, Or.inl rfl⟩)
  | returned => exact Or.inr (Or.inl ⟨rfl, rfl⟩)
  | inHook hook =>
    cases hook with
    | onThreadStart => exact Or.inr (Or.inr ⟨[], rfl, Or.inl rfl⟩)
    | onThreadStop => exact Or.inr (Or.inl ⟨rfl, rfl⟩)
    | onBeforeLoop => exact Or.inr (Or.inr ⟨_, rfl, Or.inr (by decide)⟩)
    | loop => exact Or.inr (Or.inr ⟨_, rfl, Or.inr (by decide)⟩)
    | onEndLoop => exact Or.inr (Or.inr ⟨_, rfl, Or.inr (by decide)⟩)

theorem stop_not_mem {rounds : List (List Hook)} (each : ∀ round ∈ rounds, IsRound round) :
    .onThreadStop ∉ Hook.onThreadStart :: rounds.flatten := by
  intro member
  have inside := (List.mem_cons.mp member).resolve_left (by decide)
  obtain ⟨round, listed, called⟩ := List.mem_flatten.mp inside
  have known := (each round listed).2.subset called
  simp at known

theorem calls_of_sound {state : Lifecycle} (sound : Sound state) :
    state.calls = [] ∨ ∃ rounds : List (List Hook), (∀ round ∈ rounds, IsRound round) ∧
      (state.calls = .onThreadStart :: rounds.flatten ∨
        state.calls = .onThreadStart :: (rounds.flatten ++ [.onThreadStop]) ∧
          ∃ place, state.place = some place ∧ place.stopped = true) := by
  cases own : state.place with
  | none => exact Or.inl (sound.uncalled (Or.inl own)).1
  | some place =>
    rcases place_cases place with rfl | ⟨known, stopped⟩ | ⟨current, known, ended⟩
    · exact Or.inl (sound.uncalled (Or.inr own)).1
    · obtain ⟨⟨rounds, each, same⟩, _⟩ := sound.called own known
      exact Or.inr ⟨rounds, each, Or.inr ⟨same, place, rfl, stopped⟩⟩
    · obtain ⟨rounds, each, same⟩ := (between_of sound own known ended).calls
      exact Or.inr ⟨rounds, each, Or.inl (by rw [same, List.append_nil])⟩

theorem stopped_step {state next : Lifecycle} {event : Event} (sound : Sound state)
    (stopped : ∃ place, state.place = some place ∧ place.stopped = true) (taken : step state event = some next) :
    (∃ place, next.place = some place ∧ place.stopped = true) ∧ next.calls = state.calls := by
  obtain ⟨place, current, ended⟩ := stopped
  have live : state.thread.tid = true := by rw [← sound.created, current]; rfl
  have kept : ∃ place, state.place = some place ∧ place.stopped = true := ⟨place, current, ended⟩
  cases event with
  | startThread created =>
    rw [step, Lifecycle.startThread, if_pos live] at taken
    cases taken
    exact ⟨kept, rfl⟩
  | look =>
    simp only [step, Option.ite_none_right_eq_some] at taken
    rw [← Option.some.inj taken.2, Lifecycle.awaitCid]
    split_ifs
    · exact ⟨kept, rfl⟩
    · exact ⟨kept, rfl⟩
  | turn ret =>
    rw [step, Lifecycle.turn, current] at taken
    cases place with
    | returned => cases taken
    | inHook hook =>
      cases hook with
      | onThreadStop =>
        cases taken
        exact ⟨⟨.returned, rfl, rfl⟩, rfl⟩
      | _ => cases ended
    | _ => cases ended
  | clear =>
    cases taken
    exact ⟨kept, rfl⟩

theorem stopped_run {state after : Lifecycle} {later : List Event} (sound : Sound state)
    (stopped : ∃ place, state.place = some place ∧ place.stopped = true) (ran : run step state later = some after) :
    after.calls = state.calls :=
  (run_invariant (fun other => Sound other ∧ (∃ place, other.place = some place ∧ place.stopped = true) ∧
      other.calls = state.calls)
    (fun _ _ _ before taken =>
      have ⟨kept, same⟩ := stopped_step before.1 before.2.1 taken
      ⟨sound_step before.1 taken, kept, same.trans before.2.2⟩)
    ⟨sound, stopped, rfl⟩ ran).2.2

def Place.inRound : Place → Bool
  | .inHook .onBeforeLoop | .inHook .loop | .inHook .onEndLoop | .sleeping => true
  | _ => false

/-- Where `can_run` was false at first, it says that `start_thread` has seen the id, and a round
begins after that. -/
structure Released (state : Lifecycle) : Prop where
  seen : state.thread.canRun = true → state.parent = false ∧ state.thread.cid = 0
  began : .onBeforeLoop ∈ state.calls → state.thread.canRun = true
  inside : ∀ {place}, state.place = some place → place.inRound = true → state.thread.canRun = true

section Released

variable {state : Lifecycle} (released : Released state)
include released

theorem released_call {hook : Hook} (may : hook = .onBeforeLoop ∨ (Place.inHook hook).inRound = true →
    state.thread.canRun = true) : Released (state.call hook) where
  seen := released.seen
  began := by
    intro called
    rcases List.mem_append.mp called with old | new
    · exact released.began old
    · exact may (Or.inl (List.mem_singleton.mp new).symm)
  inside := by
    rintro _ ⟨⟩ round
    exact may (Or.inr round)

theorem released_finish : Released state.finish :=
  have same : Released { state with thread := { state.thread with reallyTerminated := true } } :=
    ⟨released.seen, released.began, released.inside⟩
  released_call same (by simp [Place.inRound])

theorem released_head (may : state.thread.loopFlag = true → state.thread.canRun = true) : Released state.head := by
  unfold Lifecycle.head
  split_ifs with up
  · exact released_call released fun _ => may up
  · exact released_finish released

theorem released_awaitRun : Released state.awaitRun := by
  unfold Lifecycle.awaitRun
  split_ifs with wait
  · exact ⟨released.seen, released.began, by rintro _ ⟨⟩ ⟨⟩⟩
  · refine released_head released fun up => ?_
    rw [up, Bool.and_true, Bool.not_eq_true'] at wait
    simpa using wait

theorem released_failed (may : state.thread.canRun = true) : Released state.failed := by
  unfold Lifecycle.failed
  split_ifs
  · exact released_finish released
  · exact ⟨released.seen, released.began, fun _ _ => may⟩
  · exact released_head released fun _ => may

theorem released_turn {next : Lifecycle} {ret : Nat} (taken : state.turn ret = some next) : Released next := by
  unfold Lifecycle.turn at taken
  split at taken <;> rename_i place <;> cases taken
  · have same : Released { state with thread := { state.thread with cid := 0 } } :=
      ⟨fun can => ⟨(released.seen can).1, rfl⟩, released.began, released.inside⟩
    exact released_call same (by simp [Place.inRound])
  · exact released_awaitRun ⟨released.seen, released.began, released.inside⟩
  · exact released_awaitRun released
  · have may := released.inside place rfl
    split_ifs
    · exact released_failed released may
    · exact released_call released fun _ => may
  · have may := released.inside place rfl
    split_ifs
    · exact released_failed released may
    · exact released_call released fun _ => may
  · exact released_failed released (released.inside place rfl)
  · exact released_head released fun _ => released.inside place rfl
  · exact ⟨released.seen, released.began, by rintro _ ⟨⟩ ⟨⟩⟩

end Released

theorem cid_cases {state : Lifecycle} (sound : Sound state) : state.thread.cid < 0 ∨ state.thread.cid = 0 := by
  cases own : state.place with
  | none => exact Or.inl (by rw [(sound.uncalled (Or.inl own)).2]; decide)
  | some place =>
    rcases place_cases place with rfl | ⟨known, _⟩ | ⟨current, known, _⟩
    · exact Or.inl (by rw [(sound.uncalled (Or.inr own)).2]; decide)
    · exact Or.inr (sound.called own known).2
    · exact Or.inr (sound.called own known).2

theorem released_awaitCid {state : Lifecycle} (sound : Sound state) (released : Released state)
    (waits : state.thread.cid < 0 → state.thread.canRun = false) : Released state.awaitCid.1 := by
  unfold Lifecycle.awaitCid
  split_ifs with unseen
  · refine ⟨fun can => ?_, released.began, released.inside⟩
    rw [waits unseen] at can
    cases can
  · exact ⟨fun _ => ⟨rfl, (cid_cases sound).resolve_left unseen⟩, fun _ => rfl, fun _ _ => rfl⟩

theorem released_step {state next : Lifecycle} {event : Event} (sound : Sound state) (released : Released state)
    (taken : step state event = some next) : Released next := by
  have waits : state.thread.cid < 0 → state.thread.canRun = false := by
    intro unseen
    refine Bool.eq_false_of_not_eq_true fun can => ?_
    rw [(released.seen can).2] at unseen
    exact absurd unseen (by decide)
  cases event with
  | startThread created =>
    cases taken
    simp only [Lifecycle.startThread]
    split_ifs with old new
    · exact released
    · have absent : state.place = none := by
        rw [← Option.not_isSome_iff_eq_none, sound.created]
        exact old
      have fresh := sound.uncalled (Or.inl absent)
      refine released_awaitCid ?_ ⟨released.seen, released.began, by rintro _ ⟨⟩ ⟨⟩⟩ waits
      exact ⟨rfl, fun _ => fresh, by rintro _ _ ⟨⟩ ⟨⟩, by rintro _ ⟨⟩ ⟨⟩⟩
    · exact released
  | look =>
    simp only [step, Option.ite_none_right_eq_some] at taken
    rw [← Option.some.inj taken.2]
    exact released_awaitCid sound released waits
  | turn ret => exact released_turn released taken
  | clear =>
    cases taken
    exact ⟨released.seen, released.began, released.inside⟩

/-- The functions of the class are called in order, whatever they return and whoever calls
`start_thread` or stops the thread when: none of a round before `start_thread` has let the thread
run, and none at all after `on_thread_stop`. -/
theorem hooks_in_order (canRun reallyTerminated disposed : Bool) (cycleIntervalUs : Int) (events : List Event)
    (state : Lifecycle)
    (ran : run step (.init (.init canRun reallyTerminated disposed cycleIntervalUs)) events = some state) :
    (state.calls = [] ∨ ∃ rounds : List (List Hook), (∀ round ∈ rounds, IsRound round) ∧
      (state.calls = .onThreadStart :: rounds.flatten ∨
        state.calls = .onThreadStart :: (rounds.flatten ++ [.onThreadStop]))) ∧
    (canRun = false → .onBeforeLoop ∈ state.calls → state.thread.canRun = true ∧ state.parent = false) ∧
    (.onThreadStop ∈ state.calls → state.thread.loopFlag = false ∧
      ∀ later after, run step state later = some after → after.calls = state.calls) := by
  have sound := sound_run rfl rfl ran
  refine ⟨?_, fun unset begun => ?_, fun stop => ?_⟩
  · rcases calls_of_sound sound with silent | ⟨rounds, each, going | ⟨ended, _⟩⟩
    · exact Or.inl silent
    · exact Or.inr ⟨rounds, each, Or.inl going⟩
    · exact Or.inr ⟨rounds, each, Or.inr ended⟩
  · have first : Released (.init (.init canRun reallyTerminated disposed cycleIntervalUs)) := by
      refine ⟨fun can => ?_, fun called => absurd called List.not_mem_nil, by rintro _ ⟨⟩⟩
      exact absurd (unset.symm.trans can) (by decide)
    have released := (run_invariant (fun other => Sound other ∧ Released other)
      (fun _ _ _ before taken => ⟨sound_step before.1 taken, released_step before.1 before.2 taken⟩)
      ⟨sound_init rfl rfl, first⟩ ran).2
    have can := released.began begun
    exact ⟨can, (released.seen can).1⟩
  · rcases calls_of_sound sound with silent | ⟨rounds, each, going | ⟨_, place, current, stopped⟩⟩
    · rw [silent] at stop
      cases stop
    · rw [going] at stop
      exact absurd stop (stop_not_mem each)
    · exact ⟨sound.stopped current stopped, fun later after rest => stopped_run sound ⟨place, current, stopped⟩ rest⟩

theorem one_round_in_order : ∃ state,
    run step (.init (.init false true true 1000))
      [.startThread true, .turn 0, .turn 0, .look, .turn 0, .turn 7, .clear,
      .turn 0, .turn 0] = some state ∧
    state.calls = [.onThreadStart, .onBeforeLoop, .onThreadStop] ∧
    ∀ later after, run step state later = some after → after.calls = state.calls := by
  refine ⟨_, rfl, rfl, ?_⟩
  exact ((hooks_in_order false true true 1000 [.startThread true, .turn 0, .turn 0, .look, .turn 0, .turn 7, .clear,
    .turn 0, .turn 0] _ rfl).2.2 (by decide)).2

def Place.due : Place → List Hook
  | .created => [.onThreadStart, .onThreadStop]
  | .inHook .onThreadStart | .waiting | .sleeping | .inHook .onEndLoop => [.onThreadStop]
  | .inHook .onBeforeLoop => [.loop, .onEndLoop, .onThreadStop]
  | .inHook .loop => [.onEndLoop, .onThreadStop]
  | .inHook .onThreadStop | .returned => []

def Place.left : Place → Nat
  | .returned => 0
  | .inHook .onThreadStop => 1
  | .inHook .onThreadStart | .waiting | .sleeping | .inHook .onEndLoop => 2
  | .created | .inHook .loop => 3
  | .inHook .onBeforeLoop => 4

structure Winds (place : Place) (calls : List Hook) (next : Lifecycle) : Prop where
  down : next.thread.loopFlag = false
  moved : ∃ after called, next.place = some after ∧ next.calls = calls ++ called ∧
    (called ++ after.due).Sublist place.due

def Nearer (place : Place) (next : Lifecycle) : Prop := ∀ after, next.place = some after → after.left < place.left

section Winds

variable {state : Lifecycle} (down : state.thread.loopFlag = false)
include down

theorem head_down : state.head = state.finish := if_neg (by rw [down]; decide)

theorem awaitRun_down : state.awaitRun = state.finish := by
  rw [Lifecycle.awaitRun, if_neg (by rw [down, Bool.and_false]; decide), head_down down]

theorem failed_down : state.failed = state.finish := if_pos (by rw [down]; rfl)

theorem winds_call {place : Place} (hook : Hook) (due : (hook :: (Place.inHook hook).due).Sublist place.due)
    (fewer : (Place.inHook hook).left < place.left) :
    Winds place state.calls (state.call hook) ∧ Nearer place (state.call hook) := by
  refine ⟨⟨down, .inHook hook, [hook], rfl, rfl, due⟩, ?_⟩
  rintro _ ⟨⟩
  exact fewer

theorem winds_finish {place : Place} (due : [.onThreadStop].Sublist place.due) (fewer : 1 < place.left) :
    Winds place state.calls state.finish ∧ Nearer place state.finish := by
  have low : { state with thread := { state.thread with reallyTerminated := true } }.thread.loopFlag = false := down
  exact winds_call low .onThreadStop due fewer

theorem turn_winds {place : Place} (current : state.place = some place) (alive : place ≠ .returned) (ret : Nat) :
    ∃ next, state.turn ret = some next ∧ Winds place state.calls next ∧ Nearer place next := by
  obtain ⟨thread, _, parent, calls⟩ := state
  cases current
  have last : ∀ place : Place, place.due = [.onThreadStop] → [.onThreadStop].Sublist place.due := fun place same => by
    rw [same]
  cases place with
  | created =>
    have low : (⟨{ thread with cid := 0 }, some .created, parent, calls⟩ : Lifecycle).thread.loopFlag = false := down
    exact ⟨_, rfl, winds_call low .onThreadStart (List.Sublist.refl _) (by decide)⟩
  | returned => exact absurd rfl alive
  | waiting => exact ⟨_, rfl, awaitRun_down down ▸ winds_finish down (last _ rfl) (by decide)⟩
  | sleeping => exact ⟨_, rfl, head_down down ▸ winds_finish down (last _ rfl) (by decide)⟩
  | inHook hook =>
    cases hook with
    | onThreadStart =>
      have low : (⟨{ thread with reallyTerminated := false }, some (.inHook .onThreadStart), parent, calls⟩ :
        Lifecycle).thread.loopFlag = false := down
      exact ⟨_, rfl, awaitRun_down low ▸ winds_finish low (last _ rfl) (by decide)⟩
    | onBeforeLoop =>
      refine ⟨_, rfl, ?_⟩
      split_ifs
      · exact failed_down down ▸ winds_finish down (by decide) (by decide)
      · exact winds_call down .loop (List.Sublist.refl _) (by decide)
    | loop =>
      refine ⟨_, rfl, ?_⟩
      split_ifs
      · exact failed_down down ▸ winds_finish down (by decide) (by decide)
      · exact winds_call down .onEndLoop (List.Sublist.refl _) (by decide)
    | onEndLoop => exact ⟨_, rfl, failed_down down ▸ winds_finish down (last _ rfl) (by decide)⟩
    | onThreadStop =>
      refine ⟨_, rfl, ⟨down, .returned, [], rfl, (List.append_nil _).symm, List.Sublist.refl _⟩, ?_⟩
      rintro _ ⟨⟩
      decide

end Winds

theorem winds_still {state : Lifecycle} {place : Place} (down : state.thread.loopFlag = false)
    (current : state.place = some place) : Winds place state.calls state :=
  ⟨down, place, [], current, (List.append_nil _).symm, List.Sublist.refl _⟩

theorem Winds.trans {state next : Lifecycle} {place middle : Place} {calls : List Hook}
    (first : Winds place calls state)
    (current : state.place = some middle) (second : Winds middle state.calls next) : Winds place calls next := by
  obtain ⟨_, _, called, same, made, due⟩ := first
  obtain ⟨down, after, more, present, further, rest⟩ := second
  cases current.symm.trans same
  refine ⟨down, after, called ++ more, present, by rw [further, made, List.append_assoc], ?_⟩
  rw [List.append_assoc]
  exact (List.Sublist.append_left rest called).trans due

theorem step_winds {state next : Lifecycle} {place : Place} {event : Event} (sound : Sound state)
    (down : state.thread.loopFlag = false) (current : state.place = some place)
    (taken : step state event = some next) :
    Winds place state.calls next := by
  have live : state.thread.tid = true := by rw [← sound.created, current]; rfl
  cases event with
  | startThread created =>
    rw [step, Lifecycle.startThread, if_pos live] at taken
    cases taken
    exact winds_still down current
  | look =>
    simp only [step, Option.ite_none_right_eq_some] at taken
    rw [← Option.some.inj taken.2, Lifecycle.awaitCid]
    split_ifs
    · exact ⟨down, place, [], current, (List.append_nil _).symm, List.Sublist.refl _⟩
    · exact ⟨down, place, [], current, (List.append_nil _).symm, List.Sublist.refl _⟩
  | turn ret =>
    by_cases ended : place = .returned
    · rw [step, Lifecycle.turn, current, ended] at taken
      cases taken
    · obtain ⟨other, turned, winds, _⟩ := turn_winds down current ended ret
      cases turned.symm.trans taken
      exact winds
  | clear =>
    cases taken
    exact ⟨rfl, place, [], current, (List.append_nil _).symm, List.Sublist.refl _⟩

theorem turns_return (left : Nat) {state : Lifecycle} {place : Place} (down : state.thread.loopFlag = false)
    (current : state.place = some place) (bound : place.left ≤ left) (rets : Nat → Nat) :
    ∃ turns ≤ left, ∃ after, run step state ((List.range turns).map fun i => .turn (rets i)) = some after ∧
      after.place = some .returned := by
  induction left generalizing state place rets with
  | zero =>
    have ended : place = .returned := by
      cases place with
      | inHook hook => cases hook <;> simp [Place.left] at bound
      | returned => rfl
      | _ => simp [Place.left] at bound
    exact ⟨0, le_refl _, state, rfl, ended ▸ current⟩
  | succ left ih =>
    by_cases ended : place = .returned
    · exact ⟨0, Nat.zero_le _, state, rfl, ended ▸ current⟩
    · obtain ⟨next, turned, ⟨low, after, _, present, _⟩, nearer⟩ := turn_winds down current ended (rets 0)
      have less := nearer after present
      obtain ⟨turns, few, final, ran, returned⟩ := ih low present (by omega) fun i => rets (i + 1)
      refine ⟨turns + 1, by omega, final, ?_, returned⟩
      rw [List.range_succ_eq_map, List.map_cons, List.map_map]
      exact run_cons_eq_some.mpr ⟨next, turned, ran⟩

theorem left_le (place : Place) : place.left ≤ 4 := by
  cases place with
  | inHook hook => cases hook <;> decide
  | _ => decide

/-- Once the flag is false no round begins, whoever calls `start_thread`; what is left of the round
may still be called, and the thread is at its end after four turns at most. -/
theorem thread_winds_down (canRun reallyTerminated disposed : Bool) (cycleIntervalUs : Int) (events : List Event)
    (state : Lifecycle) (place : Place)
    (ran : run step (.init (.init canRun reallyTerminated disposed cycleIntervalUs)) events = some state)
    (current : state.place = some place) (down : state.thread.loopFlag = false) :
    (∀ later after, run step state later = some after →
      ∃ more, after.calls = state.calls ++ more ∧ more.Sublist place.due) ∧
    ∀ rets : Nat → Nat, ∃ turns ≤ 4, ∃ after,
      run step state ((List.range turns).map fun i => .turn (rets i)) = some after ∧
      after.place = some .returned ∧ .onThreadStop ∈ after.calls := by
  have sound := sound_run rfl rfl ran
  constructor
  · intro later after rest
    obtain ⟨_, winds⟩ := run_invariant (fun other => Sound other ∧ Winds place state.calls other)
      (fun other event next before taken => ⟨sound_step before.1 taken, by
        obtain ⟨middle, _, present, _⟩ := before.2.moved
        exact before.2.trans present (step_winds before.1 before.2.down present taken)⟩)
      ⟨sound, winds_still down current⟩ rest
    obtain ⟨_, more, _, made, due⟩ := winds.moved
    exact ⟨more, made, (List.sublist_append_left ..).trans due⟩
  · intro rets
    obtain ⟨turns, few, after, rest, returned⟩ := turns_return 4 down current (left_le place) rets
    have ended := run_invariant Sound (fun _ _ _ before taken => sound_step before taken) sound rest
    obtain ⟨⟨rounds, _, made⟩, _⟩ := ended.called returned rfl
    exact ⟨turns, few, after, rest, returned, by simp [made]⟩

theorem stopped_in_loop_winds_down : ∃ state,
    run step (.init (.init false true true 1000))
      [.startThread true, .turn 0, .turn 0, .look, .turn 0, .turn 0, .clear] =
      some state ∧ state.place = some (.inHook .loop) ∧
    ∀ later after, run step state later = some after →
      ∃ more, after.calls = state.calls ++ more ∧ more.Sublist [.onEndLoop, .onThreadStop] := by
  refine ⟨_, rfl, rfl, ?_⟩
  exact (thread_winds_down false true true 1000
    [.startThread true, .turn 0, .turn 0, .look, .turn 0, .turn 0, .clear] _
    (.inHook .loop) rfl rfl rfl).1

end RabbitStreamer.Core.Thread
