import RabbitStreamer.Core.Thread

/-! The connections that `SpCsManager` accepts: the object of each belongs to the call that made it, its
thread does not. -/

namespace RabbitStreamer.Sp.Connections
open RabbitStreamer.Lib.Transition RabbitStreamer.Core.Buffer RabbitStreamer.Core.Thread

structure Connection where
  lifecycle : Lifecycle
  freed : Bool
  deriving DecidableEq

/-- The connections in the order of their acceptance, and the one whose `start_thread` the
listener's thread is waiting in. -/
structure Manager where
  connections : List Connection
  accepting : Option Nat
  deriving DecidableEq

def start : Manager := ⟨[], none⟩

def Manager.put (manager : Manager) (conn : Nat) (connection : Connection) : Manager :=
  { manager with connections := manager.connections.set conn connection }

/-- A new connection with what lies in its object's memory, a look of the waiting call, and a turn of a
connection's thread. -/
inductive Event where
  | accept (canRun reallyTerminated disposed created : Bool)
  | look
  | turn (conn ret : Nat)
  deriving DecidableEq

/-- The object goes with the local pointer when `start_thread`, and with it `handle_tcp_connect`, has
returned. -/
def handled (answer : Lifecycle × Option Nat) : Connection := ⟨answer.1, answer.2.isSome⟩

/-- The listener's thread accepts nothing while it waits. A turn without an object is a fault. -/
def step (manager : Manager) : Event → Option Manager
  | .accept canRun reallyTerminated disposed created =>
      if manager.accepting.isSome then none
      else
        let fresh := Lifecycle.init (.init canRun reallyTerminated disposed 1000)
        let answer := fresh.startThread created
        some ⟨manager.connections ++ [handled answer],
          if answer.2.isSome then none else some manager.connections.length⟩
  | .look => do
      let conn ← manager.accepting
      let connection ← manager.connections[conn]?
      let answer := connection.lifecycle.awaitCid
      pure ⟨manager.connections.set conn (handled answer), if answer.2.isSome then none else some conn⟩
  | .turn conn ret => do
      let connection ← manager.connections[conn]?
      if connection.freed then none
      else do
        let lifecycle ← connection.lifecycle.turn ret
        pure (manager.put conn { connection with lifecycle })

/-- An object whose memory held no `can_run`. -/
def Zeroed : Event → Prop
  | .accept canRun _ _ _ => canRun = false
  | _ => True

structure Owned (accepting : Option Nat) (conn : Nat) (connection : Connection) : Prop where
  sound : Sound connection.lifecycle
  freed : connection.freed = decide (accepting ≠ some conn)
  looping : connection.lifecycle.thread.tid = true → connection.lifecycle.thread.loopFlag = true
  waits : accepting = some conn → connection.lifecycle.thread.tid = true

structure Managed (manager : Manager) : Prop where
  owned : ∀ {conn connection}, manager.connections[conn]? = some connection →
    Owned manager.accepting conn connection
  known : ∀ {conn}, manager.accepting = some conn → conn < manager.connections.length

def flags (state : Lifecycle) : Bool × Bool × Bool :=
  (state.thread.tid, state.thread.loopFlag, state.thread.canRun)

theorem flags_head (state : Lifecycle) : flags state.head = flags state := by
  unfold Lifecycle.head
  split_ifs <;> rfl

theorem flags_awaitRun (state : Lifecycle) : flags state.awaitRun = flags state := by
  unfold Lifecycle.awaitRun
  split_ifs
  · rfl
  · exact flags_head state

theorem flags_failed (state : Lifecycle) : flags state.failed = flags state := by
  unfold Lifecycle.failed
  split_ifs
  · rfl
  · rfl
  · exact flags_head state

theorem flags_turn {state next : Lifecycle} {ret : Nat} (taken : state.turn ret = some next) :
    flags next = flags state := by
  unfold Lifecycle.turn at taken
  split at taken <;> cases taken
  · rfl
  · exact flags_awaitRun _
  · exact flags_awaitRun state
  · split_ifs
    · exact flags_failed state
    · rfl
  · split_ifs
    · exact flags_failed state
    · rfl
  · exact flags_failed state
  · exact flags_head state
  · rfl

theorem awaitCid_object (state : Lifecycle) :
    state.awaitCid.1.thread.tid = state.thread.tid ∧ state.awaitCid.1.thread.loopFlag = state.thread.loopFlag ∧
      state.awaitCid.1.place = state.place ∧ state.awaitCid.1.calls = state.calls := by
  unfold Lifecycle.awaitCid
  split_ifs
  · exact ⟨rfl, rfl, rfl, rfl⟩
  · exact ⟨rfl, rfl, rfl, rfl⟩

section Step

variable {manager next : Manager}

theorem getElem?_put {conn other : Nat} {connection found : Connection}
    (listed : (manager.put conn connection).connections[other]? = some found) :
    conn = other ∧ found = connection ∨ conn ≠ other ∧ manager.connections[other]? = some found := by
  rw [Manager.put, List.getElem?_set] at listed
  split_ifs at listed with same inside
  · exact Or.inl ⟨same, (Option.some.inj listed).symm⟩
  · exact Or.inr ⟨same, listed⟩

theorem managed_put (managed : Managed manager) {conn : Nat} {connection changed : Connection}
    (present : manager.connections[conn]? = some connection) (sound : Sound changed.lifecycle)
    (freed : changed.freed = connection.freed)
    (tid : changed.lifecycle.thread.tid = connection.lifecycle.thread.tid)
    (looping : changed.lifecycle.thread.loopFlag = connection.lifecycle.thread.loopFlag) :
    Managed (manager.put conn changed) where
  owned := by
    intro other found current
    rcases getElem?_put current with ⟨rfl, rfl⟩ | ⟨_, old⟩
    · have own := managed.owned present
      exact ⟨sound, freed.trans own.freed, fun live => looping.trans (own.looping (tid ▸ live)),
        fun waits => tid.trans (own.waits waits)⟩
    · exact managed.owned old
  known := by
    intro other waits
    rw [Manager.put, List.length_set]
    exact managed.known waits

theorem startThread_init (canRun reallyTerminated disposed created : Bool) :
    let answer := (Lifecycle.init (.init canRun reallyTerminated disposed 1000)).startThread created
    Sound answer.1 ∧ answer.2.isSome = !created ∧ answer.1.thread.tid = created ∧ answer.1.thread.loopFlag = created ∧
      answer.1.thread.canRun = canRun ∧ answer.1.calls = [] := by
  have sound : Sound (.init (.init canRun reallyTerminated disposed 1000)) := sound_init rfl rfl
  have started := @sound_step _ _ (.startThread created) sound rfl
  cases created with
  | false => exact ⟨started, rfl, rfl, rfl, rfl, rfl⟩
  | true => exact ⟨started, rfl, rfl, rfl, rfl, rfl⟩

theorem getElem?_snoc {α : Type} {list : List α} {last found : α} {i : Nat}
    (present : (list ++ [last])[i]? = some found) :
    list[i]? = some found ∧ i ≠ list.length ∨ i = list.length ∧ found = last := by
  rcases Nat.lt_trichotomy i list.length with before | same | behind
  · rw [List.getElem?_append_left before] at present
    exact Or.inl ⟨present, before.ne⟩
  · subst same
    rw [List.getElem?_append_right (le_refl _), Nat.sub_self] at present
    exact Or.inr ⟨rfl, (Option.some.inj present).symm⟩
  · rw [List.getElem?_eq_none (by rw [List.length_append]; exact behind)] at present
    cases present

theorem managed_accept (managed : Managed manager) {canRun reallyTerminated disposed created : Bool}
    (taken : step manager (.accept canRun reallyTerminated disposed created) = some next) :
    Managed next := by
  obtain ⟨sound, answered, live, looping, _⟩ := startThread_init canRun reallyTerminated disposed created
  simp only [step, Option.ite_none_left_eq_some, Option.some.injEq] at taken
  obtain ⟨free, rfl⟩ := taken
  rw [Option.not_isSome_iff_eq_none] at free
  rw [answered]
  constructor
  · intro conn connection present
    rcases getElem?_snoc present with ⟨old, other⟩ | ⟨rfl, rfl⟩
    · have own := managed.owned old
      rw [free] at own
      refine ⟨own.sound, ?_, own.looping, ?_⟩
      · rw [own.freed]
        cases created <;> simp [Ne.symm other]
      · cases created <;> simp [Ne.symm other]
    · refine ⟨sound, ?_, fun present => ?_, ?_⟩
      · rw [handled, answered]
        cases created <;> simp
      · exact looping.trans (live.symm.trans present)
      · cases created
        · simp
        · exact fun _ => live
  · intro conn
    cases created <;> simp [List.length_append]
    omega

theorem managed_look (managed : Managed manager) (taken : step manager .look = some next) :
    Managed next := by
  simp only [step, Option.bind_eq_bind, Option.bind_eq_some_iff] at taken
  obtain ⟨conn, waits, connection, present, same⟩ := taken
  cases same
  have own := managed.owned present
  obtain ⟨tid, looping, _⟩ := awaitCid_object connection.lifecycle
  have inside := managed.known waits
  cases answered : connection.lifecycle.awaitCid.2 with
  | none =>
    have kept : (handled connection.lifecycle.awaitCid).freed = connection.freed := by
      rw [handled, answered, own.freed, waits]
      simp
    have put := managed_put managed present (sound_awaitCid own.sound) kept tid looping
    rw [Manager.put, waits] at put
    exact put
  | some code =>
    constructor
    · intro other found current
      rcases @getElem?_put manager conn other _ found current with ⟨rfl, rfl⟩ | ⟨different, old⟩
      · refine ⟨sound_awaitCid own.sound, ?_, fun live => looping.trans (own.looping (tid ▸ live)), ?_⟩
        · rw [handled, answered]
          simp
        · simp
      · have owned := managed.owned old
        rw [waits] at owned
        refine ⟨owned.sound, ?_, owned.looping, by simp⟩
        rw [owned.freed]
        simp [different]
    · simp

theorem managed_step (managed : Managed manager) {event : Event}
    (taken : step manager event = some next) :
    Managed next := by
  cases event with
  | accept canRun reallyTerminated disposed created => exact managed_accept managed taken
  | look => exact managed_look managed taken
  | turn conn ret =>
    simp only [step, Option.bind_eq_bind, Option.bind_eq_some_iff, Option.ite_none_left_eq_some] at taken
    obtain ⟨connection, listed, _, lifecycle, turned, same⟩ := taken
    cases same
    have same := flags_turn turned
    simp only [flags, Prod.mk.injEq] at same
    exact managed_put managed listed (sound_turn (managed.owned listed).sound turned) rfl same.1 same.2.1

theorem managed_run {events : List Event} (ran : run step start events = some manager) :
    Managed manager :=
  run_invariant Managed (fun _ _ _ managed taken => managed_step managed taken)
    ⟨by simp [start], by simp [start]⟩ ran

end Step

structure Unread (accepting : Option Nat) (conn : Nat) (connection : Connection) : Prop where
  released : Released connection.lifecycle
  waiting : accepting = some conn → connection.lifecycle.thread.canRun = false
  unread : .onBeforeLoop ∉ connection.lifecycle.calls

def AllUnread (manager : Manager) : Prop :=
  ∀ {conn connection}, manager.connections[conn]? = some connection → Unread manager.accepting conn connection

theorem unread_step {manager next : Manager} {event : Event} (managed : Managed manager) (zeroed : Zeroed event)
    (unread : AllUnread manager) (taken : step manager event = some next) : AllUnread next := by
  cases event with
  | accept canRun reallyTerminated disposed created =>
    obtain ⟨_, answered, _, _, can, calls⟩ := startThread_init canRun reallyTerminated disposed created
    simp only [step, Option.ite_none_left_eq_some, Option.some.injEq] at taken
    obtain ⟨free, rfl⟩ := taken
    rw [Option.not_isSome_iff_eq_none] at free
    intro conn connection listed
    rcases getElem?_snoc listed with ⟨old, other⟩ | ⟨rfl, rfl⟩
    · have own := unread old
      refine ⟨own.released, fun waits => ?_, own.unread⟩
      rw [answered] at waits
      cases created <;> simp at waits
      exact absurd waits.symm other
    · have first : Released (.init (.init canRun reallyTerminated disposed 1000)) := by
        refine ⟨fun can => ?_, fun called => absurd called List.not_mem_nil, by rintro _ ⟨⟩⟩
        exact absurd (zeroed.symm.trans can) (by decide)
      refine ⟨@released_step _ _ (.startThread created) (sound_init rfl rfl) first rfl, fun _ => can.trans zeroed, ?_⟩
      rw [handled, calls]
      exact List.not_mem_nil
  | look =>
    simp only [step, Option.bind_eq_bind, Option.bind_eq_some_iff] at taken
    obtain ⟨conn, waits, connection, listed, same⟩ := taken
    cases same
    obtain ⟨_, _, _, calls⟩ := awaitCid_object connection.lifecycle
    intro other found current
    rcases @getElem?_put manager conn other _ found current with ⟨rfl, rfl⟩ | ⟨different, old⟩
    · have own := unread listed
      have still := own.waiting waits
      refine ⟨released_awaitCid (managed.owned listed).sound own.released fun _ => still, fun waiting => ?_, ?_⟩
      · unfold handled Lifecycle.awaitCid
        split_ifs with unseen
        · exact still
        · rw [Lifecycle.awaitCid, if_neg unseen] at waiting
          cases waiting
      · rw [handled, calls]
        exact own.unread
    · have own := unread old
      refine ⟨own.released, fun waiting => ?_, own.unread⟩
      split_ifs at waiting
      exact absurd (Option.some.inj waiting) different
  | turn conn ret =>
    simp only [step, Option.bind_eq_bind, Option.bind_eq_some_iff, Option.ite_none_left_eq_some] at taken
    obtain ⟨connection, listed, alive, lifecycle, turned, same⟩ := taken
    cases same
    have own := unread listed
    have waits : manager.accepting = some conn := by
      have freed := (managed.owned listed).freed
      rw [Bool.eq_false_of_not_eq_true alive] at freed
      simpa using freed
    have same := flags_turn turned
    simp only [flags, Prod.mk.injEq] at same
    have still : lifecycle.thread.canRun = false := same.2.2.trans (own.waiting waits)
    have after := released_turn own.released turned
    intro other found current
    rcases @getElem?_put manager conn other _ found current with ⟨rfl, rfl⟩ | ⟨_, old⟩
    · refine ⟨after, fun _ => still, fun called => ?_⟩
      exact absurd (still.symm.trans (after.began called)) (by decide)
    · exact unread old

/-- When `SpCsManager::handle_tcp_connect` has returned, the object of the connection is gone and its
thread goes on without one; in memory that was zero it has not come to its loop. -/
theorem capture_objects_freed (events : List Event) (manager : Manager)
    (ran : run step start events = some manager) :
    (∀ conn connection, manager.connections[conn]? = some connection → manager.accepting ≠ some conn →
      connection.freed = true ∧ (connection.lifecycle.thread.tid = true →
        (∃ place, connection.lifecycle.place = some place ∧ place ≠ .returned) ∧
        ∀ ret, step manager (.turn conn ret) = none)) ∧
    ((∀ event ∈ events, Zeroed event) →
      ∀ connection ∈ manager.connections, .onBeforeLoop ∉ connection.lifecycle.calls) := by
  have managed := managed_run ran
  refine ⟨fun conn connection listed handled => ?_, fun zeroed connection member => ?_⟩
  · have own := managed.owned listed
    have freed : connection.freed = true := by simp [own.freed, handled]
    refine ⟨freed, fun live => ⟨?_, fun ret => ?_⟩⟩
    · have present := own.sound.created.trans live
      obtain ⟨place, current⟩ := Option.isSome_iff_exists.mp present
      refine ⟨place, current, fun ended => ?_⟩
      have down := own.sound.stopped current (by rw [ended]; rfl)
      rw [own.looping live] at down
      cases down
    · simp [step, listed, freed]
  · obtain ⟨conn, listed⟩ := List.mem_iff_getElem?.mp member
    have unread := run_history
      (fun past manager => (∀ event ∈ past, Zeroed event) → Managed manager ∧ AllUnread manager)
      (fun _ => ⟨managed_run (show run step start [] = some start from rfl), by simp [AllUnread, start]⟩)
      (fun past _ event _ _ before taken all => by
        have ⟨old, unread⟩ := before fun event member => all event (List.mem_append_left _ member)
        have current := all event (List.mem_append_right _ (List.mem_singleton_self _))
        exact ⟨managed_step old taken, unread_step old current unread taken⟩) ran zeroed
    exact (unread.2 listed).unread

def accepted : List Event := [.accept false true true true, .look, .turn 0 0, .turn 0 0, .turn 0 0, .look]

theorem one_capture_object_freed : ∃ manager, run step start accepted = some manager ∧
    manager.connections.length = 1 ∧
    (∀ connection ∈ manager.connections, .onBeforeLoop ∉ connection.lifecycle.calls) ∧
    ∀ ret, step manager (.turn 0 ret) = none := by
  have shape : (run step start accepted).map (fun manager =>
      (manager.accepting, manager.connections.map fun connection => connection.lifecycle.thread.tid)) =
      some (none, [true]) := by decide
  obtain ⟨manager, ran, same⟩ := Option.map_eq_some_iff.mp shape
  obtain ⟨free, tids⟩ := Prod.mk.inj same
  obtain ⟨connection, only, live⟩ := List.map_eq_singleton_iff.mp tids
  have freed := capture_objects_freed accepted manager ran
  have present : manager.connections[0]? = some connection := by rw [only]; rfl
  exact ⟨manager, ran, by rw [only]; rfl, freed.2 (by simp [accepted, Zeroed]),
    ((freed.1 0 connection present (by rw [free]; simp)).2 live).2⟩

end RabbitStreamer.Sp.Connections
