import Mathlib.Logic.Function.Basic
import RabbitStreamer.Protocol.Framing

/-! The normal peers' connections of a super peer, which share one counter of failed reads, and
when one of them is closed for being idle. -/

namespace RabbitStreamer.Sp.Idle
open RabbitStreamer.Lib RabbitStreamer.Lib.Memory RabbitStreamer.Lib.Transition RabbitStreamer.Core.Streamer
open RabbitStreamer.Core.Buffer RabbitStreamer.Protocol.Framing

variable {ι : Type} [DecidableEq ι]

abbrev IDLE_LIMIT : Nat := 150

/-- `no_receive_counter` and the threads, with how often each has failed to read a header since it
last read one, and the reads of headers since the counter was last zero, newest first: which thread
it was and whether it failed. -/
structure Connections (ι : Type) where
  noReceiveCounter : Nat
  threads : ι → Receiver
  failures : ι → Nat
  cycle : List (ι × Bool)

namespace Connections

/-- Each connection with the bytes that its normal peer will have sent when it hangs up. -/
def start (memory : ι → Memory) (stream : ι → List UInt8) (splits : ι → List Nat) : Connections ι where
  noReceiveCounter := 0
  threads conn := .start (memory conn) (stream conn) (splits conn)
  failures _ := 0
  cycle := []

def failed (state : Connections ι) (conn : ι) (after : Receiver) : Connections ι :=
  let full := state.noReceiveCounter + 1 = IDLE_LIMIT
  { noReceiveCounter := if full then 0 else state.noReceiveCounter + 1
    threads := Function.update state.threads conn after
    failures := Function.update state.failures conn (state.failures conn + 1)
    cycle := if full then [] else (conn, true) :: state.cycle }

def received (state : Connections ι) (conn : ι) (after : Receiver) : Connections ι where
  noReceiveCounter := state.noReceiveCounter
  threads := Function.update state.threads conn after
  failures := Function.update state.failures conn 0
  cycle := if state.noReceiveCounter = 0 then state.cycle else (conn, false) :: state.cycle

end Connections

/-- One iteration of the loop of one connection; a thread that has left its loop takes none. -/
def turn (state : Connections ι) (conn : ι) : Option (Connections ι) :=
  let thread := state.threads conn
  if thread.loopFlag = false then some state
  else
    match readHeader thread.conn, npLoop thread state.noReceiveCounter with
    | .ok (code, _, _), some after =>
        some (if code ≠ ERROR_SUCCESS then state.failed conn after else state.received conn after)
    | _, _ => none

def Fails (state : Connections ι) (conn : ι) : Prop :=
  (state.threads conn).loopFlag = true ∧
  ∃ code next size, readHeader (state.threads conn).conn = .ok (code, next, size) ∧ code ≠ ERROR_SUCCESS

/-- A turn that closes a connection closes one that has failed often enough itself. -/
def Patient (state : Connections ι) (conn : ι) : Prop :=
  ∀ next, turn state conn = some next → ∀ other, (state.threads other).loopFlag = true →
    (next.threads other).loopFlag = false → IDLE_LIMIT ≤ next.failures other

/-- Where a failed read fills the counter, the reads that have filled it so far are all of the
same connection, which has read no header meanwhile. -/
def Unmixed (state : Connections ι) (conn : ι) : Prop :=
  Fails state conn → state.noReceiveCounter + 1 = IDLE_LIMIT → ∀ read ∈ state.cycle, read.1 = conn ↔ read.2 = true

def streak (cycle : List (ι × Bool)) (conn : ι) : Nat :=
  ((cycle.filter fun read => read.1 = conn).takeWhile Prod.snd).length

structure Counted (state : Connections ι) : Prop where
  below : state.noReceiveCounter < IDLE_LIMIT
  counts : state.cycle.countP Prod.snd = state.noReceiveCounter
  opened : ∀ read, state.cycle.getLast? = some read → read.2 = true

structure Own (state : Connections ι) : Prop extends Counted state where
  own : ∀ conn, (state.threads conn).loopFlag = true → state.failures conn = streak state.cycle conn

theorem readMessage_code {conn next : Connection} {code : Nat} {message : Option Message}
    (read : readMessage conn = .ok (code, next, message)) :
    ∃ headerCode after size, readHeader conn = .ok (headerCode, after, size) ∧
      (code ≠ ERROR_SUCCESS ↔ headerCode ≠ ERROR_SUCCESS) := by
  unfold readMessage at read
  cases header : readHeader conn with
  | error reason => simp [header, bind, Except.bind] at read
  | ok result =>
    obtain ⟨headerCode, after, size⟩ := result
    refine ⟨headerCode, after, size, rfl, ?_⟩
    simp only [header, bind, Except.bind] at read
    split_ifs at read with failed
    · cases read
      exact Iff.rfl
    · cases body : readBody after size with
      | error reason => simp [body] at read
      | ok pair =>
        simp only [body, pure, Except.pure, Except.ok.injEq, Prod.mk.injEq] at read
        rw [← read.1]
        exact iff_of_false (by simp) failed

theorem turn_cases {state next : Connections ι} {conn : ι} (taken : turn state conn = some next) :
    (state.threads conn).loopFlag = false ∧ next = state ∨
    (∃ after, Fails state conn ∧ next = state.failed conn after ∧
      after.loopFlag = decide (state.noReceiveCounter + 1 ≠ IDLE_LIMIT)) ∨
    ∃ after, (state.threads conn).loopFlag = true ∧ ¬Fails state conn ∧ next = state.received conn after ∧
      after.loopFlag = true := by
  by_cases ended : (state.threads conn).loopFlag = false
  · simp only [turn, if_pos ended, Option.some.injEq] at taken
    exact Or.inl ⟨ended, taken.symm⟩
  · have running : (state.threads conn).loopFlag = true := Bool.eq_true_of_not_eq_false ended
    simp only [turn, if_neg ended] at taken
    split at taken
    next code _ _ after header looped =>
      rw [npLoop, if_neg ended] at looped
      split at looped
      next => cases looped
      next otherCode conn' message read =>
        obtain ⟨headerCode, _, _, again, agree⟩ := readMessage_code read
        cases header.symm.trans again
        cases taken
        by_cases failed : code ≠ ERROR_SUCCESS
        · rw [if_pos (agree.mpr failed)] at looped
          cases looped
          exact Or.inr (Or.inl ⟨_, ⟨running, _, _, _, header, failed⟩, if_pos failed, rfl⟩)
        · rw [if_neg fun bad => failed (agree.mp bad)] at looped
          cases looped
          refine Or.inr (Or.inr ⟨_, running, ?_, if_neg failed, running⟩)
          rintro ⟨_, _, _, _, again, bad⟩
          cases header.symm.trans again
          exact failed bad
    next => cases taken

theorem streak_failed (cycle : List (ι × Bool)) (conn : ι) :
    streak ((conn, true) :: cycle) conn = streak cycle conn + 1 := by
  simp [streak]

theorem streak_received (cycle : List (ι × Bool)) (conn : ι) : streak ((conn, false) :: cycle) conn = 0 := by
  simp [streak]

theorem streak_other (cycle : List (ι × Bool)) {conn other : ι} (different : other ≠ conn) (failed : Bool) :
    streak ((other, failed) :: cycle) conn = streak cycle conn := by
  simp [streak, different]

theorem streak_le (cycle : List (ι × Bool)) (conn : ι) : streak cycle conn ≤ cycle.countP Prod.snd := by
  induction cycle with
  | nil => exact Nat.le_refl 0
  | cons read rest ih =>
    obtain ⟨other, failed⟩ := read
    rw [List.countP_cons]
    by_cases self : other = conn
    · subst self
      cases failed with
      | true =>
        rw [streak_failed]
        exact Nat.succ_le_succ ih
      | false =>
        rw [streak_received]
        exact Nat.zero_le _
    · rw [streak_other rest self]
      exact Nat.le_add_right_of_le ih

theorem unmixed_iff {cycle : List (ι × Bool)}
    (opened : ∀ read, cycle.getLast? = some read → read.2 = true) (conn : ι) :
    (∀ read ∈ cycle, read.1 = conn ↔ read.2 = true) ↔ streak cycle conn = cycle.countP Prod.snd := by
  induction cycle with
  | nil => simp [streak]
  | cons read rest ih =>
    obtain ⟨other, failed⟩ := read
    have later : ∀ read, rest.getLast? = some read → read.2 = true := by
      intro read last
      apply opened read
      rw [List.getLast?_cons, last]
      rfl
    have bound := streak_le rest conn
    rw [List.forall_mem_cons, ih later, List.countP_cons]
    by_cases self : other = conn
    · subst self
      cases failed with
      | true =>
        rw [streak_failed]
        simp
      | false =>
        -- a read that opens the cycle has failed, so that somebody has failed before this one
        have before : 0 < rest.countP Prod.snd := by
          cases rest with
          | nil => exact absurd (opened _ rfl) (by simp)
          | cons head tail =>
            apply List.countP_pos_iff.mpr
            obtain ⟨last, listed⟩ : ∃ last, (head :: tail).getLast? = some last :=
              ⟨_, List.getLast?_eq_some_getLast (by simp)⟩
            exact ⟨last, List.mem_of_getLast? listed, later last listed⟩
        rw [streak_received]
        simp
        omega
    · rw [streak_other rest self]
      cases failed with
      | true =>
        simp [self]
        omega
      | false => simp [self]

theorem streak_none {cycle : List (ι × Bool)} {conn other : ι}
    (unmixed : ∀ read ∈ cycle, read.1 = conn ↔ read.2 = true)
    (different : other ≠ conn) : streak cycle other = 0 := by
  induction cycle with
  | nil => rfl
  | cons read rest ih =>
    obtain ⟨reader, failed⟩ := read
    obtain ⟨atHead, later⟩ := List.forall_mem_cons.mp unmixed
    by_cases self : reader = other
    · have succeeded : failed = false := Bool.eq_false_iff.mpr fun bad => different (self ▸ atHead.mpr bad)
      rw [self, succeeded]
      exact streak_received rest other
    · rw [streak_other rest self]
      exact ih later

theorem turn_of_fails {state : Connections ι} {conn : ι} (fails : Fails state conn) :
    ∃ after, turn state conn = some (state.failed conn after) ∧
      after.loopFlag = decide (state.noReceiveCounter + 1 ≠ IDLE_LIMIT) := by
  obtain ⟨running, code, next, size, header, failed⟩ := fails
  have read : readMessage (state.threads conn).conn = .ok (code, next, none) := by
    rw [readMessage, header]
    exact if_pos failed
  obtain ⟨after, looped, flag⟩ : ∃ after, npLoop (state.threads conn) state.noReceiveCounter = some after ∧
      after.loopFlag = decide (state.noReceiveCounter + 1 ≠ IDLE_LIMIT) := by
    refine ⟨⟨next, state.noReceiveCounter + 1 ≠ IDLE_LIMIT, (state.threads conn).dispatched⟩, ?_, rfl⟩
    rw [npLoop, if_neg (by rw [running]; decide), read]
    exact if_pos failed
  refine ⟨after, ?_, flag⟩
  rw [turn, if_neg (by rw [running]; decide), header, looped]
  exact congrArg some (if_pos failed)

/-- Where the failures of a connection are those of the present cycle, it is closed too early exactly
where the cycle is mixed. -/
theorem patient_iff {state : Connections ι} (own : Own state) (conn : ι) :
    Patient state conn ↔ Unmixed state conn := by
  constructor
  · intro patient fails full
    apply (unmixed_iff own.opened conn).mpr
    obtain ⟨after, taken, flag⟩ := turn_of_fails fails
    have closed : ((state.failed conn after).threads conn).loopFlag = false := by
      simp only [Connections.failed, Function.update_self, flag, full]
      rfl
    have enough := patient _ taken conn fails.1 closed
    simp only [Connections.failed, Function.update_self, own.own conn fails.1] at enough
    have most := streak_le state.cycle conn
    rw [own.counts] at most ⊢
    omega
  · intro unmixed next taken other before after
    obtain ⟨_, rfl⟩ | ⟨thread, fails, rfl, flag⟩ | ⟨thread, _, _, rfl, flag⟩ := turn_cases taken
    · cases before.symm.trans after
    · by_cases self : other = conn
      · subst self
        simp only [Connections.failed, Function.update_self] at after ⊢
        have full : state.noReceiveCounter + 1 = IDLE_LIMIT := by simpa [flag] using after
        have alone := (unmixed_iff own.opened other).mp (unmixed fails full)
        rw [own.counts] at alone
        rw [own.own other fails.1]
        omega
      · simp only [Connections.failed, Function.update_of_ne self] at after
        cases before.symm.trans after
    · by_cases self : other = conn
      · subst self
        simp only [Connections.received, Function.update_self] at after
        cases flag.symm.trans after
      · simp only [Connections.received, Function.update_of_ne self] at after
        cases before.symm.trans after

theorem own_start (memory : ι → Memory) (stream : ι → List UInt8) (splits : ι → List Nat) :
    Own (Connections.start memory stream splits) where
  below := by show 0 < IDLE_LIMIT; decide
  counts := rfl
  opened _ last := by cases last
  own _ _ := rfl

omit [DecidableEq ι] in
theorem opened_cons {cycle : List (ι × Bool)} {newest : ι × Bool}
    (opened : ∀ read, cycle.getLast? = some read → read.2 = true) (alone : cycle = [] → newest.2 = true) :
    ∀ read, (newest :: cycle).getLast? = some read → read.2 = true := by
  intro read last
  rw [List.getLast?_cons] at last
  cases earlier : cycle.getLast? with
  | none =>
    rw [earlier] at last
    cases last
    exact alone (List.getLast?_eq_none_iff.mp earlier)
  | some oldest =>
    rw [earlier] at last
    cases last
    exact opened _ earlier

theorem own_failed {state : Connections ι} {conn : ι} {after : Receiver} (own : Own state)
    (unmixed : Unmixed state conn) (fails : Fails state conn)
    (flag : after.loopFlag = decide (state.noReceiveCounter + 1 ≠ IDLE_LIMIT)) : Own (state.failed conn after) := by
  have below := own.below
  by_cases full : state.noReceiveCounter + 1 = IDLE_LIMIT
  · constructor
    · constructor
      · simp only [Connections.failed, if_pos full]
        decide
      · simp only [Connections.failed, if_pos full]
        rfl
      · intro read last
        simp only [Connections.failed, if_pos full] at last
        cases last
    · intro other open'
      by_cases self : other = conn
      · subst self
        simp [Connections.failed, flag, full] at open'
      · simp only [Connections.failed, if_pos full, Function.update_of_ne self] at open' ⊢
        rw [own.own other open', streak_none (unmixed fails full) self]
        rfl
  · constructor
    · constructor
      · simp only [Connections.failed, if_neg full]
        omega
      · simp only [Connections.failed, if_neg full, List.countP_cons, own.counts, if_true]
      · simp only [Connections.failed, if_neg full]
        exact opened_cons own.opened fun _ => rfl
    · intro other open'
      by_cases self : other = conn
      · subst self
        simp only [Connections.failed, if_neg full, Function.update_self, streak_failed]
        rw [own.own other fails.1]
      · simp only [Connections.failed, if_neg full, Function.update_of_ne self] at open' ⊢
        rw [own.own other open', streak_other _ fun same => self same.symm]

theorem own_received {state : Connections ι} {conn : ι} {after : Receiver} (own : Own state)
    (running : (state.threads conn).loopFlag = true) : Own (state.received conn after) := by
  by_cases zero : state.noReceiveCounter = 0
  · -- nobody has failed in this cycle, so nothing is in it
    have nothing : state.cycle = [] := by
      cases last : state.cycle.getLast? with
      | none => exact List.getLast?_eq_none_iff.mp last
      | some read =>
        have positive := List.countP_pos_iff.mpr ⟨read, List.mem_of_getLast? last, own.opened read last⟩
        rw [own.counts, zero] at positive
        exact absurd positive (Nat.lt_irrefl 0)
    constructor
    · constructor
      · exact own.below
      · simp only [Connections.received, if_pos zero, own.counts]
      · simpa only [Connections.received, if_pos zero] using own.opened
    · intro other open'
      by_cases self : other = conn
      · subst self
        simp only [Connections.received, if_pos zero, Function.update_self, nothing]
        rfl
      · simp only [Connections.received, if_pos zero, Function.update_of_ne self] at open' ⊢
        exact own.own other open'
  · constructor
    · constructor
      · exact own.below
      · simp only [Connections.received, if_neg zero, List.countP_cons, own.counts]
        rfl
      · simp only [Connections.received, if_neg zero]
        refine opened_cons own.opened fun empty => ?_
        have counts := own.counts
        rw [empty] at counts
        exact absurd counts.symm zero
    · intro other open'
      by_cases self : other = conn
      · subst self
        simp only [Connections.received, if_neg zero, Function.update_self, streak_received]
      · simp only [Connections.received, if_neg zero, Function.update_of_ne self] at open' ⊢
        rw [own.own other open', streak_other _ fun same => self same.symm]

theorem own_turn {state next : Connections ι} {conn : ι} (own : Own state) (unmixed : Unmixed state conn)
    (taken : turn state conn = some next) : Own next := by
  obtain ⟨_, rfl⟩ | ⟨after, fails, rfl, flag⟩ | ⟨after, running, _, rfl, _⟩ := turn_cases taken
  · exact own
  · exact own_failed own unmixed fails flag
  · exact own_received own running

/-- In a run every connection is closed by its own failures alone exactly if the counter is filled
by one connection alone each time. -/
theorem patient_iff_unmixed (memory : ι → Memory) (stream : ι → List UInt8) (splits : ι → List Nat) (turns : List ι) :
    Along turn (.start memory stream splits) turns Patient ↔
      Along turn (.start memory stream splits) turns Unmixed := by
  apply along_iff_of_invariant Own (own_start memory stream splits)
  · intro state conn own
    exact patient_iff own conn
  · intro state conn next own patient taken
    exact own_turn own ((patient_iff own conn).mp patient) taken

def hungUp : Connections Bool := .start (fun _ _ => 0) (fun _ => []) fun _ => []

def alternating : List Bool := (List.range 149).map fun i => i % 2 = 0

/-- The turn that fills the counter closes a connection that has failed 75 times. -/
theorem closed_by_another : ¬Along turn hungUp (alternating ++ [false]) Patient := by
  intro patient
  obtain ⟨state, reached, facts⟩ := (Option.any_eq_true _ _).mp
    (show (run turn hungUp alternating).any (fun state => (state.threads false).loopFlag &&
      (turn state false).any fun next => !(next.threads false).loopFlag && next.failures false = 75) = true by
      decide +kernel)
  simp only [Bool.and_eq_true, Bool.not_eq_true', decide_eq_true_eq, Option.any_eq_true] at facts
  obtain ⟨before, next, taken, after, few⟩ := facts
  have enough := (along_snoc.mp patient).2 state reached next taken false before after
  rw [few] at enough
  exact absurd enough (by decide)

end RabbitStreamer.Sp.Idle
