import Mathlib.Data.Set.Function
import RabbitStreamer.Tracker.Identity
import RabbitStreamer.Tracker.PeerRounds

/-! Where the generator stands when a uuid is drawn from it, and whether somebody has that uuid already. -/

namespace RabbitStreamer.Tracker.Freshness
open RabbitStreamer.Lib RabbitStreamer.Lib.Bytes RabbitStreamer.Lib.Transition RabbitStreamer.Core.Struct
open RabbitStreamer.Core.StructDefine RabbitStreamer.Core.Streamer RabbitStreamer.Core.Message
open RabbitStreamer.Tracker.Uuid RabbitStreamer.Tracker.NpManager RabbitStreamer.Tracker.StreamerManager
open RabbitStreamer.Tracker.StreamerManager.ChannelMap RabbitStreamer.Tracker.State RabbitStreamer.Tracker.Server
open RabbitStreamer.Tracker.PeerRounds RabbitStreamer.Tracker.Identity

variable {R : Rand}

/-- The second with which the generator was seeded last, if it was, and how many results it has given
since. -/
structure Position where
  seed : Option UInt32
  results : Nat
  deriving DecidableEq

def Position.start : Position := ⟨none, 0⟩

/-- The state of a generator there that started in `first`. -/
def Position.state (R : Rand) (first : R.State) (position : Position) : R.State :=
  after R position.results (position.seed.elim first R.srand)

def nameAt (R : Rand) (first : R.State) (position : Position) : List Nat := nextName (position.state R first)

def Position.drawUuid (position : Position) : Position := { position with results := position.results + 4 }

/-- A search for peers seeds the generator with the clock, and draws a position where there are more
super peers than it hands out. -/
def afterSearch (tracker : TrackerState R) (now : Int) : Position :=
  ⟨some (ofInt32 now), if 10 < tracker.channelMap.size then 1 else 0⟩

def Position.afterRequest (position : Position) (tracker : TrackerState R) (now : Int) : Request → Position
  | .login _ | .register _ => position.drawUuid
  | .reqRes _ => afterSearch tracker now
  | .needPeers needPeers =>
      if (tracker.npnodeMap.getNode (.ofUuid needPeers.uuid)).isSome then afterSearch tracker now else position
  | _ => position

def Position.next (position : Position) (tracker : TrackerState R) : Event → Position
  | .timerCheck _ => position
  | .datagram datagram =>
      match datagram.request with
      | .ok (some request) => position.afterRequest tracker datagram.env.now request
      | _ => position

/-- The tracker, with the position of the generator and with those at which the uuid of each peer and of
each super peer was drawn, by its text. -/
structure Placed (R : Rand) where
  tracker : TrackerState R
  position : Position
  loginAt : List Nat → Option Position
  registeredAt : List Nat → Option Position

def Placed.start (first : R.State) (unset : UInt32) : Placed R :=
  ⟨.start R first unset, .start, fun _ => none, fun _ => none⟩

def note (places : List Nat → Option Position) (given : Bool) (placed : Placed R) : List Nat → Option Position :=
  if given then Function.update places (nextName placed.tracker.rng) (some placed.position) else places

def stepPlaced (placed : Placed R) (event : Event) : Option (Placed R) :=
  (step placed.tracker event).map fun after => {
    tracker := after
    position := placed.position.next placed.tracker event
    loginAt := note placed.loginAt (logsIn event) placed
    registeredAt := note placed.registeredAt (registers event) placed }

/-- The uuid given is that of nobody, and every record that was there still is. -/
structure Fresh (placed : Placed R) (event : Event) : Prop where
  login : logsIn event = true → placed.tracker.npnodeMap.find (generateUuid R placed.tracker.rng).1 = none ∧
    ∀ after, step placed.tracker event = some after → ∀ key entry, placed.tracker.npnodeMap.find key = some entry →
      after.npnodeMap.find key = some entry
  registration : registers event = true →
    placed.tracker.channelMap.find (generateUuid R placed.tracker.rng).1 = none ∧
    ∀ after, step placed.tracker event = some after → ∀ key entry, placed.tracker.channelMap.find key = some entry →
      after.channelMap.find key = some entry

/-- An accepted login comes at another position than that of each peer that is still logged in, and a
registration at another than that of each super peer. -/
structure Elsewhere (placed : Placed R) (event : Event) : Prop where
  login : logsIn event = true → ∀ entry ∈ placed.tracker.npnodeMap.entries,
    placed.loginAt entry.1.rank ≠ some placed.position
  registration : registers event = true → ∀ entry ∈ placed.tracker.channelMap.entries,
    placed.registeredAt entry.1.rank ≠ some placed.position

def Within (places : Set Position) (placed : Placed R) (event : Event) : Prop :=
  logsIn event = true ∨ registers event = true → placed.position ∈ places

theorem drawUuid_state (first : R.State) (position : Position) :
    position.drawUuid.state R first = (generateUuid R (position.state R first)).2 :=
  (after_add R position.results 4 (position.seed.elim first R.srand)).symm

theorem getCpAddress_state (tracker : TrackerState R) (first : R.State) (now : Int) :
    (tracker.channelMap.getCpAddress R now 10).2 = (afterSearch tracker now).state R first := by
  by_cases many : 10 < tracker.channelMap.size
  · simp only [getCpAddress, afterSearch, if_pos many]
    rfl
  · simp only [getCpAddress, afterSearch, if_neg many]
    rfl

theorem rng_act {request : Request} {tracker after : TrackerState R} {lastReceiveAddr : NetAddress} {env : Env}
    {sent : List Sent} (acted : request.act tracker lastReceiveAddr env = .ok (after, sent)) {first : R.State}
    {position : Position} (placed : tracker.rng = position.state R first) :
    after.rng = (position.afterRequest tracker env.now request).state R first := by
  cases request with
  | login login =>
    rw [Position.afterRequest, drawUuid_state, ← placed]
    by_cases addresses : login.localIpListSize = 0
    · cases (NpConnector.getLogin_none addresses tracker lastReceiveAddr env).symm.trans acted
      rfl
    · cases (NpConnector.getLogin_some addresses rfl lastReceiveAddr env).symm.trans acted
      rfl
  | reqRes reqRes => exact (sendPeers_reseeds acted).trans (getCpAddress_state tracker first env.now)
  | report report =>
    obtain ⟨_, acted⟩ := NpConnector.receiveReport_eq_ok acted
    cases known : tracker.npnodeMap.getNode (.ofUuid report.uuid) with
    | none =>
      cases (NpConnector.getReport_unknown known lastReceiveAddr env).symm.trans acted
      exact placed
    | some stored =>
      cases (NpConnector.getReport_known known lastReceiveAddr env).symm.trans acted
      split_ifs <;> exact placed
  | needPeers needPeers =>
    simp only [Request.act, NpConnector.getNeedPeers] at acted
    cases known : tracker.npnodeMap.getNode (.ofUuid needPeers.uuid) with
    | none =>
      simp only [known, Except.ok.injEq, Prod.mk.injEq] at acted
      rw [← acted.1, Position.afterRequest, known]
      exact placed
    | some node =>
      simp only [known] at acted
      rw [sendPeers_reseeds acted, Position.afterRequest, known]
      exact getCpAddress_state tracker first env.now
  | resInterval resInterval =>
    obtain ⟨_, _, ended⟩ := NpConnector.getResInterval_cases resInterval tracker lastReceiveAddr env
    cases ended.symm.trans acted
    exact placed
  | logout logout =>
    cases acted
    exact placed
  | register register =>
    obtain ⟨uuid, rng, channelMap, drawn, _, rfl, _⟩ := SpConnector.getRegister_eq_ok acted
    rw [Position.afterRequest, drawUuid_state, ← placed, drawn]
  | status status =>
    unfold Request.act SpConnector.getStatus at acted
    obtain ⟨_, ⟨_, rfl⟩ | ⟨_, _, _, _, _, _, rfl⟩⟩ := SpConnector.updateChannel_eq_ok acted
    · exact placed
    · exact placed
  | resList resList =>
    unfold Request.act SpConnector.getResList at acted
    obtain ⟨_, ⟨_, rfl⟩ | ⟨_, _, _, _, _, _, rfl⟩⟩ := SpConnector.updateChannel_eq_ok acted
    · exact placed
    · exact placed
  | getSp spList =>
    obtain ⟨rfl, _⟩ := SpConnector.getSpList_eq_ok acted
    exact placed

def NotedAt (first : R.State) (places : Set Position) (noted : List Nat → Option Position) (name : List Nat) : Prop :=
  ∃ position ∈ places, noted name = some position ∧ nameAt R first position = name

theorem NotedAt.note {first : R.State} {places : Set Position} {noted : List Nat → Option Position}
    {name : List Nat} (known : NotedAt first places noted name) {given : Bool} {placed : Placed R}
    (rng : placed.tracker.rng = placed.position.state R first)
    (within : given = true → placed.position ∈ places) :
    NotedAt first places (Freshness.note noted given placed) name := by
  unfold Freshness.note
  split_ifs with gives
  · by_cases self : name = nextName placed.tracker.rng
    · refine ⟨placed.position, within gives, ?_, ?_⟩
      · rw [self, Function.update_self]
      · rw [self, rng]
        rfl
    · obtain ⟨position, member, same, named⟩ := known
      exact ⟨position, member, by rw [Function.update_of_ne self, same], named⟩
  · exact known

theorem notedAt_given {first : R.State} {places : Set Position} (noted : List Nat → Option Position)
    {given : Bool} (gives : given = true) {placed : Placed R}
    (rng : placed.tracker.rng = placed.position.state R first) (within : placed.position ∈ places) :
    NotedAt first places (Freshness.note noted given placed) (nextName placed.tracker.rng) := by
  refine ⟨placed.position, within, ?_, ?_⟩
  · rw [Freshness.note, if_pos gives, Function.update_self]
  · rw [rng]
    rfl

/-- The generator is at its position, and every key of the maps was given at a place noted for it. -/
structure Located (first : R.State) (places : Set Position) (placed : Placed R) : Prop where
  rng : placed.tracker.rng = placed.position.state R first
  peers : ∀ entry ∈ placed.tracker.npnodeMap.entries, NotedAt first places placed.loginAt entry.1.rank
  channels : ∀ entry ∈ placed.tracker.channelMap.entries, NotedAt first places placed.registeredAt entry.1.rank

theorem located_start (first : R.State) (unset : UInt32) (places : Set Position) :
    Located first places (.start first unset) :=
  ⟨rfl, fun _ member => absurd member List.not_mem_nil, fun _ member => absurd member List.not_mem_nil⟩

theorem located_step {first : R.State} {places : Set Position} {placed after : Placed R} {event : Event}
    (located : Located first places placed) (within : Within places placed event)
    (taken : stepPlaced placed event = some after) : Located first places after := by
  obtain ⟨next, stepped, rfl⟩ := Option.map_eq_some_iff.mp taken
  have peers : ∀ entry ∈ placed.tracker.npnodeMap.entries,
      NotedAt first places (note placed.loginAt (logsIn event) placed) entry.1.rank := fun entry member =>
    (located.peers entry member).note located.rng fun gives => within (Or.inl gives)
  have channels : ∀ entry ∈ placed.tracker.channelMap.entries,
      NotedAt first places (note placed.registeredAt (registers event) placed) entry.1.rank := fun entry member =>
    (located.channels entry member).note located.rng fun gives => within (Or.inr gives)
  obtain ⟨datagram, rfl, nothing, rfl⟩ | ⟨datagram, request, sent, rfl, found, acted⟩ | ⟨currTime, rfl, rfl⟩ :=
    step_cases stepped
  · refine ⟨?_, peers, channels⟩
    simp only [Position.next, nothing]
    exact located.rng
  · refine ⟨?_, fun entry member => ?_, fun entry member => ?_⟩
    · simp only [Position.next, found]
      exact rng_act acted located.rng
    · obtain ⟨old, listed, rank⟩ | ⟨⟨login, rfl, addresses⟩, name⟩ := node_keys acted member
      · exact rank ▸ peers old listed
      · have logged := logsIn_iff.mpr ⟨datagram, login, rfl, found, addresses⟩
        exact name ▸ notedAt_given placed.loginAt logged located.rng (within (Or.inl logged))
    · obtain ⟨old, listed, rank⟩ | ⟨⟨register, rfl⟩, name⟩ := channel_keys acted member
      · exact rank ▸ channels old listed
      · have registered := registers_iff.mpr ⟨datagram, register, rfl, found⟩
        exact name ▸ notedAt_given placed.registeredAt registered located.rng (within (Or.inr registered))
  · exact ⟨located.rng, fun entry member => peers entry (OrderedMap.mem_filter.mp member).1, channels⟩

/-- Where different places give different texts, a key that was given at a place is that of the next uuid
just if it was given at the same place. -/
theorem notedAt_iff {first : R.State} {places : Set Position} (apart : Set.InjOn (nameAt R first) places)
    {noted : List Nat → Option Position} {name : List Nat} (known : NotedAt first places noted name)
    {placed : Placed R} (rng : placed.tracker.rng = placed.position.state R first)
    (within : placed.position ∈ places) :
    name = nextName placed.tracker.rng ↔ noted name = some placed.position := by
  obtain ⟨position, member, same, named⟩ := known
  have current : nextName placed.tracker.rng = nameAt R first placed.position := by rw [rng]; rfl
  rw [same, Option.some.injEq, current, ← named]
  exact apart.eq_iff member within

theorem unknown_iff_elsewhere {first : R.State} {places : Set Position}
    (apart : Set.InjOn (nameAt R first) places) {V : Type} {map : OrderedMap MapStr.rank V}
    {noted : List Nat → Option Position}
    (known : ∀ entry ∈ map.entries, NotedAt first places noted entry.1.rank) {placed : Placed R}
    (rng : placed.tracker.rng = placed.position.state R first) (within : placed.position ∈ places) :
    map.find (generateUuid R placed.tracker.rng).1 = none ↔
      ∀ entry ∈ map.entries, noted entry.1.rank ≠ some placed.position := by
  rw [OrderedMap.find_eq_none]
  exact forall₂_congr fun entry member => not_congr (notedAt_iff apart (known entry member) rng within)

theorem fresh_iff_elsewhere {first : R.State} {places : Set Position} (apart : Set.InjOn (nameAt R first) places)
    {placed : Placed R} {event : Event} (located : Located first places placed)
    (within : Within places placed event) : Fresh placed event ↔ Elsewhere placed event := by
  have peers (logged : logsIn event = true) :=
    unknown_iff_elsewhere apart located.peers located.rng (within (Or.inl logged))
  have channels (registered : registers event = true) :=
    unknown_iff_elsewhere apart located.channels located.rng (within (Or.inr registered))
  constructor
  · intro fresh
    exact ⟨fun logged => (peers logged).mp (fresh.login logged).1,
      fun registered => (channels registered).mp (fresh.registration registered).1⟩
  · intro elsewhere
    refine ⟨fun logged => ?_, fun registered => ?_⟩
    · have unknown := (peers logged).mpr (elsewhere.login logged)
      exact ⟨unknown, fun after taken key entry present => login_keeps logged unknown taken present⟩
    · have unknown := (channels registered).mpr (elsewhere.registration registered)
      exact ⟨unknown, fun after taken key entry present => registration_keeps registered unknown taken present⟩

/-- Where the generator gives different texts at the different places at which a run draws its uuids,
everybody gets a uuid that nobody has just if none of them is drawn where that of somebody still there
was. -/
theorem uuids_fresh_iff {first : R.State} {unset : UInt32} {events : List Event} {places : Set Position}
    (apart : Set.InjOn (nameAt R first) places)
    (within : Along stepPlaced (.start first unset) events (Within places)) :
    Along stepPlaced (.start first unset) events Fresh ↔ Along stepPlaced (.start first unset) events Elsewhere :=
  along_iff_under (Located first places) (located_start first unset places) within
    (fun _ _ _ located within taken => located_step located within taken)
    fun _ _ located within => fresh_iff_elsewhere apart located within

instance (placed : Placed .counting) (event : Event) : Decidable (Elsewhere placed event) :=
  decidable_of_iff ((_ → _) ∧ (_ → _)) ⟨fun both => ⟨both.1, both.2⟩, fun elsewhere =>
    ⟨elsewhere.login, elsewhere.registration⟩⟩

instance (places : List Position) (placed : Placed .counting) (event : Event) :
    Decidable (Within {place | place ∈ places} placed event) :=
  inferInstanceAs (Decidable (_ → placed.position ∈ places))

def undrawn : Placed .counting := .start (1 : Nat) 0

def loginIn (env : Env) : Event :=
  .datagram ((Request.login ⟨0, .fill _ 0, 0, 0, 1, [0x0100007f]⟩).datagram .init env)

def askIn (env : Env) : Event := .datagram ((Request.reqRes ⟨.fill _ 97, .fill _ 97⟩).datagram .init env)

/-- Somebody asks for a channel before each of two logins, all within one second: both are given
the same uuid. -/
theorem same_uuid_twice :
    ¬Along stepPlaced undrawn [askIn second100, loginIn second100, askIn second100, loginIn second100] Fresh := by
  intro fresh
  let past : List Event := [askIn second100, loginIn second100, askIn second100]
  obtain ⟨placed, reached, known⟩ := (Option.any_eq_true _ _).mp
    (show (run stepPlaced undrawn past).any (fun placed =>
      (placed.tracker.npnodeMap.find (generateUuid .counting placed.tracker.rng).1).isSome) = true by decide +kernel)
  have logged : logsIn (loginIn second100) = true := by decide +kernel
  have unknown := ((fresh past (loginIn second100) [] placed rfl reached).login logged).1
  rw [unknown] at known
  cases known

def twoSeconds : List Event :=
  let second150 : Env := { second100 with now := 150 }
  [loginIn second100, askIn second100, loginIn second100, loginIn second100, askIn second150, loginIn second150,
    .datagram ((Request.register ⟨7, .fill _ 0, 0⟩).datagram .init second150)]

def fivePlaces : List Position := [⟨none, 0⟩, ⟨some 100, 0⟩, ⟨some 100, 4⟩, ⟨some 150, 0⟩, ⟨some 150, 4⟩]

theorem two_seconds_fresh : Along stepPlaced undrawn twoSeconds Fresh := by
  have apart : Set.InjOn (nameAt .counting (1 : Nat)) {place | place ∈ fivePlaces} :=
    show ∀ first ∈ fivePlaces, ∀ second ∈ fivePlaces,
      nameAt .counting (1 : Nat) first = nameAt .counting (1 : Nat) second → first = second by decide +kernel
  have within : check stepPlaced (fun placed event => decide (Within {place | place ∈ fivePlaces} placed event))
      undrawn twoSeconds = true := by decide +kernel
  have elsewhere : check stepPlaced (fun placed event => decide (Elsewhere placed event)) undrawn twoSeconds =
      true := by decide +kernel
  exact (uuids_fresh_iff apart (along_of_check (fun _ _ inside => of_decide_eq_true inside) within)).mpr
    (along_of_check (fun _ _ held => of_decide_eq_true held) elsewhere)

end RabbitStreamer.Tracker.Freshness
