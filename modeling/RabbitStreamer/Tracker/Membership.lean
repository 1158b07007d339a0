import Mathlib.Data.List.Induction
import Mathlib.Data.Set.Basic
import Mathlib.Logic.Function.Basic
import RabbitStreamer.Core.Struct

/-! What a tracker is for, apart from how it keeps it: which peers are there, what each of them
watches and which blocks it has, and which super peers carry which channels. -/

namespace RabbitStreamer.Tracker.Membership
open RabbitStreamer.Core.Struct

/-- A peer as others get to know it, the channel it watches, when it last asked for peers, and the
blocks that it has reported. -/
structure Peer (C : Type) where
  contact : PeerInfoWithAddr
  channel : C
  since : Int
  blocks : Set Nat

structure Carrier (C : Type) where
  address : NetAddress
  resources : List (C × BlockInterval)

structure Registry (N C : Type) where
  peers : N → Option (Peer C)
  carriers : N → Option (Carrier C)

/-- What can be done at a tracker. A peer that asks without naming a channel means the one it watches. -/
inductive Deed (N C : Type) where
  | idle
  | join (name : N) (peer : Peer C)
  | ask (name : N) (channel : Option C) (now : Int)
  | report (name : N) (info : CorePeerInfo) (blocks : Set Nat)
  | leave (name : N)
  | expire (limit now : Int)
  | announce (name : N) (address : NetAddress)
  | stock (name : N) (resources : List (C × BlockInterval))
  | trim (name : N) (count : Nat)

variable {N C : Type}

namespace Registry

def empty : Registry N C := ⟨fun _ => none, fun _ => none⟩

def Carried (registry : Registry N C) (channel : C) : Prop :=
  ∃ name carrier interval, registry.carriers name = some carrier ∧ (channel, interval) ∈ carrier.resources

/-- An answer to a peer that asks for a channel from a block on: other peers on the channel that
have the block, a super peer that carries the channel, and any super peers besides. -/
structure Tells (registry : Registry N C) (asker : N) (channel : C) (block : Nat) (peers : List PeerInfoWithAddr)
    (sp : NetAddress) (others : List NetAddress) : Prop where
  peers : ∀ contact ∈ peers, ∃ name peer, name ≠ asker ∧ registry.peers name = some peer ∧
    peer.contact = contact ∧ peer.channel = channel ∧ block ∈ peer.blocks
  sp : ∃ name carrier interval, registry.carriers name = some carrier ∧ carrier.address = sp ∧
    (channel, interval) ∈ carrier.resources
  others : ∀ address ∈ others, ∃ name carrier, registry.carriers name = some carrier ∧ carrier.address = address

end Registry

open Classical in
noncomputable def asked (registry : Registry N C) (channel : Option C) (now : Int) (peer : Peer C) : Peer C :=
  let wanted := channel.getD peer.channel
  if registry.Carried wanted then { peer with channel := wanted, since := now } else peer

theorem asked_carried {registry : Registry N C} {channel : Option C} {peer : Peer C}
    (carried : registry.Carried (channel.getD peer.channel)) (now : Int) :
    asked registry channel now peer = { peer with channel := channel.getD peer.channel, since := now } :=
  if_pos carried

theorem asked_nowhere {registry : Registry N C} {channel : Option C} {peer : Peer C}
    (nowhere : ¬registry.Carried (channel.getD peer.channel)) (now : Int) : asked registry channel now peer = peer :=
  if_neg nowhere

theorem asked_blocks (registry : Registry N C) (channel : Option C) (now : Int) (peer : Peer C) :
    (asked registry channel now peer).blocks = peer.blocks := by
  simp only [asked]
  split_ifs <;> rfl

def reported (info : CorePeerInfo) (blocks : Set Nat) (peer : Peer C) : Peer C :=
  { peer with
    contact := { peer.contact with coreInfo := info }
    blocks := peer.blocks ∪ blocks }

section Perform
variable [DecidableEq N]

def revise {V : Type} (held : N → Option V) (name : N) (change : V → V) : N → Option V :=
  Function.update held name ((held name).map change)

theorem revise_unknown {V : Type} {held : N → Option V} {name : N} (unknown : held name = none) (change : V → V) :
    revise held name change = held := by
  rw [revise, unknown, Option.map_none, ← unknown, Function.update_eq_self]

theorem revise_known {V : Type} {held : N → Option V} {name : N} {value : V} (known : held name = some value)
    (change : V → V) : revise held name change = Function.update held name (some (change value)) := by
  rw [revise, known, Option.map_some]

def carry (carriers : N → Option (Carrier C)) : Deed N C → N → Option (Carrier C)
  | .announce name address => Function.update carriers name (some ⟨address, []⟩)
  | .stock name resources => revise carriers name fun carrier => { carrier with resources }
  | .trim name count => revise carriers name fun carrier =>
      { carrier with resources := carrier.resources.take count }
  | _ => carriers

namespace Registry

noncomputable def attend (registry : Registry N C) : Deed N C → N → Option (Peer C)
  | .join name peer => Function.update registry.peers name (some peer)
  | .ask name channel now => revise registry.peers name (asked registry channel now)
  | .report name info blocks => revise registry.peers name (reported info blocks)
  | .leave name => Function.update registry.peers name none
  | .expire limit now => fun name => (registry.peers name).filter fun peer => decide ¬limit < now - peer.since
  | _ => registry.peers

noncomputable def perform (registry : Registry N C) (deed : Deed N C) : Registry N C where
  peers := registry.attend deed
  carriers := carry registry.carriers deed

noncomputable def performAll (registry : Registry N C) (deeds : List (Deed N C)) : Registry N C :=
  deeds.foldl perform registry

end Registry

end Perform

/-- A deed that makes a new peer of this name, or takes it away. -/
def Deed.Renames (name : N) : Deed N C → Prop
  | .join other _ => other = name
  | .leave other => other = name
  | _ => False

def Deed.Reports (name : N) (block : Nat) : Deed N C → Prop
  | .report other _ blocks => other = name ∧ block ∈ blocks
  | _ => False

section History
variable [DecidableEq N]

theorem blocks_perform {registry : Registry N C} {deed : Deed N C} {name : N} {peer : Peer C}
    (known : (registry.perform deed).peers name = some peer) (same : ¬deed.Renames name) :
    ∃ before, registry.peers name = some before ∧
      ∀ block, block ∈ peer.blocks ↔ block ∈ before.blocks ∨ deed.Reports name block := by
  have unchanged : registry.peers name = some peer → (∀ block, ¬deed.Reports name block) →
      ∃ before, registry.peers name = some before ∧
        ∀ block, block ∈ peer.blocks ↔ block ∈ before.blocks ∨ deed.Reports name block :=
    fun before untold => ⟨peer, before, fun block => (or_iff_left (untold block)).symm⟩
  have revised : ∀ {other : N} {change : Peer C → Peer C},
      revise registry.peers other change name = some peer →
      ∃ before, registry.peers name = some before ∧
        (peer = before ∧ name ≠ other ∨ peer = change before ∧ name = other) := by
    intro other change after
    by_cases self : name = other
    · rw [revise, self, Function.update_self] at after
      obtain ⟨before, listed, rfl⟩ := Option.map_eq_some_iff.mp after
      exact ⟨before, self ▸ listed, Or.inr ⟨rfl, self⟩⟩
    · rw [revise, Function.update_of_ne self] at after
      exact ⟨peer, after, Or.inl ⟨rfl, self⟩⟩
  cases deed with
  | idle => exact unchanged known fun _ => id
  | join other new =>
    have apart : name ≠ other := fun self => same self.symm
    simp only [Registry.perform, Registry.attend, Function.update_of_ne apart] at known
    exact unchanged known fun _ => id
  | ask other channel now =>
    obtain ⟨before, listed, ⟨rfl, _⟩ | ⟨rfl, _⟩⟩ := revised known
    · exact unchanged listed fun _ => id
    · refine ⟨before, listed, fun block => ?_⟩
      rw [asked_blocks]
      exact (or_iff_left id).symm
  | report other info blocks =>
    obtain ⟨before, listed, ⟨rfl, apart⟩ | ⟨rfl, self⟩⟩ := revised known
    · exact unchanged listed fun _ reports => apart reports.1.symm
    · refine ⟨before, listed, fun block => ?_⟩
      show block ∈ before.blocks ∪ blocks ↔ block ∈ before.blocks ∨ other = name ∧ block ∈ blocks
      rw [and_iff_right self.symm, Set.mem_union]
  | leave other =>
    have apart : name ≠ other := fun self => same self.symm
    simp only [Registry.perform, Registry.attend, Function.update_of_ne apart] at known
    exact unchanged known fun _ => id
  | expire limit now =>
    exact unchanged (Option.filter_eq_some_iff.mp known).1 fun _ => id
  | announce _ _ | stock _ _ | trim _ _ => exact unchanged known fun _ => id

theorem joined_of_renames {registry : Registry N C} {deed : Deed N C} {name : N} {peer : Peer C}
    (known : (registry.perform deed).peers name = some peer) (renames : deed.Renames name) :
    deed = .join name peer := by
  cases deed with
  | join other new =>
    cases renames
    simp only [Registry.perform, Registry.attend, Function.update_self, Option.some.injEq] at known
    rw [known]
  | leave other =>
    cases renames
    simp [Registry.perform, Registry.attend] at known
  | _ => exact renames.elim

/-- A peer that is there has joined, and since then its blocks are those it joined with and those
that its reports have named. -/
theorem blocks_since_join {deeds : List (Deed N C)} {name : N} {peer : Peer C}
    (known : (Registry.empty.performAll deeds).peers name = some peer) :
    ∃ past joined later, deeds = past ++ .join name joined :: later ∧
      (∀ deed ∈ later, ¬deed.Renames name) ∧
      ∀ block, block ∈ peer.blocks ↔ block ∈ joined.blocks ∨ ∃ deed ∈ later, deed.Reports name block := by
  induction deeds using List.reverseRecOn generalizing peer with
  | nil => cases known
  | append_singleton past deed ih =>
    rw [Registry.performAll, List.foldl_append, List.foldl_cons, List.foldl_nil] at known
    by_cases renames : deed.Renames name
    · cases joined_of_renames known renames
      refine ⟨past, peer, [], rfl, ?_, ?_⟩
      · exact fun _ member => absurd member List.not_mem_nil
      · exact fun block => (or_iff_left fun ⟨_, member, _⟩ => absurd member List.not_mem_nil).symm
    · obtain ⟨before, listed, grown⟩ := blocks_perform known renames
      obtain ⟨earlier, joined, later, split, same, held⟩ := ih listed
      refine ⟨earlier, joined, later ++ [deed], by rw [split]; simp, ?_, fun block => ?_⟩
      · intro other member
        rcases List.mem_append.mp member with old | new
        · exact same other old
        · exact List.mem_singleton.mp new ▸ renames
      · rw [grown, held, or_assoc]
        simp only [List.mem_append, List.mem_singleton, or_and_right, exists_or, exists_eq_left]

def Deed.Restocks (name : N) : Deed N C → Prop
  | .announce other _ => other = name
  | .stock other _ => other = name
  | _ => False

theorem resources_carry {carriers : N → Option (Carrier C)} {deed : Deed N C} {name : N} {carrier : Carrier C}
    (known : carry carriers deed name = some carrier) (same : ¬deed.Restocks name) :
    ∃ before, carriers name = some before ∧ carrier.address = before.address ∧
      ∀ resource ∈ carrier.resources, resource ∈ before.resources := by
  cases deed with
  | announce other address =>
    rw [carry, Function.update_of_ne fun self => same self.symm] at known
    exact ⟨carrier, known, rfl, fun _ => id⟩
  | stock other resources =>
    rw [carry, revise, Function.update_of_ne fun self => same self.symm] at known
    exact ⟨carrier, known, rfl, fun _ => id⟩
  | trim other count =>
    by_cases self : name = other
    · rw [carry, revise, self, Function.update_self] at known
      obtain ⟨before, listed, rfl⟩ := Option.map_eq_some_iff.mp known
      exact ⟨before, self ▸ listed, rfl, fun _ => List.mem_of_mem_take⟩
    · rw [carry, revise, Function.update_of_ne self] at known
      exact ⟨carrier, known, rfl, fun _ => id⟩
  | _ => exact ⟨carrier, known, rfl, fun _ => id⟩

theorem listed_last {deeds : List (Deed N C)} {name : N} {carrier : Carrier C}
    (known : deeds.foldl carry (fun _ => none) name = some carrier) {resource : C × BlockInterval}
    (carried : resource ∈ carrier.resources) :
    ∃ past resources later, deeds = past ++ .stock name resources :: later ∧ resource ∈ resources ∧
      ∀ deed ∈ later, ¬deed.Restocks name := by
  induction deeds using List.reverseRecOn generalizing carrier with
  | nil => cases known
  | append_singleton past deed ih =>
    rw [List.foldl_append, List.foldl_cons, List.foldl_nil] at known
    by_cases restocks : deed.Restocks name
    · cases deed with
      | announce other address =>
        cases restocks
        rw [carry, Function.update_self] at known
        cases known
        exact absurd carried List.not_mem_nil
      | stock other resources =>
        cases restocks
        rw [carry, revise, Function.update_self] at known
        obtain ⟨before, _, rfl⟩ := Option.map_eq_some_iff.mp known
        exact ⟨past, resources, [], rfl, carried, fun _ member => absurd member List.not_mem_nil⟩
      | _ => exact restocks.elim
    · obtain ⟨before, present, _, fewer⟩ := resources_carry known restocks
      obtain ⟨earlier, resources, later, split, listed, same⟩ := ih present (fewer resource carried)
      refine ⟨earlier, resources, later ++ [deed], by rw [split]; simp, listed, fun other member => ?_⟩
      rcases List.mem_append.mp member with old | new
      · exact same other old
      · exact List.mem_singleton.mp new ▸ restocks

end History

end RabbitStreamer.Tracker.Membership
