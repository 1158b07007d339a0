import RabbitStreamer.Tracker.NpConnector

/-! The peers that the tracker takes to be reachable from outside, from the addresses they list. -/

namespace RabbitStreamer.Tracker.PublicPeers
open RabbitStreamer.Core.Struct RabbitStreamer.Core.Streamer RabbitStreamer.Core.Message RabbitStreamer.Tracker.Uuid
open RabbitStreamer.Tracker.NpManager RabbitStreamer.Tracker.State RabbitStreamer.Tracker.NpConnector

variable {R : Rand}

def isPrivate (ip : UInt32) : Bool := { NetAddress.init with sAddr := ip }.isNatIP

/-- The address is in the list with no private one behind it. -/
def LastNamed (source : UInt32) (ipAddr : List UInt32) : Prop :=
  ∃ before behind, ipAddr = before ++ source :: behind ∧ ∀ ip ∈ behind, isPrivate ip = false

/-- The login is answered, and what is stored for the peer and sent to it says that it can be reached
at its port. -/
def TakenForPublic (login : Np2TsLogin) (tracker : TrackerState R) (lastReceiveAddr : NetAddress)
    (result : Except Halt (TrackerState R × List Sent)) : Prop :=
  ∃ after node, result = .ok (after, [.sendto lastReceiveAddr
      (welcomeFrame (generateUuid R tracker.rng).1 node.clientAddress)]) ∧
    after.npnodeMap.getNode (generateUuid R tracker.rng).1 = some node ∧
    node.clientAddress.isNAT = false ∧ node.clientAddress.subnetIP.sinPort = login.listeningPort

theorem isNatIP_eq_isPrivate (address : NetAddress) : address.isNatIP = isPrivate address.sAddr := rfl

theorem isPrivate_ne {ip : UInt32} (isPriv : isPrivate ip = true) : ip ≠ 0xffffffff := by
  rintro rfl
  exact absurd isPriv (by decide)

theorem chooseNat_eq (remoteNormal : NetAddress) (port : UInt16) (choice : NetAddress × NetAddress) (ip : UInt32) :
    chooseNat remoteNormal port choice ip =
      (if ip = remoteNormal.sAddr then { choice.1 with sinPort := port, sAddr := 0xffffffff } else choice.1,
        if isPrivate ip = true then ⟨AF_INET, port, ip⟩
        else if ip = remoteNormal.sAddr then remoteNormal else choice.2) := by
  unfold chooseNat isPrivate
  by_cases same : ip = remoteNormal.sAddr
  · simp only [if_pos same]
    split_ifs <;> rfl
  · simp only [if_neg same]
    split_ifs <;> rfl

theorem lastNamed_snoc {source ip : UInt32} {before : List UInt32} :
    LastNamed source (before ++ [ip]) ↔ ip = source ∨ isPrivate ip = false ∧ LastNamed source before := by
  constructor
  · rintro ⟨first, behind, split, later⟩
    rcases List.eq_nil_or_concat behind with rfl | ⟨more, last, rfl⟩
    · exact Or.inl (List.cons.inj (List.append_inj' split rfl).2).1
    · rw [List.concat_eq_append, ← List.cons_append, ← List.append_assoc] at split
      obtain ⟨rfl, same⟩ := List.append_inj' split rfl
      cases same
      simp only [List.concat_eq_append, List.mem_append, List.mem_singleton] at later
      exact Or.inr ⟨later ip (Or.inr rfl), first, more, rfl, fun other member => later other (Or.inl member)⟩
  · rintro (rfl | ⟨outside, first, behind, rfl, later⟩)
    · exact ⟨before, [], rfl, fun _ member => absurd member List.not_mem_nil⟩
    · refine ⟨first, behind ++ [ip], by simp, fun other member => ?_⟩
      rcases List.mem_append.mp member with old | last
      · exact later other old
      · exact List.mem_singleton.mp last ▸ outside

section List

variable {remoteNormal : NetAddress} {port : UInt16} {ipAddr : List UInt32}

def chosen (remoteNormal : NetAddress) (port : UInt16) (ipAddr : List UInt32) : NetAddress × NetAddress :=
  ipAddr.foldl (chooseNat remoteNormal port) (NetAddress.zero, NetAddress.init)

theorem chosen_snoc (ip : UInt32) : chosen remoteNormal port (ipAddr ++ [ip]) =
    chooseNat remoteNormal port (chosen remoteNormal port ipAddr) ip := by
  rw [chosen, List.foldl_append]
  rfl

theorem chosen_subnetIP (named : remoteNormal.sAddr ∈ ipAddr) :
    (chosen remoteNormal port ipAddr).1.sAddr = 0xffffffff ∧ (chosen remoteNormal port ipAddr).1.sinPort = port := by
  induction ipAddr using List.reverseRecOn with
  | nil => exact absurd named List.not_mem_nil
  | append_singleton before ip ih =>
    rw [chosen_snoc, chooseNat_eq]
    by_cases same : ip = remoteNormal.sAddr
    · rw [if_pos same]
      exact ⟨rfl, rfl⟩
    · rw [if_neg same]
      exact ih ((List.mem_append.mp named).resolve_right fun last =>
        same (List.mem_singleton.mp last).symm)

theorem chosen_natAddr (outside : isPrivate remoteNormal.sAddr = false) :
    (chosen remoteNormal port ipAddr).2.isNatIP = false ↔
      (∀ ip ∈ ipAddr, isPrivate ip = false) ∨ LastNamed remoteNormal.sAddr ipAddr := by
  induction ipAddr using List.reverseRecOn with
  | nil => exact iff_of_true rfl (Or.inl fun _ member => absurd member List.not_mem_nil)
  | append_singleton before ip ih =>
    rw [chosen_snoc, chooseNat_eq, lastNamed_snoc]
    simp only [List.forall_mem_append, List.forall_mem_singleton]
    by_cases within : isPrivate ip = true
    · have other : ip ≠ remoteNormal.sAddr := by
        rintro rfl
        exact absurd (outside.symm.trans within) (by decide)
      rw [if_pos within, isNatIP_eq_isPrivate]
      simp [within, other]
    · have beyond : isPrivate ip = false := Bool.eq_false_iff.mpr within
      rw [if_neg within]
      by_cases same : ip = remoteNormal.sAddr
      · rw [if_pos same, isNatIP_eq_isPrivate]
        simp [same, outside]
      · rw [if_neg same, ih]
        simp [same, beyond]

theorem lastNamed_of_outside {source : UInt32} (named : source ∈ ipAddr)
    (outside : ∀ ip ∈ ipAddr, isPrivate ip = false) : LastNamed source ipAddr := by
  obtain ⟨before, behind, rfl⟩ := List.append_of_mem named
  exact ⟨before, behind, rfl, fun ip member => outside ip (by simp [member])⟩

theorem clientAddress_eq (remoteNormal : NetAddress) (port : UInt16) (ipAddr : List UInt32) :
    clientAddress remoteNormal port ipAddr = ⟨remoteNormal,
      if (chosen remoteNormal port ipAddr).2.isNatIP = true then (chosen remoteNormal port ipAddr).2
      else (chosen remoteNormal port ipAddr).1⟩ := rfl

theorem clientAddress_public_iff (outside : isPrivate remoteNormal.sAddr = false)
    (named : remoteNormal.sAddr ∈ ipAddr) :
    ((clientAddress remoteNormal port ipAddr).isNAT = false ∧
      (clientAddress remoteNormal port ipAddr).subnetIP.sinPort = port) ↔ LastNamed remoteNormal.sAddr ipAddr := by
  have decided := @chosen_natAddr remoteNormal port ipAddr outside
  rw [or_iff_right_of_imp (lastNamed_of_outside named)] at decided
  rw [← decided, clientAddress_eq]
  cases nat : (chosen remoteNormal port ipAddr).2.isNatIP with
  | false =>
    obtain ⟨marked, listening⟩ := @chosen_subnetIP remoteNormal port ipAddr named
    simp [P2PAddress.isNAT, marked, listening]
  | true =>
    have reserved := isPrivate_ne nat
    simp [P2PAddress.isNAT, reserved.symm]

end List

theorem takenForPublic_iff {login : Np2TsLogin} (listed : login.localIpListSize ≠ 0) {tracker : TrackerState R}
    {lastReceiveAddr : NetAddress} {env : Env} :
    TakenForPublic login tracker lastReceiveAddr (getLogin login tracker lastReceiveAddr env) ↔
      (clientAddress ⟨AF_INET, lastReceiveAddr.sinPort, lastReceiveAddr.sAddr⟩ login.listeningPort
        login.ipAddr).isNAT = false ∧
      (clientAddress ⟨AF_INET, lastReceiveAddr.sinPort, lastReceiveAddr.sAddr⟩ login.listeningPort
        login.ipAddr).subnetIP.sinPort = login.listeningPort := by
  cases drawn : generateUuid R tracker.rng with
  | mk uuid rng =>
    have read := getNode_insertNode tracker.npnodeMap uuid (loginNode login lastReceiveAddr env.now uuid)
    rw [getLogin_some listed drawn, TakenForPublic, drawn]
    constructor
    · rintro ⟨after, node, answered, stored, taken⟩
      rw [← (Prod.mk.inj (Except.ok.inj answered)).1, read] at stored
      cases stored
      exact taken
    · intro taken
      exact ⟨_, _, rfl, read, taken⟩

/-- A peer whose source is a public address of its list is taken for public just where no private one
comes after. -/
theorem public_peer_iff (login : Np2TsLogin) (listed : login.localIpListSize ≠ 0) (tracker : TrackerState R)
    (lastReceiveAddr : NetAddress) (outside : lastReceiveAddr.isNatIP = false)
    (named : lastReceiveAddr.sAddr ∈ login.ipAddr) (env : Env) :
    TakenForPublic login tracker lastReceiveAddr (getLogin login tracker lastReceiveAddr env) ↔
      LastNamed lastReceiveAddr.sAddr login.ipAddr :=
  (takenForPublic_iff listed).trans (clientAddress_public_iff outside named)

def listing (ipAddr : List UInt32) : Np2TsLogin := ⟨1, .fill _ 97, 0, 80, 2, ipAddr⟩

theorem public_address_last : TakenForPublic (listing [0x0100000a, 0x08080808]) (.start .counting (0 : Nat) 0)
    ⟨AF_INET, 5, 0x08080808⟩
    (getLogin (listing [0x0100000a, 0x08080808]) (.start .counting (0 : Nat) 0) ⟨AF_INET, 5, 0x08080808⟩
      ⟨0, fun _ => 0, 0, 0, 0, 255⟩) :=
  (public_peer_iff (listing [0x0100000a, 0x08080808]) (by decide) (.start .counting (0 : Nat) 0)
    ⟨AF_INET, 5, 0x08080808⟩ (by decide +kernel) (by simp [listing]) ⟨0, fun _ => 0, 0, 0, 0, 255⟩).mpr
      ⟨[0x0100000a], [], rfl, by simp⟩

/-- In the other order it is taken to be behind a NAT. -/
theorem private_address_last : ¬ ∀ (login : Np2TsLogin) (tracker : TrackerState .counting)
    (lastReceiveAddr : NetAddress) (env : Env), login.localIpListSize ≠ 0 → lastReceiveAddr.isNatIP = false →
      lastReceiveAddr.sAddr ∈ login.ipAddr →
        TakenForPublic login tracker lastReceiveAddr (getLogin login tracker lastReceiveAddr env) := by
  intro taken
  have reached := takenForPublic_iff (by decide) |>.mp (taken (listing [0x08080808, 0x0100000a])
    (.start .counting (0 : Nat) 0) ⟨AF_INET, 5, 0x08080808⟩ ⟨0, fun _ => 0, 0, 0, 0, 255⟩ (by decide)
    (by decide +kernel) (by simp [listing]))
  exact absurd reached.1 (by decide +kernel)

end RabbitStreamer.Tracker.PublicPeers
