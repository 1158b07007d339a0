import RabbitStreamer.Tracker.ResourceList

/-! The texts that `generate_uuid` writes: their room in the array, and what the bytes of a welcome
find when they come back. -/

namespace RabbitStreamer.Tracker.UuidTexts
open RabbitStreamer.Lib RabbitStreamer.Lib.Bytes RabbitStreamer.Lib.Transition RabbitStreamer.Core.Struct
open RabbitStreamer.Core.StructDefine RabbitStreamer.Core.Message RabbitStreamer.Core.MessageCodec
open RabbitStreamer.Tracker.Uuid RabbitStreamer.Tracker.NpManager RabbitStreamer.Tracker.StreamerManager
open RabbitStreamer.Tracker.State RabbitStreamer.Tracker.Server RabbitStreamer.Tracker.ResourceList

variable {R : Rand}

def Fits (draws : Draws) : Prop := (draws.format ++ [0]).length ≤ UUID_LENGTH + 1

/-- A request that carries the bytes finds the node in a map of the tracker, and at any later time
whatever is stored under the uuid then. -/
structure Finds {V : Type} (map : TrackerState R → OrderedMap MapStr.rank V) (after : TrackerState R)
    (uuid : ByteArr UUID_LENGTH) (digits : MapStr) (node : V) : Prop where
  now : ∃ key, (map after).find (.ofUuid uuid) = some (key, node)
  later : ∀ events final, run step after events = some final →
    (map final).find (.ofUuid uuid) = (map final).find digits

/-- A datagram is answered with a welcome, and its 16 bytes behind size and type find the node. -/
def Welcomed {V : Type} (map : TrackerState R → OrderedMap MapStr.rank V) (tracker : TrackerState R)
    (datagram : Datagram) (digits : MapStr) (node : V) : Prop :=
  ∃ after payload, receive tracker datagram = .ok (after, [.sendto datagram.lastReceiveAddr payload]) ∧
    ∀ uuid : ByteArr UUID_LENGTH, uuid.data = (payload.drop 5).take UUID_LENGTH → Finds map after uuid digits node

/-- The text fits, and whoever logs in or registers with it is found by what it is sent. -/
structure Usable (draws : Draws) : Prop where
  fits : Fits draws
  peer : ∀ {R : Rand} (tracker : TrackerState R), (Draws.next R tracker.rng).1 = draws →
    ∀ datagram login, datagram.request = .ok (some (.login login)) → login.localIpListSize ≠ 0 →
      Welcomed TrackerState.npnodeMap tracker datagram (uuidOf draws)
        (NpConnector.loginNode login datagram.lastReceiveAddr datagram.env.now (uuidOf draws)).assign
  superPeer : ∀ {R : Rand} (rng : R.State) (unset : UInt32) (events : List Event) (tracker : TrackerState R),
    run step (.start R rng unset) events = some tracker → (Draws.next R tracker.rng).1 = draws →
    ∀ datagram register, datagram.request = .ok (some (.register register)) →
      Welcomed TrackerState.channelMap tracker datagram (uuidOf draws)
        (SpConnector.registerNode register datagram.lastReceiveAddr datagram.env.now)

theorem fits_iff (draws : Draws) : Fits draws ↔
    draws.r1.val < 65536 ∧ draws.r2.val < 65536 ∧ draws.r3.val < 65536 ∧ draws.r4.val < 65536 := by
  have short : ∀ r : Fin 2147483648, (hex04 r).length ≤ 4 ↔ r.val < 65536 := fun r =>
    hex04_length_le_iff (lt_trans r.isLt (by decide))
  have long : ∀ r : Fin 2147483648, 4 ≤ (hex04 r).length := fun r => by
    rw [hex04_length]
    exact Nat.le_add_left 4 _
  have first := long draws.r1
  have second := long draws.r2
  have third := long draws.r3
  have fourth := long draws.r4
  rw [Fits, List.length_append, List.length_singleton, Draws.format_length, ← short, ← short, ← short, ← short]
  unfold UUID_LENGTH
  omega

theorem generateUuid_of_draws {rng : R.State} {draws : Draws} (drawn : (Draws.next R rng).1 = draws) :
    generateUuid R rng = (uuidOf draws, (Draws.next R rng).2) := by
  rw [← drawn]
  rfl

theorem take_frame {tag : UInt8} (digits : MapStr) (behind : List UInt8) :
    ((frame tag (digits.uuid.data ++ behind)).drop 5).take UUID_LENGTH = digits.uuid.data := by
  have head : (le32 (UInt32.ofNat (5 + (digits.uuid.data ++ behind).length)) ++ [tag]).length = 5 := by simp
  rw [frame, List.drop_left' head, List.take_left' digits.uuid.size]

theorem find_returned {V : Type} {uuid : ByteArr UUID_LENGTH} {digits : MapStr}
    (returned : uuid.data = digits.uuid.data) (map : OrderedMap MapStr.rank V) :
    map.find (.ofUuid uuid) = map.find digits := by
  rw [ByteArr.ext_data returned]
  exact map.find_congr (MapStr.rank_ofUuid_uuid digits)

theorem welcomed_of_received {V : Type} {map : TrackerState R → OrderedMap MapStr.rank V}
    {tracker after : TrackerState R} {datagram : Datagram} {digits : MapStr} {node : V} {tag : UInt8}
    {behind : List UInt8} (received : receive tracker datagram =
      .ok (after, [.sendto datagram.lastReceiveAddr (frame tag (digits.uuid.data ++ behind))]))
    (stored : ∃ key, (map after).find digits = some (key, node)) : Welcomed map tracker datagram digits node := by
  refine ⟨after, _, received, fun uuid sent => ?_⟩
  have returned := sent.trans (take_frame digits behind)
  constructor
  · rw [find_returned returned]
    exact stored
  · exact fun events final ran => find_returned returned (map final)

theorem login_welcomed {tracker : TrackerState R} {draws : Draws} (drawn : (Draws.next R tracker.rng).1 = draws)
    {datagram : Datagram} {login : Np2TsLogin} (found : datagram.request = .ok (some (.login login)))
    (addresses : login.localIpListSize ≠ 0) :
    Welcomed TrackerState.npnodeMap tracker datagram (uuidOf draws)
      (NpConnector.loginNode login datagram.lastReceiveAddr datagram.env.now (uuidOf draws)).assign := by
  have received := (receive_of_request found tracker).trans
    (NpConnector.getLogin_some addresses (generateUuid_of_draws drawn) datagram.lastReceiveAddr datagram.env)
  exact welcomed_of_received received (find_insertNode tracker.npnodeMap (uuidOf draws) _)

theorem assign_registerNode (register : Sp2TsRegister) (lastReceiveAddr : NetAddress) (now : Int) :
    (SpConnector.registerNode register lastReceiveAddr now).assign now =
      .ok (SpConnector.registerNode register lastReceiveAddr now) := by
  have consistent : (SpConnector.registerNode register lastReceiveAddr now).Consistent := rfl
  exact consistent.assign now

theorem registration_welcomed {tracker : TrackerState R} (consistent : Consistent tracker.channelMap) {draws : Draws}
    (drawn : (Draws.next R tracker.rng).1 = draws) {datagram : Datagram} {register : Sp2TsRegister}
    (found : datagram.request = .ok (some (.register register))) :
    Welcomed TrackerState.channelMap tracker datagram (uuidOf draws)
      (SpConnector.registerNode register datagram.lastReceiveAddr datagram.env.now) := by
  have copied := assign_registerNode register datagram.lastReceiveAddr datagram.env.now
  obtain ⟨channelMap, inserted⟩ := insertChannel_fits consistent datagram.env.now (uuidOf draws)
    (ChannelNode.assign_eq_ok.mp copied).1
  have registered := SpConnector.getRegister_eq (generateUuid_of_draws drawn) register datagram.lastReceiveAddr
    datagram.env
  rw [inserted] at registered
  have received := (receive_of_request found tracker).trans registered
  rw [SpConnector.welcomeFrame, ← List.append_nil (uuidOf draws).uuid.data] at received
  exact welcomed_of_received received (find_insertChannel inserted copied)

/-- A uuid is usable just where each of the four numbers is written with four digits. -/
theorem generated_uuid_usable_iff (draws : Draws) : Usable draws ↔
    draws.r1.val < 65536 ∧ draws.r2.val < 65536 ∧ draws.r3.val < 65536 ∧ draws.r4.val < 65536 := by
  rw [← fits_iff]
  constructor
  · intro usable
    exact usable.fits
  · intro fits
    exact {
      fits
      peer := fun _ drawn _ _ found addresses => login_welcomed drawn found addresses
      superPeer := fun _ _ _ _ reached drawn _ _ found =>
        registration_welcomed (consistent_run reached) drawn found }

/-- Four results of eight digits each. -/
theorem large_draws_unusable : ¬ ∀ draws : Draws, Usable draws := by
  intro usable
  have fits := (usable ⟨1804289383, 846930886, 1681692777, 1714636915⟩).fits
  exact absurd fits (by unfold Fits; decide +kernel)

end RabbitStreamer.Tracker.UuidTexts
