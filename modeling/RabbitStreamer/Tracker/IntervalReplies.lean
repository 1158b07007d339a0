import RabbitStreamer.Tracker.Isolation

/-! The reply to a request for an interval, when other peers have asked for theirs before. -/

namespace RabbitStreamer.Tracker.IntervalReplies
open RabbitStreamer.Lib.Transition RabbitStreamer.Core.Struct RabbitStreamer.Core.StructDefine
open RabbitStreamer.Core.Streamer RabbitStreamer.Core.Message RabbitStreamer.Core.Message.P2PMESSAGE
open RabbitStreamer.Core.MessageCodec
open RabbitStreamer.Tracker.Uuid RabbitStreamer.Tracker.NpManager RabbitStreamer.Tracker.StreamerManager
open RabbitStreamer.Tracker.State RabbitStreamer.Tracker.Server
open RabbitStreamer.Tracker.Isolation (clock twoWatchers)
open RabbitStreamer.Tracker.NpConnector RabbitStreamer.Tracker.SpConnector

variable {R : Rand}

def remembering (last : BlockInterval) (tracker : TrackerState R) : TrackerState R :=
  { tracker with lastSendBlockinterval := last }

@[simp] theorem remembering_npnodeMap (last : BlockInterval) (tracker : TrackerState R) :
    (remembering last tracker).npnodeMap = tracker.npnodeMap := rfl

@[simp] theorem remembering_channelMap (last : BlockInterval) (tracker : TrackerState R) :
    (remembering last tracker).channelMap = tracker.channelMap := rfl

@[simp] theorem remembering_rng (last : BlockInterval) (tracker : TrackerState R) :
    (remembering last tracker).rng = tracker.rng := rfl

def Alike (first second : TrackerState R) : Prop := ∃ last, second = remembering last first

theorem Alike.symm {first second : TrackerState R} (alike : Alike first second) : Alike second first := by
  obtain ⟨last, rfl⟩ := alike
  exact ⟨first.lastSendBlockinterval, rfl⟩

theorem Alike.trans {first second third : TrackerState R} (alike : Alike first second) (other : Alike second third) :
    Alike first third := by
  obtain ⟨last, rfl⟩ := alike
  obtain ⟨later, rfl⟩ := other
  exact ⟨later, rfl⟩

def Carried (last : BlockInterval) (result other : Except Halt (TrackerState R × List Sent)) : Prop :=
  other = result.map fun done => (remembering last done.1, done.2)

theorem carried_sendPeers (uuid : MapStr) (resHash : MD5HashStr) (currentblockID : UInt32) (last : BlockInterval)
    (tracker : TrackerState R) (lastReceiveAddr : NetAddress) (env : Env) :
    Carried last (sendPeers uuid resHash currentblockID tracker lastReceiveAddr env)
      (sendPeers uuid resHash currentblockID (remembering last tracker) lastReceiveAddr env) := by
  unfold Carried sendPeers
  simp only [remembering_npnodeMap, remembering_channelMap, remembering_rng]
  cases tracker.npnodeMap.getNpAddress R ⟨resHash, uuid, 20, currentblockID⟩ env.passes tracker.rng with
  | error reason => rfl
  | ok found =>
    generalize tracker.channelMap.getCpAddress R env.now 10 = chosen
    generalize tracker.channelMap.getSpAddress resHash 1 = sps
    obtain ⟨cps, rng⟩ := chosen
    cases cps with
    | nil => rfl
    | cons cp more =>
      cases sps with
      | nil => rfl
      | cons sp others =>
        unfold answerPeers
        cases tracker.npnodeMap.getNode uuid with
        | none =>
          simp only [sendMsg_eq]
          rfl
        | some stored =>
          obtain ⟨payload, packed⟩ :=
            pack_peers env.heap ⟨UInt8.ofNat (cp :: more).length, cp :: more, UInt8.ofNat found.1.length, found.1, sp⟩
          simp only [sendBuffer, packed]
          rfl

theorem carried_getLogin (login : Np2TsLogin) (last : BlockInterval) (tracker : TrackerState R)
    (lastReceiveAddr : NetAddress) (env : Env) :
    Carried last (getLogin login tracker lastReceiveAddr env)
      (getLogin login (remembering last tracker) lastReceiveAddr env) := by
  by_cases addresses : login.localIpListSize = 0
  · rw [getLogin_none addresses, getLogin_none addresses]
    rfl
  · rw [getLogin_some addresses rfl, getLogin_some addresses rfl]
    rfl

theorem carried_getNeedPeers (needPeers : Np2TsNeedPeers) (last : BlockInterval) (tracker : TrackerState R)
    (lastReceiveAddr : NetAddress) (env : Env) :
    Carried last (getNeedPeers needPeers tracker lastReceiveAddr env)
      (getNeedPeers needPeers (remembering last tracker) lastReceiveAddr env) := by
  unfold getNeedPeers
  simp only [remembering_npnodeMap]
  cases tracker.npnodeMap.getNode (.ofUuid needPeers.uuid) with
  | none => rfl
  | some stored => exact carried_sendPeers _ _ needPeers.currentBlock last tracker lastReceiveAddr env

theorem carried_updateChannel (uuid : MapStr) (change : ChannelNode → ChannelNode) (last : BlockInterval)
    (tracker : TrackerState R) (lastReceiveAddr : NetAddress) (env : Env) :
    Carried last (updateChannel uuid change tracker lastReceiveAddr env)
      (updateChannel uuid change (remembering last tracker) lastReceiveAddr env) := by
  cases found : tracker.channelMap.find uuid with
  | none =>
    have absent : (remembering last tracker).channelMap.find uuid = none := found
    rw [updateChannel_unknown found, updateChannel_unknown absent]
    rfl
  | some entry =>
    have present : (remembering last tracker).channelMap.find uuid = some entry := found
    rw [updateChannel_known found, updateChannel_known present, remembering_channelMap]
    cases entry.2.assign env.now with
    | error reason => rfl
    | ok pNode =>
      show Except.map _ (tracker.channelMap.insertChannel env.now uuid (change pNode)) =
        Except.map _ (Except.map _ _)
      cases tracker.channelMap.insertChannel env.now uuid (change pNode) <;> rfl

theorem carried_getRegister (register : Sp2TsRegister) (last : BlockInterval) (tracker : TrackerState R)
    (lastReceiveAddr : NetAddress) (env : Env) :
    Carried last (getRegister register tracker lastReceiveAddr env)
      (getRegister register (remembering last tracker) lastReceiveAddr env) := by
  obtain ⟨uuid, rng, drawn⟩ : ∃ uuid rng, generateUuid R tracker.rng = (uuid, rng) := ⟨_, _, rfl⟩
  unfold Carried
  rw [getRegister_eq drawn,
    getRegister_eq (show generateUuid R (remembering last tracker).rng = (uuid, rng) from drawn),
    remembering_channelMap]
  cases tracker.channelMap.insertChannel env.now uuid (registerNode register lastReceiveAddr env.now) <;> rfl

theorem carried_getReport (report : Np2TsReport) (last : BlockInterval) (tracker : TrackerState R)
    (lastReceiveAddr : NetAddress) (env : Env) :
    Carried last (getReport report tracker lastReceiveAddr env)
      (getReport report (remembering last tracker) lastReceiveAddr env) := by
  unfold Carried getReport
  simp only [remembering_npnodeMap, sendMsg_eq]
  cases tracker.npnodeMap.getNode (.ofUuid report.uuid) with
  | none => rfl
  | some stored =>
    simp only
    split_ifs <;> rfl

theorem carried_getSpList (spList : Sp2TsSpList) (last : BlockInterval) (tracker : TrackerState R)
    (lastReceiveAddr : NetAddress) (env : Env) :
    Carried last (getSpList spList tracker lastReceiveAddr env)
      (getSpList spList (remembering last tracker) lastReceiveAddr env) := by
  unfold Carried getSpList sendSpList
  simp only [remembering_channelMap]
  cases tracker.channelMap.getCpAddressExcept (.ofUuid spList.spUuid) with
  | none => rfl
  | some spaddr =>
    cases spaddr with
    | nil => rfl
    | cons head tail =>
      obtain ⟨payload, packed⟩ := pack_spList env.heap ⟨UInt8.ofNat (head :: tail).length, head :: tail⟩
      simp only [packed]
      rfl

theorem carried_act {request : Request} (another : ∀ message, request ≠ .resInterval message) (last : BlockInterval)
    (tracker : TrackerState R) (lastReceiveAddr : NetAddress) (env : Env) :
    Carried last (request.act tracker lastReceiveAddr env)
      (request.act (remembering last tracker) lastReceiveAddr env) := by
  cases request with
  | login message => exact carried_getLogin message last tracker lastReceiveAddr env
  | reqRes message => exact carried_sendPeers _ _ 0 last tracker lastReceiveAddr env
  | report message =>
    simp only [Request.act, receiveReport]
    split_ifs
    · exact carried_getReport message last tracker lastReceiveAddr env
    · rfl
  | needPeers message => exact carried_getNeedPeers message last tracker lastReceiveAddr env
  | resInterval message => exact absurd rfl (another message)
  | logout message => rfl
  | register message => exact carried_getRegister message last tracker lastReceiveAddr env
  | status message => exact carried_updateChannel _ _ last tracker lastReceiveAddr env
  | resList message => exact carried_updateChannel _ _ last tracker lastReceiveAddr env
  | getSp message => exact carried_getSpList message last tracker lastReceiveAddr env

theorem alike_step {first second next : TrackerState R} {event : Event} (alike : Alike first second)
    (taken : step first event = some next) : ∃ other, step second event = some other ∧ Alike next other := by
  obtain ⟨last, rfl⟩ := alike
  obtain ⟨datagram, rfl, nothing, rfl⟩ | ⟨datagram, request, sent, rfl, found, acted⟩ | ⟨currTime, rfl, rfl⟩ :=
    step_cases taken
  · refine ⟨remembering last next, ?_, last, rfl⟩
    simp only [step, receive_eq, nothing]
    rfl
  · by_cases interval : ∃ message, request = .resInterval message
    · obtain ⟨message, rfl⟩ := interval
      obtain ⟨after, replies, current⟩ := getResInterval_cases message first datagram.lastReceiveAddr datagram.env
      obtain ⟨later, others, present⟩ :=
        getResInterval_cases message (remembering last first) datagram.lastReceiveAddr datagram.env
      cases current.symm.trans acted
      refine ⟨remembering later first, ?_, later, rfl⟩
      simp only [step, receive_of_request found, Request.act, present]
      rfl
    · have same :=
        carried_act (fun message other => interval ⟨message, other⟩) last first datagram.lastReceiveAddr datagram.env
      rw [Carried, acted] at same
      refine ⟨remembering last next, ?_, last, rfl⟩
      simp only [step, receive_of_request found, same]
      rfl
  · exact ⟨_, rfl, last, rfl⟩

def othersInterval (uuid : MapStr) : Event → Bool
  | .timerCheck _ => false
  | .datagram datagram =>
      match datagram.request with
      | .ok (some (.resInterval message)) => (MapStr.ofUuid message.uuid).differs uuid
      | _ => false

theorem others_step {uuid : MapStr} {event : Event} (others : othersInterval uuid event = true)
    {tracker after : TrackerState R} (taken : step tracker event = some after) : Alike tracker after := by
  unfold othersInterval at others
  split at others
  · cases others
  · split at others
    · next datagram _ message found =>
      obtain ⟨last, sent, served⟩ := getResInterval_cases message tracker datagram.lastReceiveAddr datagram.env
      simp only [step, receive_of_request found, Request.act, served] at taken
      cases taken
      exact ⟨last, rfl⟩
    · cases others

theorem alike_filter (uuid : MapStr) {first second final : TrackerState R} {events : List Event}
    (alike : Alike first second) (reached : run step first events = some final) :
    ∃ other, run step second (events.filter fun event => !othersInterval uuid event) = some other ∧
      Alike final other := by
  induction events generalizing first second with
  | nil =>
    cases reached
    exact ⟨second, rfl, alike⟩
  | cons event rest ih =>
    obtain ⟨next, taken, remaining⟩ := run_cons_eq_some.mp reached
    cases others : othersInterval uuid event with
    | true =>
      rw [List.filter_cons_of_neg (by simp [others])]
      exact ih ((others_step others taken).symm.trans alike) remaining
    | false =>
      rw [List.filter_cons_of_pos (by simp [others])]
      obtain ⟨other, followed, alikeNext⟩ := alike_step alike taken
      obtain ⟨last, ran, alikeLast⟩ := ih alikeNext remaining
      exact ⟨last, run_cons_eq_some.mpr ⟨other, followed, ran⟩, alikeLast⟩

theorem alike_run {uuid : MapStr} {initial first second : TrackerState R} {events others : List Event}
    (same : (events.filter fun event => !othersInterval uuid event) =
      others.filter fun event => !othersInterval uuid event)
    (reached : run step initial events = some first) (reachedToo : run step initial others = some second) :
    Alike first second := by
  obtain ⟨left, ran, alike⟩ := alike_filter uuid ⟨initial.lastSendBlockinterval, rfl⟩ reached
  obtain ⟨right, ranToo, alikeToo⟩ := alike_filter uuid ⟨initial.lastSendBlockinterval, rfl⟩ reachedToo
  rw [same, ranToo, Option.some.injEq] at ran
  rw [ran] at alikeToo
  exact alike.trans alikeToo.symm

theorem replies_resInterval {message : Np2TsReqInterval} {datagram : Datagram}
    (carries : datagram.Carries (.resInterval message)) {tracker : TrackerState R} {node : NPNode}
    (registered : tracker.npnodeMap.getNode (.ofUuid message.uuid) = some node) {blockInterval : BlockInterval}
    (known : tracker.channelMap.getChannelInterval node.channelIDMd5 = some blockInterval) :
    replies tracker datagram = .ok (if tracker.lastSendBlockinterval = blockInterval then []
      else [.sendto datagram.lastReceiveAddr (frame TS2NP_RES_INTERVAL blockInterval.toBytes)]) := by
  rw [replies, receive_of_request carries.request, Request.act, getResInterval]
  simp only [registered, sendResInterval_known known]
  rfl

/-- Two runs that differ in requests of others for an interval: a peer gets the same reply after
both if and only if the interval of its channel was the last one sent in both or in neither. -/
theorem replies_equal_iff {message : Np2TsReqInterval} {initial first second : TrackerState R}
    {events others : List Event}
    (same : (events.filter fun event => !othersInterval (.ofUuid message.uuid) event) =
      others.filter fun event => !othersInterval (.ofUuid message.uuid) event)
    (reached : run step initial events = some first) (reachedToo : run step initial others = some second)
    {datagram : Datagram} (carries : datagram.Carries (.resInterval message)) {node : NPNode}
    (registered : first.npnodeMap.getNode (.ofUuid message.uuid) = some node) {blockInterval : BlockInterval}
    (known : first.channelMap.getChannelInterval node.channelIDMd5 = some blockInterval) :
    replies first datagram = replies second datagram ↔
      (first.lastSendBlockinterval = blockInterval ↔ second.lastSendBlockinterval = blockInterval) := by
  obtain ⟨last, rfl⟩ := alike_run same reached reachedToo
  have registeredToo : (remembering last first).npnodeMap.getNode (.ofUuid message.uuid) = some node := registered
  have knownToo : (remembering last first).channelMap.getChannelInterval node.channelIDMd5 = some blockInterval :=
    known
  rw [replies_resInterval carries registered known, replies_resInterval carries registeredToo knownToo]
  by_cases sent : first.lastSendBlockinterval = blockInterval <;>
    by_cases sentToo : (remembering last first).lastSendBlockinterval = blockInterval <;> simp [sent, sentToo]

def asking (uuid : MapStr) : Datagram := (Request.resInterval ⟨uuid.uuid⟩).datagram .init clock

theorem asking_carries (uuid : MapStr) : (asking uuid).Carries (.resInterval ⟨uuid.uuid⟩) :=
  Request.carries (show (Request.resInterval ⟨uuid.uuid⟩).Counted from trivial)
    (by simp [Request.body, UUID_LENGTH]) .init clock

def oneAsked : List Event := twoWatchers ++ [.datagram (asking (uuidOf ⟨9, 10, 11, 12⟩))]

theorem same_but_for_others (uuid : MapStr)
    (other : othersInterval uuid (.datagram (asking (uuidOf ⟨9, 10, 11, 12⟩))) = true) :
    (oneAsked.filter fun event => !othersInterval uuid event) =
      twoWatchers.filter fun event => !othersInterval uuid event := by
  rw [oneAsked, List.filter_append, List.filter_cons_of_neg (by simp [other]), List.filter_nil, List.append_nil]

def watches (tracker : TrackerState .counting) : Bool :=
  match tracker.npnodeMap.getNode (.ofUuid (uuidOf ⟨5, 6, 7, 8⟩).uuid) with
  | none => false
  | some node => tracker.channelMap.getChannelInterval node.channelIDMd5 = some ⟨5, 10⟩

theorem watches_spec {tracker : TrackerState .counting} (watching : watches tracker = true) :
    ∃ node, tracker.npnodeMap.getNode (.ofUuid (uuidOf ⟨5, 6, 7, 8⟩).uuid) = some node ∧
      tracker.channelMap.getChannelInterval node.channelIDMd5 = some ⟨5, 10⟩ := by
  unfold watches at watching
  split at watching
  · cases watching
  · exact ⟨_, by assumption, by simpa using watching⟩

/-- The first peer gets the interval, or gets nothing where the second one had asked. -/
theorem other_peer_silences : ∃ first second,
    run step (.start .counting (1 : Nat) 0) oneAsked = some first ∧
    run step (.start .counting (1 : Nat) 0) twoWatchers = some second ∧
    (oneAsked.filter fun event => !othersInterval (.ofUuid (uuidOf ⟨5, 6, 7, 8⟩).uuid) event) =
      (twoWatchers.filter fun event => !othersInterval (.ofUuid (uuidOf ⟨5, 6, 7, 8⟩).uuid) event) ∧
    (∃ node, first.npnodeMap.getNode (.ofUuid (uuidOf ⟨5, 6, 7, 8⟩).uuid) = some node ∧
      first.channelMap.getChannelInterval node.channelIDMd5 = some ⟨5, 10⟩) ∧
    (asking (uuidOf ⟨5, 6, 7, 8⟩)).Carries (.resInterval ⟨(uuidOf ⟨5, 6, 7, 8⟩).uuid⟩) ∧
    replies first (asking (uuidOf ⟨5, 6, 7, 8⟩)) ≠ replies second (asking (uuidOf ⟨5, 6, 7, 8⟩)) := by
  obtain ⟨first, reached, silent⟩ := (Option.any_eq_true _ _).mp
    (show (run step (.start .counting (1 : Nat) 0) oneAsked).any (fun first => watches first &&
      (replies first (asking (uuidOf ⟨5, 6, 7, 8⟩))).toOption = some []) = true by decide +kernel)
  obtain ⟨second, reachedToo, answered⟩ := (Option.any_eq_true _ _).mp
    (show (run step (.start .counting (1 : Nat) 0) twoWatchers).any (fun second =>
      (replies second (asking (uuidOf ⟨5, 6, 7, 8⟩))).toOption ≠ some []) = true by decide +kernel)
  simp only [Bool.and_eq_true, decide_eq_true_eq] at silent answered
  refine ⟨first, second, reached, reachedToo, same_but_for_others _ (by decide +kernel), watches_spec silent.1,
    asking_carries _, fun same => answered ?_⟩
  rw [← same]
  exact silent.2

theorem silenced_iff_last_sent : ∃ first second,
    run step (.start .counting (1 : Nat) 0) oneAsked = some first ∧
    run step (.start .counting (1 : Nat) 0) twoWatchers = some second ∧
    (replies first (asking (uuidOf ⟨5, 6, 7, 8⟩)) = replies second (asking (uuidOf ⟨5, 6, 7, 8⟩)) ↔
      (first.lastSendBlockinterval = ⟨5, 10⟩ ↔ second.lastSendBlockinterval = ⟨5, 10⟩)) := by
  obtain ⟨first, reached, watching⟩ := (Option.any_eq_true _ _).mp
    (show (run step (.start .counting (1 : Nat) 0) oneAsked).any watches = true by decide +kernel)
  obtain ⟨second, reachedToo⟩ := Option.isSome_iff_exists.mp
    (show (run step (.start .counting (1 : Nat) 0) twoWatchers).isSome by decide +kernel)
  obtain ⟨node, registered, known⟩ := watches_spec watching
  exact ⟨first, second, reached, reachedToo, replies_equal_iff (same_but_for_others _ (by decide +kernel))
    reached reachedToo (asking_carries _) registered known⟩

end RabbitStreamer.Tracker.IntervalReplies
