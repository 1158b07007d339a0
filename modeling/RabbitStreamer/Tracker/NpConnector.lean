import RabbitStreamer.Core.MessageCodec
import RabbitStreamer.Tracker.State

/-! `RsNpTracker`: what the tracker does with the datagrams of normal peers. -/

namespace RabbitStreamer.Tracker.NpConnector
open RabbitStreamer.Lib.Bytes RabbitStreamer.Lib.Codec RabbitStreamer.Core.Struct RabbitStreamer.Core.StructDefine
open RabbitStreamer.Core.Streamer RabbitStreamer.Core.Message RabbitStreamer.Core.Message.P2PMESSAGE
open RabbitStreamer.Core.MessageCodec
open RabbitStreamer.Tracker.Uuid RabbitStreamer.Tracker.NpManager RabbitStreamer.Tracker.StreamerManager
open RabbitStreamer.Tracker.State

variable {R : Rand}

/-- The local addresses in turn: what becomes of `subnetIP` and of the private address to use. -/
def chooseNat (remoteNormal : NetAddress) (port : UInt16) (choice : NetAddress × NetAddress) (ip : UInt32) :
    NetAddress × NetAddress :=
  let (subnetIP, natAddr) := choice
  let addr : NetAddress := { NetAddress.init with sAddr := ip }
  let (subnetIP, natAddr) :=
    if addr.sAddr = remoteNormal.sAddr then
      ({ subnetIP with sinPort := port, sAddr := 0xffffffff }, remoteNormal)
    else (subnetIP, natAddr)
  if addr.isNatIP then (subnetIP, { addr with sinPort := port }) else (subnetIP, natAddr)

/-- The address of a peer seen as `remoteNormal` that lists its local addresses. -/
def clientAddress (remoteNormal : NetAddress) (port : UInt16) (ipAddr : List UInt32) : P2PAddress :=
  let (subnetIP, natAddr) := ipAddr.foldl (chooseNat remoteNormal port) (NetAddress.zero, NetAddress.init)
  ⟨remoteNormal, if natAddr.isNatIP then natAddr else subnetIP⟩

def sendWelcome (env : Env) (lastReceiveAddr : NetAddress) (digits : MapStr) (p2pAddr : P2PAddress) :
    Except Halt (List Sent) :=
  sendBuffer env lastReceiveAddr (⟨digits.uuid, p2pAddr⟩ : Ts2NpWelcome)

def loginNode (login : Np2TsLogin) (lastReceiveAddr : NetAddress) (now : Int) (digits : MapStr) : NPNode :=
  let remoteNormal : NetAddress := ⟨AF_INET, lastReceiveAddr.sinPort, lastReceiveAddr.sAddr⟩
  { NPNode.init now with
    fVersion := login.clientVersion
    port := login.listeningPort
    clientAddress := clientAddress remoteNormal login.listeningPort login.ipAddr
    digits }

/-- The uuid is drawn before the list of addresses is looked at. -/
def getLogin (login : Np2TsLogin) : Action R := fun tracker lastReceiveAddr env =>
  let (digits, rng) := generateUuid R tracker.rng
  if login.localIpListSize = 0 then .ok ({ tracker with rng }, [])
  else
    let node := loginNode login lastReceiveAddr env.now digits
    (sendWelcome env lastReceiveAddr digits node.clientAddress).map fun sent =>
      ({ tracker with npnodeMap := tracker.npnodeMap.insertNode digits node, rng }, sent)

/-- The flag of the message is not set by its constructor. -/
def sendMsg (env : Env) (lastReceiveAddr : NetAddress) : Except Halt (List Sent) :=
  sendBuffer env lastReceiveAddr (⟨1, env.unsetFlag⟩ : Ts2NpMsg.Unset)

/-- The end of `send_peers`, with a list of each kind at hand: the asking peer is looked up, takes
the channel for its own and is sent the lists. -/
def answerPeers (uuid : MapStr) (resHash : MD5HashStr) (peers : List PeerInfoWithAddr) (cps : List NetAddress)
    (sp : NetAddress) : Action R := fun tracker lastReceiveAddr env =>
  match tracker.npnodeMap.getNode uuid with
  | none => (sendMsg env lastReceiveAddr).map fun sent => (tracker, sent)
  | some pNode =>
      let pNode := { pNode with lastRecvReportTime := env.now, channelIDMd5 := resHash }
      let peersMsg : Ts2NpPeers := ⟨UInt8.ofNat cps.length, cps, UInt8.ofNat peers.length, peers, sp⟩
      (sendBuffer env lastReceiveAddr peersMsg).map fun sent =>
        ({ tracker with npnodeMap := tracker.npnodeMap.insertNode uuid pNode }, sent)

/-- The peers are searched for before the asking peer is. The addresses of the super peers are
chosen with the generator seeded anew, whatever the search has drawn from it. -/
def sendPeers (uuid : MapStr) (resHash : MD5HashStr) (currentblockID : UInt32) : Action R :=
  fun tracker lastReceiveAddr env =>
    match tracker.npnodeMap.getNpAddress R ⟨resHash, uuid, 20, currentblockID⟩ env.passes tracker.rng with
    | .error reason => .error reason
    | .ok (peers, _) =>
        let (cps, rng) := tracker.channelMap.getCpAddress R env.now 10
        let sps := tracker.channelMap.getSpAddress resHash 1
        let tracker := { tracker with rng }
        match cps, sps with
        | [], _ => .ok (tracker, [])
        | _ :: _, [] => .ok (tracker, [])
        | _ :: _, sp :: _ => answerPeers uuid resHash peers cps sp tracker lastReceiveAddr env

def getReqRes (reqRes : Np2TsReqRes) : Action R := fun tracker lastReceiveAddr env =>
  sendPeers (.ofUuid reqRes.uuid) (.ofMd5 reqRes.resourceMd5 (.init env.unsetSize)) 0 tracker lastReceiveAddr env

def reported (node : NPNode) (report : Np2TsReport) : NPNode :=
  { node with
    coreInfo := report.coreinfo
    countInterval := report.intervalCount
    intervalArray := report.blockinterval.foldl (fun array interval => array.addInterval interval.start interval.size)
      node.intervalArray
    transInfo := report.transferinfo
    playingBlock := report.playingBlock
    currentBufferingTime := report.currentBufferingTime
    bufferedCount := report.bufferedCount
    bufferedTime := report.bufferedTime
    connectFailCount := report.connectFailCount
    incomingConnectionCount := report.incomingConnectionCount
    outgoingConnectionCount := report.outgoingConnectionCount
    avgincomingConnectionElapsedTime := report.avgIncomingConnectionElapsedTime
    avgoutgoingConnectionElapsedTime := report.avgOutgoingConnectionElapsedTime
    msgPercent := report.messagePercent }

def getReport (report : Np2TsReport) : Action R := fun tracker lastReceiveAddr env =>
  match tracker.npnodeMap.getNode (.ofUuid report.uuid) with
  | none => (sendMsg env lastReceiveAddr).map fun sent => (tracker, sent)
  | some node =>
      if report.intervalCount = 0 then .ok (tracker, [])
      else
        .ok ({ tracker with
          npnodeMap := tracker.npnodeMap.insertNode (.ofUuid report.uuid) (reported node report) }, [])

/-- The intervals of a report fit where `blockinterval` leads. -/
def HasRoom (env : Env) (report : Np2TsReport) : Prop := report.intervalCount.toNat ≤ env.intervalRoom

instance (env : Env) (report : Np2TsReport) : Decidable (HasRoom env report) :=
  inferInstanceAs (Decidable (_ ≤ _))

/-- `get_report` with its parsing, which writes the intervals through a pointer that nothing sets. -/
def receiveReport (report : Np2TsReport) : Action R := fun tracker lastReceiveAddr env =>
  if HasRoom env report then getReport report tracker lastReceiveAddr env else .error .fault

def getNeedPeers (needPeers : Np2TsNeedPeers) : Action R := fun tracker lastReceiveAddr env =>
  match tracker.npnodeMap.getNode (.ofUuid needPeers.uuid) with
  | none => .ok (tracker, [])
  | some node =>
      sendPeers (.ofUuid needPeers.uuid) node.channelIDMd5 needPeers.currentBlock tracker lastReceiveAddr env

def getLogout (logout : Np2TsLogout) : Action R := fun tracker _ _ =>
  .ok ({ tracker with npnodeMap := tracker.npnodeMap.deleteNode (.ofUuid logout.uuid) }, [])

/-- An interval that has not changed since the last one sent is not sent again, to whomever that
was; the call that would ask for a new one does nothing. -/
def sendResInterval (channelHash : MD5HashStr) : Action R := fun tracker lastReceiveAddr env =>
  match tracker.channelMap.getChannelInterval channelHash with
  | none => .ok (tracker, [])
  | some blockInterval =>
      if tracker.lastSendBlockinterval = blockInterval then .ok (tracker, [])
      else
        (sendBuffer env lastReceiveAddr (⟨blockInterval⟩ : Ts2NpResInterval)).map fun sent =>
          ({ tracker with lastSendBlockinterval := blockInterval }, sent)

def getResInterval (resInterval : Np2TsReqInterval) : Action R := fun tracker lastReceiveAddr env =>
  match tracker.npnodeMap.getNode (.ofUuid resInterval.uuid) with
  | none => (sendMsg env lastReceiveAddr).map fun sent => (tracker, sent)
  | some node => sendResInterval node.channelIDMd5 tracker lastReceiveAddr env

/-- The switch of `handle_udp_packet`. -/
def handler : Handler R := fun msgType =>
  if msgType = NP2TS_LOGIN then onMessage getLogin
  else if msgType = NP2TS_REQ_RES then onMessage getReqRes
  else if msgType = NP2TS_REPORT then onMessage receiveReport
  else if msgType = NP2TS_NEED_PEERS then onMessage getNeedPeers
  else if msgType = NP2TS_RES_INTERVAL then onMessage getResInterval
  else if msgType = NP2TS_LOGOUT then onMessage getLogout
  else none

def msgFrame (flag : UInt8) : List UInt8 := frame TS2NP_MSG (le16 1 ++ [flag])

theorem sendMsg_eq (env : Env) (lastReceiveAddr : NetAddress) :
    sendMsg env lastReceiveAddr = .ok [.sendto lastReceiveAddr (msgFrame env.unsetFlag)] := by
  have writes : Writes (RsMessage.packSubmsg (⟨1, env.unsetFlag⟩ : Ts2NpMsg.Unset))
      ([TS2NP_MSG] ++ (le16 1 ++ [env.unsetFlag])) :=
    (writes_char _).bind ((writes_short _).bind (writes_char _))
  have filled := packSink_of_writes writes (by simp [RsMessage.reservePackSize])
    (by simp [RsMessage.reservePackSize, basePackSize]) env.heap
  rw [sendMsg, sendBuffer, pack_of_full filled]
  rfl

def welcomeFrame (digits : MapStr) (p2pAddr : P2PAddress) : List UInt8 :=
  frame TS2NP_WELCOME (digits.uuid.data ++ p2pAddr.toBytes)

theorem sendWelcome_eq (env : Env) (lastReceiveAddr : NetAddress) (digits : MapStr) (p2pAddr : P2PAddress) :
    sendWelcome env lastReceiveAddr digits p2pAddr =
      .ok [.sendto lastReceiveAddr (welcomeFrame digits p2pAddr)] := by
  have packed := (encodes_npWelcome ⟨digits.uuid, p2pAddr⟩).pack
    (by simp [RsMessage.reservePackSize, basePackSize, UUID_LENGTH]) env.heap
  rw [sendWelcome, sendBuffer, packed]
  rfl

theorem sendInterval_eq (env : Env) (lastReceiveAddr : NetAddress) (blockInterval : BlockInterval) :
    sendBuffer env lastReceiveAddr (⟨blockInterval⟩ : Ts2NpResInterval) =
      .ok [.sendto lastReceiveAddr (frame TS2NP_RES_INTERVAL blockInterval.toBytes)] := by
  have packed := (encodes_resInterval ⟨blockInterval⟩).pack
    (by simp [RsMessage.reservePackSize, basePackSize]) env.heap
  rw [sendBuffer, packed]
  rfl

def Updates (uuid : MapStr) (changes : NPNode → NPNode → Prop) (tracker after : TrackerState R) : Prop :=
  after.channelMap = tracker.channelMap ∧
    (after.npnodeMap = tracker.npnodeMap ∨
      ∃ stored node, tracker.npnodeMap.getNode uuid = some stored ∧ changes stored node ∧
        after.npnodeMap = tracker.npnodeMap.insertNode uuid node)

/-- A request comes to its end unless the search for peers does not, and changes no more than that. -/
def Serves (uuid : MapStr) (changes : NPNode → NPNode → Prop) (tracker : TrackerState R)
    (result : Except Halt (TrackerState R × List Sent)) : Prop :=
  result = .error .unfinished ∨ ∃ after sent, result = .ok (after, sent) ∧ Updates uuid changes tracker after

theorem updates_refl (uuid : MapStr) (changes : NPNode → NPNode → Prop) (tracker : TrackerState R) :
    Updates uuid changes tracker tracker := ⟨rfl, Or.inl rfl⟩

theorem serves_of_eq {uuid : MapStr} {changes : NPNode → NPNode → Prop} {tracker after : TrackerState R}
    {result : Except Halt (TrackerState R × List Sent)} {sent : List Sent} (same : result = .ok (after, sent))
    (updates : Updates uuid changes tracker after) : Serves uuid changes tracker result :=
  Or.inr ⟨after, sent, same, updates⟩

theorem Serves.mono {uuid : MapStr} {first second : NPNode → NPNode → Prop}
    (weaker : ∀ stored node, first stored node → second stored node) {tracker : TrackerState R}
    {result : Except Halt (TrackerState R × List Sent)} (serves : Serves uuid first tracker result) :
    Serves uuid second tracker result := by
  rcases serves with endless | ⟨after, sent, ended, channels, same | ⟨stored, node, known, changes, changed⟩⟩
  · exact Or.inl endless
  · exact serves_of_eq ended ⟨channels, Or.inl same⟩
  · exact serves_of_eq ended ⟨channels, Or.inr ⟨stored, node, known, weaker stored node changes, changed⟩⟩

def asked (node : NPNode) (resHash : MD5HashStr) (now : Int) : NPNode :=
  { node with lastRecvReportTime := now, channelIDMd5 := resHash }

def Asks (stored node : NPNode) : Prop := ∃ resHash now, node = asked stored resHash now

def AsksAt (now : Int) (stored node : NPNode) : Prop := ∃ resHash, node = asked stored resHash now

def Reports (report : Np2TsReport) (stored node : NPNode) : Prop := node = reported stored report

theorem answerPeers_unknown {uuid : MapStr} {tracker : TrackerState R}
    (unknown : tracker.npnodeMap.getNode uuid = none) (resHash : MD5HashStr) (peers : List PeerInfoWithAddr)
    (cps : List NetAddress) (sp : NetAddress) (lastReceiveAddr : NetAddress) (env : Env) :
    answerPeers uuid resHash peers cps sp tracker lastReceiveAddr env =
      .ok (tracker, [.sendto lastReceiveAddr (msgFrame env.unsetFlag)]) := by
  simp only [answerPeers, unknown, sendMsg_eq]
  rfl

theorem answerPeers_known {uuid : MapStr} {tracker : TrackerState R} {stored : NPNode}
    (known : tracker.npnodeMap.getNode uuid = some stored) (resHash : MD5HashStr) (peers : List PeerInfoWithAddr)
    (cps : List NetAddress) (sp : NetAddress) (lastReceiveAddr : NetAddress) (env : Env) :
    ∃ payload, pack env.heap (⟨UInt8.ofNat cps.length, cps, UInt8.ofNat peers.length, peers, sp⟩ : Ts2NpPeers) =
        .ok payload ∧
      answerPeers uuid resHash peers cps sp tracker lastReceiveAddr env =
        .ok ({ tracker with npnodeMap := tracker.npnodeMap.insertNode uuid (asked stored resHash env.now) },
          [.sendto lastReceiveAddr payload]) := by
  obtain ⟨payload, packed⟩ := pack_peers env.heap ⟨UInt8.ofNat cps.length, cps, UInt8.ofNat peers.length, peers, sp⟩
  refine ⟨payload, packed, ?_⟩
  simp only [answerPeers, known, sendBuffer, packed]
  rfl

theorem asksAt_answerPeers (uuid : MapStr) (resHash : MD5HashStr) (peers : List PeerInfoWithAddr)
    (cps : List NetAddress) (sp : NetAddress) (tracker : TrackerState R) (lastReceiveAddr : NetAddress) (env : Env) :
    Serves uuid (AsksAt env.now) tracker (answerPeers uuid resHash peers cps sp tracker lastReceiveAddr env) := by
  cases known : tracker.npnodeMap.getNode uuid with
  | none => exact serves_of_eq (answerPeers_unknown known ..) (updates_refl uuid _ tracker)
  | some stored =>
    obtain ⟨payload, _, answered⟩ := answerPeers_known known resHash peers cps sp lastReceiveAddr env
    exact serves_of_eq answered
      ⟨rfl, Or.inr ⟨stored, asked stored resHash env.now, known, ⟨resHash, rfl⟩, rfl⟩⟩

theorem sendPeers_cases (uuid : MapStr) (resHash : MD5HashStr) (currentblockID : UInt32)
    (tracker : TrackerState R) (lastReceiveAddr : NetAddress) (env : Env) :
    sendPeers uuid resHash currentblockID tracker lastReceiveAddr env = .error .unfinished ∨
    ∃ cps rng peers rest, tracker.channelMap.getCpAddress R env.now 10 = (cps, rng) ∧
      tracker.npnodeMap.getNpAddress R ⟨resHash, uuid, 20, currentblockID⟩ env.passes tracker.rng =
        .ok (peers, rest) ∧
      ((cps = [] ∨ tracker.channelMap.getSpAddress resHash 1 = []) ∧
          sendPeers uuid resHash currentblockID tracker lastReceiveAddr env = .ok ({ tracker with rng }, []) ∨
        ∃ sp more, cps ≠ [] ∧ tracker.channelMap.getSpAddress resHash 1 = sp :: more ∧
          sendPeers uuid resHash currentblockID tracker lastReceiveAddr env =
            answerPeers uuid resHash peers cps sp { tracker with rng } lastReceiveAddr env) := by
  generalize drawn : tracker.channelMap.getCpAddress R env.now 10 = chosen
  generalize having : tracker.channelMap.getSpAddress resHash 1 = sps
  obtain ⟨cps, rng⟩ := chosen
  rcases getNpAddress_spec R tracker.npnodeMap ⟨resHash, uuid, 20, currentblockID⟩ env.passes tracker.rng with
    endless | ⟨peers, rest, found, _⟩
  · refine Or.inl ?_
    simp only [sendPeers, endless]
  · refine Or.inr ⟨cps, rng, peers, rest, rfl, found, ?_⟩
    cases cps with
    | nil =>
      refine Or.inl ⟨Or.inl rfl, ?_⟩
      simp only [sendPeers, found, drawn]
    | cons cp more =>
      cases sps with
      | nil =>
        refine Or.inl ⟨Or.inr rfl, ?_⟩
        simp only [sendPeers, found, drawn, having]
      | cons sp others =>
        refine Or.inr ⟨sp, others, by simp, rfl, ?_⟩
        simp only [sendPeers, found, drawn, having]

theorem asksAt_sendPeers (uuid : MapStr) (resHash : MD5HashStr) (currentblockID : UInt32)
    (tracker : TrackerState R) (lastReceiveAddr : NetAddress) (env : Env) :
    Serves uuid (AsksAt env.now) tracker (sendPeers uuid resHash currentblockID tracker lastReceiveAddr env) := by
  rcases sendPeers_cases uuid resHash currentblockID tracker lastReceiveAddr env with
    endless | ⟨cps, rng, peers, _, _, _, ⟨_, nothing⟩ | ⟨sp, _, _, _, answered⟩⟩
  · exact Or.inl endless
  · exact serves_of_eq nothing ⟨rfl, Or.inl rfl⟩
  · rw [answered]
    exact asksAt_answerPeers uuid resHash peers cps sp { tracker with rng } lastReceiveAddr env

theorem asksAt_getReqRes (reqRes : Np2TsReqRes) (tracker : TrackerState R)
    (lastReceiveAddr : NetAddress) (env : Env) :
    Serves (.ofUuid reqRes.uuid) (AsksAt env.now) tracker (getReqRes reqRes tracker lastReceiveAddr env) := by
  unfold getReqRes
  exact asksAt_sendPeers ..

theorem AsksAt.asks {now : Int} (stored node : NPNode) (asks : AsksAt now stored node) : Asks stored node := by
  obtain ⟨resHash, changed⟩ := asks
  exact ⟨resHash, now, changed⟩

theorem serves_getReqRes (reqRes : Np2TsReqRes) (tracker : TrackerState R)
    (lastReceiveAddr : NetAddress) (env : Env) :
    Serves (.ofUuid reqRes.uuid) Asks tracker (getReqRes reqRes tracker lastReceiveAddr env) :=
  (asksAt_getReqRes reqRes tracker lastReceiveAddr env).mono AsksAt.asks

theorem getReport_unknown {report : Np2TsReport} {tracker : TrackerState R}
    (unknown : tracker.npnodeMap.getNode (.ofUuid report.uuid) = none) (lastReceiveAddr : NetAddress) (env : Env) :
    getReport report tracker lastReceiveAddr env =
      .ok (tracker, [.sendto lastReceiveAddr (msgFrame env.unsetFlag)]) := by
  simp only [getReport, unknown, sendMsg_eq]
  rfl

theorem getReport_known {report : Np2TsReport} {tracker : TrackerState R} {stored : NPNode}
    (known : tracker.npnodeMap.getNode (.ofUuid report.uuid) = some stored) (lastReceiveAddr : NetAddress)
    (env : Env) : getReport report tracker lastReceiveAddr env =
      .ok (if report.intervalCount = 0 then tracker
        else { tracker with
          npnodeMap := tracker.npnodeMap.insertNode (.ofUuid report.uuid) (reported stored report) },
        []) := by
  simp only [getReport, known]
  split_ifs <;> rfl

theorem receiveReport_of_room {env : Env} {report : Np2TsReport} (room : HasRoom env report)
    (tracker : TrackerState R) (lastReceiveAddr : NetAddress) :
    receiveReport report tracker lastReceiveAddr env = getReport report tracker lastReceiveAddr env := if_pos room

theorem receiveReport_eq_ok {report : Np2TsReport} {tracker : TrackerState R} {lastReceiveAddr : NetAddress}
    {env : Env} {result : TrackerState R × List Sent}
    (received : receiveReport report tracker lastReceiveAddr env = .ok result) :
    HasRoom env report ∧ getReport report tracker lastReceiveAddr env = .ok result := by
  rw [receiveReport] at received
  split_ifs at received with room
  exact ⟨room, received⟩

theorem serves_getReport (report : Np2TsReport) (tracker : TrackerState R)
    (lastReceiveAddr : NetAddress) (env : Env) :
    Serves (.ofUuid report.uuid) (Reports report) tracker (getReport report tracker lastReceiveAddr env) := by
  cases known : tracker.npnodeMap.getNode (.ofUuid report.uuid) with
  | none => exact serves_of_eq (getReport_unknown known lastReceiveAddr env) (updates_refl _ _ tracker)
  | some stored =>
    refine serves_of_eq (getReport_known known lastReceiveAddr env) ?_
    split_ifs
    · exact updates_refl _ _ tracker
    · exact ⟨rfl, Or.inr ⟨stored, reported stored report, known, rfl, rfl⟩⟩

theorem updates_receiveReport {report : Np2TsReport} {tracker after : TrackerState R} {lastReceiveAddr : NetAddress}
    {env : Env} {sent : List Sent} (received : receiveReport report tracker lastReceiveAddr env = .ok (after, sent)) :
    Updates (.ofUuid report.uuid) (Reports report) tracker after := by
  obtain ⟨_, taken⟩ := receiveReport_eq_ok received
  obtain endless | ⟨_, _, ended, updates⟩ := serves_getReport report tracker lastReceiveAddr env
  · cases endless.symm.trans taken
  · cases ended.symm.trans taken
    exact updates

theorem asksAt_getNeedPeers (needPeers : Np2TsNeedPeers) (tracker : TrackerState R) (lastReceiveAddr : NetAddress)
    (env : Env) :
    Serves (.ofUuid needPeers.uuid) (AsksAt env.now) tracker
      (getNeedPeers needPeers tracker lastReceiveAddr env) := by
  unfold getNeedPeers
  cases tracker.npnodeMap.getNode (.ofUuid needPeers.uuid) with
  | none => exact serves_of_eq rfl (updates_refl _ _ tracker)
  | some stored => exact asksAt_sendPeers ..

theorem serves_getNeedPeers (needPeers : Np2TsNeedPeers) (tracker : TrackerState R) (lastReceiveAddr : NetAddress)
    (env : Env) :
    Serves (.ofUuid needPeers.uuid) Asks tracker (getNeedPeers needPeers tracker lastReceiveAddr env) :=
  (asksAt_getNeedPeers needPeers tracker lastReceiveAddr env).mono AsksAt.asks

theorem sendResInterval_known {channelHash : MD5HashStr} {tracker : TrackerState R} {blockInterval : BlockInterval}
    (known : tracker.channelMap.getChannelInterval channelHash = some blockInterval) (lastReceiveAddr : NetAddress)
    (env : Env) : sendResInterval channelHash tracker lastReceiveAddr env =
      .ok ({ tracker with lastSendBlockinterval := blockInterval },
        if tracker.lastSendBlockinterval = blockInterval then []
        else [.sendto lastReceiveAddr (frame TS2NP_RES_INTERVAL blockInterval.toBytes)]) := by
  simp only [sendResInterval, known, sendInterval_eq]
  split_ifs with same
  · rw [← same]
  · rfl

theorem getResInterval_unknown {resInterval : Np2TsReqInterval} {tracker : TrackerState R}
    (unknown : tracker.npnodeMap.getNode (.ofUuid resInterval.uuid) = none) (lastReceiveAddr : NetAddress)
    (env : Env) : getResInterval resInterval tracker lastReceiveAddr env =
      .ok (tracker, [.sendto lastReceiveAddr (msgFrame env.unsetFlag)]) := by
  simp only [getResInterval, unknown, sendMsg_eq]
  rfl

theorem getResInterval_cases (resInterval : Np2TsReqInterval) (tracker : TrackerState R)
    (lastReceiveAddr : NetAddress) (env : Env) :
    ∃ last sent, getResInterval resInterval tracker lastReceiveAddr env =
      .ok ({ tracker with lastSendBlockinterval := last }, sent) := by
  cases known : tracker.npnodeMap.getNode (.ofUuid resInterval.uuid) with
  | none => exact ⟨_, _, getResInterval_unknown known lastReceiveAddr env⟩
  | some node =>
    cases interval : tracker.channelMap.getChannelInterval node.channelIDMd5 with
    | none =>
      refine ⟨tracker.lastSendBlockinterval, [], ?_⟩
      simp only [getResInterval, known, sendResInterval, interval]
    | some blockInterval =>
      have answered : getResInterval resInterval tracker lastReceiveAddr env =
          sendResInterval node.channelIDMd5 tracker lastReceiveAddr env := by
        simp only [getResInterval, known]
      exact ⟨_, _, answered.trans (sendResInterval_known interval lastReceiveAddr env)⟩

theorem serves_getResInterval (resInterval : Np2TsReqInterval) (tracker : TrackerState R)
    (lastReceiveAddr : NetAddress) (env : Env) :
    Serves (.ofUuid resInterval.uuid) Asks tracker (getResInterval resInterval tracker lastReceiveAddr env) := by
  obtain ⟨last, sent, same⟩ := getResInterval_cases resInterval tracker lastReceiveAddr env
  exact serves_of_eq same ⟨rfl, Or.inl rfl⟩

theorem getLogin_none {login : Np2TsLogin} (without : login.localIpListSize = 0) (tracker : TrackerState R)
    (lastReceiveAddr : NetAddress) (env : Env) : getLogin login tracker lastReceiveAddr env =
      .ok ({ tracker with rng := (generateUuid R tracker.rng).2 }, []) := by
  simp only [getLogin, if_pos without]

theorem getLogin_some {login : Np2TsLogin} (addresses : login.localIpListSize ≠ 0) {tracker : TrackerState R}
    {uuid : MapStr} {rng : R.State} (drawn : generateUuid R tracker.rng = (uuid, rng))
    (lastReceiveAddr : NetAddress) (env : Env) : getLogin login tracker lastReceiveAddr env =
      .ok ({ tracker with
          npnodeMap := tracker.npnodeMap.insertNode uuid (loginNode login lastReceiveAddr env.now uuid)
          rng },
        [.sendto lastReceiveAddr (welcomeFrame uuid
          (loginNode login lastReceiveAddr env.now uuid).clientAddress)]) := by
  simp only [getLogin, drawn, if_neg addresses, sendWelcome_eq]
  rfl

end RabbitStreamer.Tracker.NpConnector
