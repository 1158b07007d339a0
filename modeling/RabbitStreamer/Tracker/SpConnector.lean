import RabbitStreamer.Core.MessageCodec
import RabbitStreamer.Tracker.State

/-! `RsSpTracker`: what the tracker does with the datagrams of super peers. -/

namespace RabbitStreamer.Tracker.SpConnector
open RabbitStreamer.Lib.Bytes RabbitStreamer.Core.Struct RabbitStreamer.Core.StructDefine
open RabbitStreamer.Core.Streamer RabbitStreamer.Core.Message RabbitStreamer.Core.Message.P2PMESSAGE
open RabbitStreamer.Core.MessageCodec
open RabbitStreamer.Tracker.Uuid RabbitStreamer.Tracker.StreamerManager RabbitStreamer.Tracker.State

variable {R : Rand}

def sendWelcome (env : Env) (lastReceiveAddr : NetAddress) (uuid : MapStr) : Except Halt (List Sent) :=
  sendBuffer env lastReceiveAddr (⟨uuid.uuid⟩ : Ts2SpWelcome)

/-- The node of a registration that came from an address. `strncpy` stops at a NUL and fills up
with zeros. -/
def registerNode (register : Sp2TsRegister) (lastReceiveAddr : NetAddress) (now : Int) : ChannelNode :=
  { ChannelNode.init now with
    userID := register.userId
    pswd := .ofList 33 (register.password.data.takeWhile (· ≠ 0))
    servicePort := register.servicePort
    spAddress := { NetAddress.zero with sinPort := lastReceiveAddr.sinPort, sAddr := lastReceiveAddr.sAddr }
    spService := true }

def getRegister (register : Sp2TsRegister) : Action R := fun tracker lastReceiveAddr env => do
  let (uuid, rng) := generateUuid R tracker.rng
  let channelMap ← tracker.channelMap.insertChannel env.now uuid (registerNode register lastReceiveAddr env.now)
  let sent ← sendWelcome env lastReceiveAddr uuid
  pure ({ tracker with channelMap, rng }, sent)

def resourceHash (info : ResourceInfo) : MD5HashStr := .ofMd5 info.resMd5 info.blockInterval

def updateChannel (uuid : MapStr) (change : ChannelNode → ChannelNode) : Action R := fun tracker _ env => do
  let found ← tracker.channelMap.getChannel env.now uuid
  match found with
  | none => pure (tracker, [])
  | some pNode => do
      let channelMap ← tracker.channelMap.insertChannel env.now uuid (change pNode)
      pure ({ tracker with channelMap }, [])

def getResList (resList : Sp2TsResList) : Action R :=
  updateChannel (.ofUuid resList.spUuid) fun pNode =>
    { pNode with
      resourceCount := resList.resourceCount
      pHash := resList.resInfo.map resourceHash }

/-- The list goes into `io` and not to the sender; its count is cut to eight bits. -/
def sendSpList (uuid : MapStr) : Action R := fun tracker _ env =>
  match tracker.channelMap.getCpAddressExcept uuid with
  | none => .error .fault
  | some [] => .ok (tracker, [])
  | some spaddr => do
      let payload ← pack env.heap (⟨UInt8.ofNat spaddr.length, spaddr⟩ : Ts2SpSpList)
      pure (tracker, [.write payload])

def getSpList (spList : Sp2TsSpList) : Action R := sendSpList (.ofUuid spList.spUuid)

def getStatus (status : Sp2TsStatus) : Action R :=
  updateChannel (.ofUuid status.spUuid) fun pNode =>
    { pNode with
      resourceCount := status.resourceCount
      conNum := status.connectionNum
      bandwidth := status.bandwidth
      exceedMaxConn := status.exceedMaxConnection ≠ 0 }

def getLogout (_logout : Sp2TsLogout) : Action R := fun tracker _ _ => .ok (tracker, [])

/-- The switch of `handle_udp_packet`; a logout is let through without a call. -/
def handler : Handler R := fun msgType =>
  if msgType = SP2TS_REGISTER then onMessage getRegister
  else if msgType = SP2TS_STATUS then onMessage getStatus
  else if msgType = SP2TS_RES_LIST then onMessage getResList
  else if msgType = SP2TS_GET_SP then onMessage getSpList
  else none

def welcomeFrame (uuid : MapStr) : List UInt8 := frame TS2SP_WELCOME uuid.uuid.data

theorem sendWelcome_eq (env : Env) (lastReceiveAddr : NetAddress) (uuid : MapStr) :
    sendWelcome env lastReceiveAddr uuid = .ok [.sendto lastReceiveAddr (welcomeFrame uuid)] := by
  have packed := (encodes_spWelcome ⟨uuid.uuid⟩).pack
    (by simp [RsMessage.reservePackSize, basePackSize, UUID_LENGTH]) env.heap
  rw [sendWelcome, sendBuffer, packed]
  rfl

theorem getRegister_eq {tracker : TrackerState R} {uuid : MapStr} {rng : R.State}
    (drawn : generateUuid R tracker.rng = (uuid, rng)) (register : Sp2TsRegister) (lastReceiveAddr : NetAddress)
    (env : Env) : getRegister register tracker lastReceiveAddr env =
      (tracker.channelMap.insertChannel env.now uuid (registerNode register lastReceiveAddr env.now)).map
        fun channelMap => ({ tracker with channelMap, rng }, [.sendto lastReceiveAddr (welcomeFrame uuid)]) := by
  simp only [getRegister, drawn, sendWelcome_eq]
  cases tracker.channelMap.insertChannel env.now uuid (registerNode register lastReceiveAddr env.now) <;> rfl

theorem updateChannel_unknown {tracker : TrackerState R} {uuid : MapStr}
    (unknown : tracker.channelMap.find uuid = none) (change : ChannelNode → ChannelNode)
    (lastReceiveAddr : NetAddress) (env : Env) :
    updateChannel uuid change tracker lastReceiveAddr env = .ok (tracker, []) := by
  simp only [updateChannel, getChannel_unknown unknown]
  rfl

theorem updateChannel_known {tracker : TrackerState R} {uuid : MapStr} {entry : MapStr × ChannelNode}
    (known : tracker.channelMap.find uuid = some entry) (change : ChannelNode → ChannelNode)
    (lastReceiveAddr : NetAddress) (env : Env) :
    updateChannel uuid change tracker lastReceiveAddr env = (entry.2.assign env.now).bind fun pNode =>
      (tracker.channelMap.insertChannel env.now uuid (change pNode)).map fun channelMap =>
        ({ tracker with channelMap }, []) := by
  simp only [updateChannel, getChannel_known known]
  cases entry.2.assign env.now with
  | error reason => rfl
  | ok pNode =>
    cases inserted : tracker.channelMap.insertChannel env.now uuid (change pNode) with
    | error reason =>
      simp only [Except.map, Except.bind, bind, inserted]
    | ok channelMap =>
      simp only [Except.map, Except.bind, bind, inserted]
      rfl

theorem updateChannel_eq_ok {tracker after : TrackerState R} {uuid : MapStr} {change : ChannelNode → ChannelNode}
    {lastReceiveAddr : NetAddress} {env : Env} {sent : List Sent}
    (updated : updateChannel uuid change tracker lastReceiveAddr env = .ok (after, sent)) :
    sent = [] ∧ (tracker.channelMap.find uuid = none ∧ after = tracker ∨
      ∃ entry pNode node, tracker.channelMap.find uuid = some entry ∧ entry.2.assign env.now = .ok pNode ∧
        (change pNode).assign env.now = .ok node ∧
        after = { tracker with channelMap := tracker.channelMap.adjust uuid fun _ => node }) := by
  cases found : tracker.channelMap.find uuid with
  | none =>
    rw [updateChannel_unknown found] at updated
    cases updated
    exact ⟨rfl, Or.inl ⟨rfl, rfl⟩⟩
  | some entry =>
    rw [updateChannel_known found] at updated
    cases copied : entry.2.assign env.now with
    | error reason => simp [copied, Except.bind] at updated
    | ok pNode =>
      rw [copied] at updated
      cases inserted : tracker.channelMap.insertChannel env.now uuid (change pNode) with
      | error reason => simp [inserted, Except.bind, Except.map] at updated
      | ok channelMap =>
        simp only [inserted, Except.bind, Except.map, Except.ok.injEq, Prod.mk.injEq] at updated
        obtain ⟨node, changed, ⟨unknown, _⟩ | ⟨_, rfl⟩⟩ := insertChannel_eq_ok inserted
        · simp [found] at unknown
        · exact ⟨updated.2.symm, Or.inr ⟨entry, pNode, node, rfl, copied, changed, updated.1.symm⟩⟩

def Keeps (tracker after : TrackerState R) : Prop :=
  after.npnodeMap = tracker.npnodeMap ∧ after.lastSendBlockinterval = tracker.lastSendBlockinterval

theorem getRegister_eq_ok {register : Sp2TsRegister} {tracker after : TrackerState R} {lastReceiveAddr : NetAddress}
    {env : Env} {sent : List Sent}
    (registered : getRegister register tracker lastReceiveAddr env = .ok (after, sent)) :
    ∃ uuid rng channelMap, generateUuid R tracker.rng = (uuid, rng) ∧
      tracker.channelMap.insertChannel env.now uuid (registerNode register lastReceiveAddr env.now) =
        .ok channelMap ∧
      after = { tracker with channelMap, rng } ∧ sent = [.sendto lastReceiveAddr (welcomeFrame uuid)] := by
  obtain ⟨uuid, rng, drawn⟩ : ∃ uuid rng, generateUuid R tracker.rng = (uuid, rng) := ⟨_, _, rfl⟩
  rw [getRegister_eq drawn] at registered
  cases inserted : tracker.channelMap.insertChannel env.now uuid (registerNode register lastReceiveAddr env.now) with
  | error reason => simp [inserted, Except.map] at registered
  | ok channelMap =>
    simp only [inserted, Except.map, Except.ok.injEq, Prod.mk.injEq] at registered
    exact ⟨uuid, rng, channelMap, drawn, inserted, registered.1.symm, registered.2.symm⟩

theorem keeps_getRegister {register : Sp2TsRegister} {tracker after : TrackerState R} {lastReceiveAddr : NetAddress}
    {env : Env} {sent : List Sent}
    (registered : getRegister register tracker lastReceiveAddr env = .ok (after, sent)) :
    Keeps tracker after := by
  obtain ⟨uuid, rng, channelMap, _, _, rfl, _⟩ := getRegister_eq_ok registered
  exact ⟨rfl, rfl⟩

theorem keeps_updateChannel {tracker after : TrackerState R} {uuid : MapStr} {change : ChannelNode → ChannelNode}
    {lastReceiveAddr : NetAddress} {env : Env} {sent : List Sent}
    (updated : updateChannel uuid change tracker lastReceiveAddr env = .ok (after, sent)) : Keeps tracker after := by
  obtain ⟨_, ⟨_, rfl⟩ | ⟨_, _, _, _, _, _, rfl⟩⟩ := updateChannel_eq_ok updated
  · exact ⟨rfl, rfl⟩
  · exact ⟨rfl, rfl⟩

theorem keeps_getStatus {status : Sp2TsStatus} {tracker after : TrackerState R} {lastReceiveAddr : NetAddress}
    {env : Env} {sent : List Sent} (acted : getStatus status tracker lastReceiveAddr env = .ok (after, sent)) :
    Keeps tracker after := by
  unfold getStatus at acted
  exact keeps_updateChannel acted

theorem keeps_getResList {resList : Sp2TsResList} {tracker after : TrackerState R} {lastReceiveAddr : NetAddress}
    {env : Env} {sent : List Sent} (acted : getResList resList tracker lastReceiveAddr env = .ok (after, sent)) :
    Keeps tracker after := by
  unfold getResList at acted
  exact keeps_updateChannel acted

theorem getRegister_eq_error {register : Sp2TsRegister} {tracker : TrackerState R} {lastReceiveAddr : NetAddress}
    {env : Env} {reason : Halt} (failed : getRegister register tracker lastReceiveAddr env = .error reason) :
    reason = .fault := by
  obtain ⟨uuid, rng, drawn⟩ : ∃ uuid rng, generateUuid R tracker.rng = (uuid, rng) := ⟨_, _, rfl⟩
  rw [getRegister_eq drawn] at failed
  cases inserted : tracker.channelMap.insertChannel env.now uuid (registerNode register lastReceiveAddr env.now) with
  | error other =>
    simp only [inserted, Except.map, Except.error.injEq] at failed
    exact failed ▸ insertChannel_eq_error inserted
  | ok channelMap => simp [inserted, Except.map] at failed

theorem updateChannel_eq_error {tracker : TrackerState R} {uuid : MapStr} {change : ChannelNode → ChannelNode}
    {lastReceiveAddr : NetAddress} {env : Env} {reason : Halt}
    (failed : updateChannel uuid change tracker lastReceiveAddr env = .error reason) : reason = .fault := by
  cases found : tracker.channelMap.find uuid with
  | none =>
    rw [updateChannel_unknown found] at failed
    cases failed
  | some entry =>
    rw [updateChannel_known found] at failed
    cases copied : entry.2.assign env.now with
    | error other =>
      simp only [copied, Except.bind, Except.error.injEq] at failed
      exact failed ▸ ChannelNode.assign_eq_error copied
    | ok pNode =>
      simp only [copied, Except.bind] at failed
      cases inserted : tracker.channelMap.insertChannel env.now uuid (change pNode) with
      | error other =>
        simp only [inserted, Except.map, Except.error.injEq] at failed
        exact failed ▸ insertChannel_eq_error inserted
      | ok channelMap => simp [inserted, Except.map] at failed

theorem getSpList_cases (spList : Sp2TsSpList) (tracker : TrackerState R) (lastReceiveAddr : NetAddress) (env : Env) :
    tracker.channelMap.getCpAddressExcept (.ofUuid spList.spUuid) = none ∧
        getSpList spList tracker lastReceiveAddr env = .error .fault ∨
      tracker.channelMap.getCpAddressExcept (.ofUuid spList.spUuid) = some [] ∧
        getSpList spList tracker lastReceiveAddr env = .ok (tracker, []) ∨
      ∃ payload, getSpList spList tracker lastReceiveAddr env = .ok (tracker, [.write payload]) := by
  unfold getSpList sendSpList
  cases tracker.channelMap.getCpAddressExcept (.ofUuid spList.spUuid) with
  | none => exact Or.inl ⟨rfl, rfl⟩
  | some spaddr =>
    cases spaddr with
    | nil => exact Or.inr (Or.inl ⟨rfl, rfl⟩)
    | cons head tail =>
      obtain ⟨payload, packed⟩ := pack_spList env.heap ⟨UInt8.ofNat (head :: tail).length, head :: tail⟩
      refine Or.inr (Or.inr ⟨payload, ?_⟩)
      simp only [packed]
      rfl

theorem getSpList_eq_ok {spList : Sp2TsSpList} {tracker after : TrackerState R} {lastReceiveAddr : NetAddress}
    {env : Env} {sent : List Sent} (answered : getSpList spList tracker lastReceiveAddr env = .ok (after, sent)) :
    after = tracker ∧ ∀ message ∈ sent, ∃ payload, message = .write payload := by
  rcases getSpList_cases spList tracker lastReceiveAddr env with ⟨_, result⟩ | ⟨_, result⟩ | ⟨payload, result⟩
  · cases result.symm.trans answered
  · cases result.symm.trans answered
    simp
  · cases result.symm.trans answered
    simp

end RabbitStreamer.Tracker.SpConnector
