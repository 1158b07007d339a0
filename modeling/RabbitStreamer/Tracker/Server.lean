import RabbitStreamer.Lib.Transition
import RabbitStreamer.Tracker.NpConnector
import RabbitStreamer.Tracker.SpConnector

/-! Runs of the tracker: datagrams for either connector in any order. -/

namespace RabbitStreamer.Tracker.Server
open RabbitStreamer.Lib RabbitStreamer.Lib.Bytes RabbitStreamer.Lib.Codec RabbitStreamer.Lib.Memory
open RabbitStreamer.Core.Struct RabbitStreamer.Core.StructDefine RabbitStreamer.Core.Streamer
open RabbitStreamer.Core.Message RabbitStreamer.Core.Message.P2PMESSAGE RabbitStreamer.Core.MessageCodec
open RabbitStreamer.Tracker.Uuid RabbitStreamer.Tracker.NpManager RabbitStreamer.Tracker.State

variable {R : Rand}

inductive Connector where
  | np
  | sp
  deriving DecidableEq

def Connector.handler : Connector → Handler R
  | .np => NpConnector.handler
  | .sp => SpConnector.handler

/-- A datagram as a listener hands it over: its bytes lie at the start of a buffer that is
used again and again. -/
structure Datagram where
  connector : Connector
  lastReceiveAddr : NetAddress
  buf : Memory
  nbBuf : Nat
  env : Env

def receive (tracker : TrackerState R) (datagram : Datagram) : Except Halt (TrackerState R × List Sent) :=
  handleUdpPacket datagram.connector.handler tracker datagram.lastReceiveAddr datagram.env datagram.buf datagram.nbBuf

def replies (tracker : TrackerState R) (datagram : Datagram) : Except Halt (List Sent) :=
  (receive tracker datagram).map Prod.snd

inductive Event where
  | datagram (datagram : Datagram)
  | timerCheck (currTime : Int)

def step (tracker : TrackerState R) : Event → Option (TrackerState R)
  | .datagram datagram => (receive tracker datagram).toOption.map Prod.fst
  | .timerCheck currTime => some { tracker with npnodeMap := tracker.npnodeMap.timerCheck currTime }

inductive Request where
  | login (login : Np2TsLogin)
  | reqRes (reqRes : Np2TsReqRes)
  | report (report : Np2TsReport)
  | needPeers (needPeers : Np2TsNeedPeers)
  | resInterval (resInterval : Np2TsReqInterval)
  | logout (logout : Np2TsLogout)
  | register (register : Sp2TsRegister)
  | status (status : Sp2TsStatus)
  | resList (resList : Sp2TsResList)
  | getSp (spList : Sp2TsSpList)
  deriving DecidableEq

def Request.act : Request → Action R
  | .login message => NpConnector.getLogin message
  | .reqRes message => NpConnector.getReqRes message
  | .report message => NpConnector.receiveReport message
  | .needPeers message => NpConnector.getNeedPeers message
  | .resInterval message => NpConnector.getResInterval message
  | .logout message => NpConnector.getLogout message
  | .register message => SpConnector.getRegister message
  | .status message => SpConnector.getStatus message
  | .resList message => SpConnector.getResList message
  | .getSp message => SpConnector.getSpList message

def readAs {M : Type} [RsParsed M] (request : M → Request) : RsReader Request := do
  let message ← RsParsed.parse
  pure (request message)

def acting (reader : RsReader Request) : RsReader (Action R) := do
  let request ← reader
  pure request.act

def Connector.reader : Connector → UInt8 → Option (RsReader Request)
  | .np, msgType =>
      if msgType = NP2TS_LOGIN then some (readAs .login)
      else if msgType = NP2TS_REQ_RES then some (readAs .reqRes)
      else if msgType = NP2TS_REPORT then some (readAs .report)
      else if msgType = NP2TS_NEED_PEERS then some (readAs .needPeers)
      else if msgType = NP2TS_RES_INTERVAL then some (readAs .resInterval)
      else if msgType = NP2TS_LOGOUT then some (readAs .logout)
      else none
  | .sp, msgType =>
      if msgType = SP2TS_REGISTER then some (readAs .register)
      else if msgType = SP2TS_STATUS then some (readAs .status)
      else if msgType = SP2TS_RES_LIST then some (readAs .resList)
      else if msgType = SP2TS_GET_SP then some (readAs .getSp)
      else none

def declared (buf : Memory) : List UInt8 := initStreamer (fun i => buf (5 + i)) (intAt buf 0 - 5)

/-- The request in a datagram, if there is one; an error where parsing stops. -/
def Datagram.request (datagram : Datagram) : Except Halt (Option Request) :=
  if datagram.nbBuf = 0 then .ok none
  else
    match datagram.connector.reader (datagram.buf 4) with
    | none => .ok none
    | some reader => (outcome reader (declared datagram.buf)).map some

theorem request_eq_some {datagram : Datagram} {request : Request} :
    datagram.request = .ok (some request) ↔ datagram.nbBuf ≠ 0 ∧ ∃ reader,
      datagram.connector.reader (datagram.buf 4) = some reader ∧
      outcome reader (declared datagram.buf) = .ok request := by
  unfold Datagram.request
  by_cases nothing : datagram.nbBuf = 0
  · simp [nothing]
  · cases datagram.connector.reader (datagram.buf 4) with
    | none => simp [nothing]
    | some reader => cases ended : outcome reader (declared datagram.buf) <;> simp [nothing, ended, Except.map]

theorem outcome_map {τ ε α β : Type} (reader : Reader τ ε α) (f : α → β) (input : List τ) :
    outcome (do let value ← reader; pure (f value)) input = (outcome reader input).map f := by
  have run : (do let value ← reader; pure (f value)) input =
      EStateM.bind reader (fun value => pure (f value)) input :=
    rfl
  simp only [outcome, run, EStateM.bind]
  cases reader input <;> rfl

theorem onMessage_eq {M : Type} [RsParsed M] (request : M → Request) (action : M → Action R)
    (acts : ∀ message, action message = (request message).act) :
    onMessage action = (some (readAs request)).map acting := by
  simp only [onMessage, Option.map_some, acting, readAs, bind_assoc, pure_bind, acts]

theorem handler_eq (connector : Connector) (msgType : UInt8) :
    (connector.handler msgType : Option (RsReader (Action R))) = (connector.reader msgType).map acting := by
  cases connector with
  | np =>
    simp only [Connector.handler, NpConnector.handler, Connector.reader]
    split_ifs
    · exact onMessage_eq .login _ fun _ => rfl
    · exact onMessage_eq .reqRes _ fun _ => rfl
    · exact onMessage_eq .report _ fun _ => rfl
    · exact onMessage_eq .needPeers _ fun _ => rfl
    · exact onMessage_eq .resInterval _ fun _ => rfl
    · exact onMessage_eq .logout _ fun _ => rfl
    · rfl
  | sp =>
    simp only [Connector.handler, SpConnector.handler, Connector.reader]
    split_ifs
    · exact onMessage_eq .register _ fun _ => rfl
    · exact onMessage_eq .status _ fun _ => rfl
    · exact onMessage_eq .resList _ fun _ => rfl
    · exact onMessage_eq .getSp _ fun _ => rfl
    · rfl

theorem receive_eq (tracker : TrackerState R) (datagram : Datagram) :
    receive tracker datagram = match datagram.request with
      | .error reason => .error reason
      | .ok none => .ok (tracker, [])
      | .ok (some request) => request.act tracker datagram.lastReceiveAddr datagram.env := by
  unfold receive handleUdpPacket Datagram.request
  split_ifs
  · rfl
  · simp only [handler_eq]
    cases datagram.connector.reader (datagram.buf 4) with
    | none => rfl
    | some reader =>
      simp only [Option.map_some, acting, outcome_map, declared]
      cases outcome reader (initStreamer (fun i => datagram.buf (5 + i)) (intAt datagram.buf 0 - 5)) <;> rfl

theorem receive_cases {tracker after : TrackerState R} {datagram : Datagram} {sent : List Sent}
    (received : receive tracker datagram = .ok (after, sent)) :
    datagram.request = .ok none ∧ after = tracker ∧ sent = [] ∨
    ∃ request, datagram.request = .ok (some request) ∧
      request.act tracker datagram.lastReceiveAddr datagram.env = .ok (after, sent) := by
  rw [receive_eq] at received
  cases found : datagram.request with
  | error reason => simp [found] at received
  | ok request =>
    cases request with
    | none =>
      simp only [found, Except.ok.injEq, Prod.mk.injEq] at received
      exact Or.inl ⟨rfl, received.1.symm, received.2.symm⟩
    | some request =>
      simp only [found] at received
      exact Or.inr ⟨request, rfl, received⟩

theorem receive_of_request {datagram : Datagram} {request : Request} (found : datagram.request = .ok (some request))
    (tracker : TrackerState R) :
    receive tracker datagram = request.act tracker datagram.lastReceiveAddr datagram.env := by
  rw [receive_eq, found]

theorem step_cases {tracker after : TrackerState R} {event : Event} (taken : step tracker event = some after) :
    (∃ datagram, event = .datagram datagram ∧ datagram.request = .ok none ∧ after = tracker) ∨
    (∃ datagram request sent, event = .datagram datagram ∧ datagram.request = .ok (some request) ∧
      request.act tracker datagram.lastReceiveAddr datagram.env = .ok (after, sent)) ∨
    ∃ currTime, event = .timerCheck currTime ∧
      after = { tracker with npnodeMap := tracker.npnodeMap.timerCheck currTime } := by
  cases event with
  | timerCheck currTime =>
    simp only [step, Option.some.injEq] at taken
    exact Or.inr (Or.inr ⟨currTime, rfl, taken.symm⟩)
  | datagram datagram =>
    simp only [step, Option.map_eq_some_iff] at taken
    obtain ⟨⟨next, sent⟩, received, rfl⟩ := taken
    cases result : receive tracker datagram with
    | error reason => simp [result, Except.toOption] at received
    | ok pair =>
      simp only [result, Except.toOption, Option.some.injEq] at received
      rw [received] at result
      rcases receive_cases result with ⟨nothing, same, _⟩ | ⟨request, found, acted⟩
      · exact Or.inl ⟨datagram, rfl, nothing, same⟩
      · exact Or.inr (Or.inl ⟨datagram, request, sent, rfl, found, acted⟩)

theorem acted_of_step {tracker after : TrackerState R} {datagram : Datagram} {request : Request}
    (found : datagram.request = .ok (some request)) (taken : step tracker (.datagram datagram) = some after) :
    ∃ sent, request.act tracker datagram.lastReceiveAddr datagram.env = .ok (after, sent) := by
  simp only [step, receive_of_request found, Option.map_eq_some_iff] at taken
  obtain ⟨⟨next, sent⟩, acted, rfl⟩ := taken
  cases result : request.act tracker datagram.lastReceiveAddr datagram.env with
  | error reason => simp [result, Except.toOption] at acted
  | ok pair =>
    simp only [result, Except.toOption, Option.some.injEq] at acted
    exact ⟨sent, by rw [acted]⟩

/-- What a request may do to the nodes of normal peers: nothing, put one under a uuid drawn for it,
write back one that was there, or take one away. -/
def ChangesNodes (request : Request) (lastReceiveAddr : NetAddress) (env : Env)
    (tracker after : TrackerState R) : Prop :=
  after.npnodeMap = tracker.npnodeMap ∨
  (∃ login uuid, request = .login login ∧ login.localIpListSize ≠ 0 ∧ uuid = (generateUuid R tracker.rng).1 ∧
    after.npnodeMap = tracker.npnodeMap.insertNode uuid (NpConnector.loginNode login lastReceiveAddr env.now uuid)) ∨
  (∃ uuid stored node, tracker.npnodeMap.getNode uuid = some stored ∧
    (NpConnector.Asks stored node ∨ ∃ report, request = .report report ∧ NpConnector.Reports report stored node) ∧
    after.npnodeMap = tracker.npnodeMap.insertNode uuid node) ∨
  ∃ logout, request = .logout logout ∧ after.npnodeMap = tracker.npnodeMap.deleteNode (.ofUuid logout.uuid)

theorem changesNodes_asks {request : Request} {tracker after : TrackerState R} {lastReceiveAddr : NetAddress}
    {env : Env} {sent : List Sent} {uuid : MapStr}
    (acted : request.act tracker lastReceiveAddr env = .ok (after, sent))
    (serves : NpConnector.Serves uuid NpConnector.Asks tracker (request.act tracker lastReceiveAddr env)) :
    ChangesNodes request lastReceiveAddr env tracker after := by
  obtain endless | ⟨_, _, ended, _, same | ⟨stored, node, known, asks, changed⟩⟩ := serves
  · cases endless.symm.trans acted
  · cases ended.symm.trans acted
    exact Or.inl same
  · cases ended.symm.trans acted
    exact Or.inr (Or.inr (Or.inl ⟨uuid, stored, node, known, Or.inl asks, changed⟩))

theorem changesNodes_act {request : Request} {tracker after : TrackerState R} {lastReceiveAddr : NetAddress}
    {env : Env}
    {sent : List Sent} (acted : request.act tracker lastReceiveAddr env = .ok (after, sent)) :
    ChangesNodes request lastReceiveAddr env tracker after := by
  cases request with
  | login message =>
    by_cases addresses : message.localIpListSize = 0
    · cases (NpConnector.getLogin_none addresses tracker lastReceiveAddr env).symm.trans acted
      exact Or.inl rfl
    · cases (NpConnector.getLogin_some addresses rfl lastReceiveAddr env).symm.trans acted
      exact Or.inr (Or.inl ⟨message, _, rfl, addresses, rfl, rfl⟩)
  | reqRes message => exact changesNodes_asks acted (NpConnector.serves_getReqRes message tracker lastReceiveAddr env)
  | report message =>
    obtain ⟨_, same | ⟨stored, node, known, reports, changed⟩⟩ := NpConnector.updates_receiveReport acted
    · exact Or.inl same
    · exact Or.inr (Or.inr (Or.inl ⟨_, stored, node, known, Or.inr ⟨message, rfl, reports⟩, changed⟩))
  | needPeers message =>
    exact changesNodes_asks acted (NpConnector.serves_getNeedPeers message tracker lastReceiveAddr env)
  | resInterval message =>
    exact changesNodes_asks acted (NpConnector.serves_getResInterval message tracker lastReceiveAddr env)
  | logout message =>
    cases acted
    exact Or.inr (Or.inr (Or.inr ⟨message, rfl, rfl⟩))
  | register message => exact Or.inl (SpConnector.keeps_getRegister acted).1
  | status message => exact Or.inl (SpConnector.keeps_getStatus acted).1
  | resList message => exact Or.inl (SpConnector.keeps_getResList acted).1
  | getSp message =>
    obtain ⟨rfl, _⟩ := SpConnector.getSpList_eq_ok acted
    exact Or.inl rfl

/-- What a request may do to the channels: nothing, put one under a uuid drawn for it, or change
one that is there, whose address stays. -/
def ChangesChannels (request : Request) (lastReceiveAddr : NetAddress) (env : Env) (tracker after : TrackerState R) :
    Prop :=
  after.channelMap = tracker.channelMap ∨
  (∃ register uuid, request = .register register ∧ uuid = (generateUuid R tracker.rng).1 ∧
    tracker.channelMap.insertChannel env.now uuid (SpConnector.registerNode register lastReceiveAddr env.now) =
      .ok after.channelMap) ∨
  ∃ uuid entry changed node, tracker.channelMap.find uuid = some entry ∧ changed.spAddress = entry.2.spAddress ∧
    ChannelNode.assign env.now changed = .ok node ∧ after.channelMap = tracker.channelMap.adjust uuid fun _ => node

theorem changesChannels_serves {request : Request} {tracker after : TrackerState R} {lastReceiveAddr : NetAddress}
    {env : Env} {sent : List Sent} {uuid : MapStr} {changes : NPNode → NPNode → Prop}
    (acted : request.act tracker lastReceiveAddr env = .ok (after, sent))
    (serves : NpConnector.Serves uuid changes tracker (request.act tracker lastReceiveAddr env)) :
    ChangesChannels request lastReceiveAddr env tracker after := by
  obtain endless | ⟨_, _, ended, same, _⟩ := serves
  · cases endless.symm.trans acted
  · cases ended.symm.trans acted
    exact Or.inl same

theorem changesChannels_update {request : Request} {tracker after : TrackerState R} {lastReceiveAddr : NetAddress}
    {env : Env} {sent : List Sent} {uuid : MapStr} {change : ChannelNode → ChannelNode}
    (keeps : ∀ chnl : ChannelNode, (change chnl).spAddress = chnl.spAddress)
    (updated : SpConnector.updateChannel uuid change tracker lastReceiveAddr env = .ok (after, sent)) :
    ChangesChannels request lastReceiveAddr env tracker after := by
  obtain ⟨_, ⟨_, rfl⟩ | ⟨entry, pNode, node, known, copied, copiedToo, rfl⟩⟩ :=
    SpConnector.updateChannel_eq_ok updated
  · exact Or.inl rfl
  · refine Or.inr (Or.inr ⟨uuid, entry, change pNode, node, known, ?_, copiedToo, rfl⟩)
    rw [keeps, (ChannelNode.assign_eq_ok.mp copied).2]

theorem changesChannels_act {request : Request} {tracker after : TrackerState R} {lastReceiveAddr : NetAddress}
    {env : Env} {sent : List Sent} (acted : request.act tracker lastReceiveAddr env = .ok (after, sent)) :
    ChangesChannels request lastReceiveAddr env tracker after := by
  cases request with
  | login message =>
    by_cases addresses : message.localIpListSize = 0
    · cases (NpConnector.getLogin_none addresses tracker lastReceiveAddr env).symm.trans acted
      exact Or.inl rfl
    · cases (NpConnector.getLogin_some addresses rfl lastReceiveAddr env).symm.trans acted
      exact Or.inl rfl
  | reqRes message =>
    exact changesChannels_serves acted (NpConnector.serves_getReqRes message tracker lastReceiveAddr env)
  | report message => exact Or.inl (NpConnector.updates_receiveReport acted).1
  | needPeers message =>
    exact changesChannels_serves acted (NpConnector.serves_getNeedPeers message tracker lastReceiveAddr env)
  | resInterval message =>
    exact changesChannels_serves acted (NpConnector.serves_getResInterval message tracker lastReceiveAddr env)
  | logout message =>
    cases acted
    exact Or.inl rfl
  | register message =>
    obtain ⟨uuid, rng, channelMap, drawn, inserted, rfl, _⟩ := SpConnector.getRegister_eq_ok acted
    exact Or.inr (Or.inl ⟨message, uuid, rfl, by rw [drawn], inserted⟩)
  | status message =>
    unfold Request.act SpConnector.getStatus at acted
    apply changesChannels_update _ acted
    intro chnl
    rfl
  | resList message =>
    unfold Request.act SpConnector.getResList at acted
    apply changesChannels_update _ acted
    intro chnl
    rfl
  | getSp message =>
    obtain ⟨rfl, _⟩ := SpConnector.getSpList_eq_ok acted
    exact Or.inl rfl

structure Complete (buf : Memory) (nbBuf : Nat) (tag : UInt8) (body : List UInt8) : Prop where
  packet : view buf 0 nbBuf = frame tag body
  small : nbBuf ≤ 65535

theorem Complete.length {buf : Memory} {nbBuf : Nat} {tag : UInt8} {body : List UInt8}
    (complete : Complete buf nbBuf tag body) : nbBuf = 5 + body.length := by
  have lengths := congrArg List.length complete.packet
  rwa [view_length, frame_length] at lengths

theorem Complete.parts {buf : Memory} {nbBuf : Nat} {tag : UInt8} {body : List UInt8}
    (complete : Complete buf nbBuf tag body) :
    intAt buf 0 = 5 + body.length ∧ buf 4 = tag ∧ view buf 5 body.length = body := by
  have packet := complete.packet
  have length := complete.length
  have small := complete.small
  rw [length] at packet
  simpa using frame_parts packet (by omega)

theorem Complete.declared {buf : Memory} {nbBuf : Nat} {tag : UInt8} {body : List UInt8}
    (complete : Complete buf nbBuf tag body) : declared buf = body := by
  obtain ⟨total, _, content⟩ := complete.parts
  have rest : intAt buf 0 - 5 = body.length := by omega
  rw [Server.declared, rest, ← content]
  simp [initStreamer, view]

theorem Complete.request {datagram : Datagram} {tag : UInt8} {body : List UInt8}
    (complete : Complete datagram.buf datagram.nbBuf tag body) {M : Type} [RsParsed M] {message : M}
    (reads : Reads RsParsed.parse body message) {wrap : M → Request}
    (type : datagram.connector.reader tag = some (readAs wrap)) : datagram.request = .ok (some (wrap message)) := by
  have length := complete.length
  obtain ⟨_, tagged, _⟩ := complete.parts
  have read := (reads.map wrap) []
  rw [List.append_nil] at read
  have ended : outcome (readAs wrap) body = .ok (wrap message) := by
    rw [outcome, readAs, read]
  simp only [Datagram.request, if_neg (show datagram.nbBuf ≠ 0 by omega), tagged, type, complete.declared, ended]
  rfl

def Request.connector : Request → Connector
  | .login _ | .reqRes _ | .report _ | .needPeers _ | .resInterval _ | .logout _ => .np
  | .register _ | .status _ | .resList _ | .getSp _ => .sp

theorem connector_of_request {datagram : Datagram} {request : Request}
    (found : datagram.request = .ok (some request)) : request.connector = datagram.connector := by
  obtain ⟨_, reader, type, read⟩ := request_eq_some.mp found
  have reads : ∀ {M : Type} [RsParsed M] (wrap : M → Request),
      (∀ message, (wrap message).connector = datagram.connector) →
      readAs wrap = reader → request.connector = datagram.connector := by
    intro M _ wrap own same
    have mapped := outcome_map (RsParsed.parse (M := M)) wrap (declared datagram.buf)
    rw [show (do let message ← RsParsed.parse; pure (wrap message)) = readAs wrap from rfl, same, read] at mapped
    cases parsed : outcome (RsParsed.parse (M := M)) (declared datagram.buf) with
    | error reason => simp [parsed, Except.map] at mapped
    | ok message =>
      simp only [parsed, Except.map, Except.ok.injEq] at mapped
      rw [mapped]
      exact own message
  cases side : datagram.connector with
  | np =>
    simp only [side, Connector.reader] at type
    split_ifs at type
    · exact side ▸ reads .login (fun _ => side.symm) (Option.some.inj type)
    · exact side ▸ reads .reqRes (fun _ => side.symm) (Option.some.inj type)
    · exact side ▸ reads .report (fun _ => side.symm) (Option.some.inj type)
    · exact side ▸ reads .needPeers (fun _ => side.symm) (Option.some.inj type)
    · exact side ▸ reads .resInterval (fun _ => side.symm) (Option.some.inj type)
    · exact side ▸ reads .logout (fun _ => side.symm) (Option.some.inj type)
  | sp =>
    simp only [side, Connector.reader] at type
    split_ifs at type
    · exact side ▸ reads .register (fun _ => side.symm) (Option.some.inj type)
    · exact side ▸ reads .status (fun _ => side.symm) (Option.some.inj type)
    · exact side ▸ reads .resList (fun _ => side.symm) (Option.some.inj type)
    · exact side ▸ reads .getSp (fun _ => side.symm) (Option.some.inj type)

def Request.tag : Request → UInt8
  | .login _ => NP2TS_LOGIN
  | .reqRes _ => NP2TS_REQ_RES
  | .report _ => NP2TS_REPORT
  | .needPeers _ => NP2TS_NEED_PEERS
  | .resInterval _ => NP2TS_RES_INTERVAL
  | .logout _ => NP2TS_LOGOUT
  | .register _ => SP2TS_REGISTER
  | .status _ => SP2TS_STATUS
  | .resList _ => SP2TS_RES_LIST
  | .getSp _ => SP2TS_GET_SP

def Request.body : Request → List UInt8
  | .login msg => le32 msg.loginId ++ (msg.password.data ++ (le32 msg.clientVersion ++ (le16 msg.listeningPort ++
      ([msg.localIpListSize] ++ msg.ipAddr.flatMap le32))))
  | .reqRes msg => msg.uuid.data ++ msg.resourceMd5.data
  | .report msg => reportBody msg
  | .needPeers msg => msg.uuid.data ++ le32 msg.currentBlock
  | .resInterval msg => msg.uuid.data
  | .logout msg => msg.uuid.data
  | .register msg => le32 msg.userId ++ (msg.password.data ++ le16 msg.servicePort)
  | .status msg => msg.spUuid.data ++ (le32 msg.resourceCount ++ (le16 msg.connectionNum ++
      (le32 msg.bandwidth ++ [msg.exceedMaxConnection])))
  | .resList msg => msg.spUuid.data ++ (le32 msg.resourceCount ++ msg.resInfo.flatMap ResourceInfo.toBytes)
  | .getSp msg => msg.spUuid.data

def Request.Counted : Request → Prop
  | .login msg => msg.ipAddr.length = msg.localIpListSize.toNat
  | .report msg => msg.blockinterval.length = msg.intervalCount.toNat
  | .resList msg => msg.resInfo.length = msg.resourceCount.toNat
  | _ => True

/-- The uuid by which a peer that is logged in names itself. -/
def Request.uuid : Request → Option MapStr
  | .reqRes msg => some (.ofUuid msg.uuid)
  | .report msg => some (.ofUuid msg.uuid)
  | .needPeers msg => some (.ofUuid msg.uuid)
  | .resInterval msg => some (.ofUuid msg.uuid)
  | .logout msg => some (.ofUuid msg.uuid)
  | _ => none

/-- A complete, well-formed datagram with this request in it. -/
structure Datagram.Carries (datagram : Datagram) (request : Request) : Prop where
  connector : datagram.connector = request.connector
  complete : Complete datagram.buf datagram.nbBuf request.tag request.body
  counted : request.Counted

theorem Datagram.Carries.request {datagram : Datagram} {request : Request} (carries : datagram.Carries request) :
    datagram.request = .ok (some request) := by
  obtain ⟨connector, complete, counted⟩ := carries
  cases request with
  | login msg => exact complete.request (encodes_login msg counted).reads (by rw [connector]; rfl)
  | reqRes msg => exact complete.request (encodes_reqRes msg).reads (by rw [connector]; rfl)
  | report msg => exact complete.request (reads_report msg counted) (by rw [connector]; rfl)
  | needPeers msg => exact complete.request (encodes_needPeers msg).reads (by rw [connector]; rfl)
  | resInterval msg => exact complete.request (encodes_reqInterval msg).reads (by rw [connector]; rfl)
  | logout msg => exact complete.request (encodes_logout msg).reads (by rw [connector]; rfl)
  | register msg => exact complete.request (encodes_register msg).reads (by rw [connector]; rfl)
  | status msg => exact complete.request (encodes_status msg).reads (by rw [connector]; rfl)
  | resList msg => exact complete.request (encodes_resList msg counted).reads (by rw [connector]; rfl)
  | getSp msg => exact complete.request (encodes_getSp msg).reads (by rw [connector]; rfl)

def Request.datagram (request : Request) (lastReceiveAddr : NetAddress) (env : Env) : Datagram :=
  ⟨request.connector, lastReceiveAddr, .ofBytes (frame request.tag request.body), 5 + request.body.length, env⟩

theorem Request.carries {request : Request} (counted : request.Counted) (small : 5 + request.body.length ≤ 65535)
    (lastReceiveAddr : NetAddress) (env : Env) : (request.datagram lastReceiveAddr env).Carries request where
  connector := rfl
  complete := by
    refine ⟨?_, small⟩
    have whole := view_ofBytes [] (frame request.tag request.body) []
    simp only [List.nil_append, List.append_nil, List.length_nil, frame_length] at whole
    exact whole
  counted := counted

end RabbitStreamer.Tracker.Server
