import RabbitStreamer.Core.MessageCodec
import RabbitStreamer.Lib.Memory
import RabbitStreamer.Sp.SourceManager

/-! `RsSpTrackerProtocol`: how a super peer talks to the tracker. -/

namespace RabbitStreamer.Sp.TrackerConnector
open RabbitStreamer.Lib RabbitStreamer.Lib.Bytes RabbitStreamer.Lib.Codec RabbitStreamer.Lib.Memory
open RabbitStreamer.Core.Struct RabbitStreamer.Core.Streamer RabbitStreamer.Core.Message
open RabbitStreamer.Core.Message.P2PMESSAGE RabbitStreamer.Core.MessageCodec
open RabbitStreamer.Sp.SourceManager RabbitStreamer.Sp.SourceManager.SourceMap

abbrev UDP_MAX_PACKET_SIZE : Nat := 65535
abbrev TRACKER_TIMER_ID : Int := 0
abbrev TRACKER_GET_SP_LIST_TIMER_ID : Int := 1

/-- The receive area, and how far into it `recv_buf` has been moved. -/
structure RsSpTrackerProtocol where
  area : Memory
  recvBuf : Nat
  registerFlag : Bool
  spId : ByteArr UUID_LENGTH
  spPort : UInt16

def RsSpTrackerProtocol.init (area : Memory) (spId : ByteArr UUID_LENGTH) : RsSpTrackerProtocol :=
  ⟨area, 0, false, spId, 2222⟩

/-- What a call finds: the memory of a fresh message and the channels of the super peer. -/
structure Host where
  heap : Heap
  sources : SourceMap

abbrev Call := RsSpTrackerProtocol → Host → Except Halt (RsSpTrackerProtocol × List (List UInt8))

/-- `io->write` of a packed message. -/
def writePacked {M : Type} [RsMessage M] (message : M) : Call := fun sp host =>
  (pack host.heap message).map fun payload => (sp, [payload])

def registerMsg (sp : RsSpTrackerProtocol) : Sp2TsRegister := ⟨0x04030201, .fill MD5_LEN 0, sp.spPort⟩

def sendRegister : Call := fun sp host => writePacked (registerMsg sp) sp host

def resourceInfo (source : SourceStatus) : ResourceInfo :=
  ⟨.ofList MD5_LEN (source.chnlHash.hash.data.take MD5_LEN), source.blockInter⟩

def resListMsg (sp : RsSpTrackerProtocol) (sources : List SourceStatus) : Sp2TsResList :=
  ⟨sp.spId, UInt32.ofNat sources.length, sources.map resourceInfo⟩

def sendResList : Call := fun sp host =>
  let resList := resListMsg sp host.sources.getSourceList
  if resList.resourceCount = 0 then .ok (sp, [])
  else writePacked resList sp host

def sendSpList : Call := fun sp host => writePacked (⟨sp.spId⟩ : Sp2TsSpList) sp host

/-- The bytes that the size of a message at `temp` lets a parser at. -/
def message (area : Memory) (temp : Nat) (msgSize : Int) : List UInt8 :=
  initStreamer (fun i => area (temp + 5 + i)) (msgSize - 5)

/-- A fault where the uuid does not lie in the area. -/
def getWelcome (temp : Nat) (msgSize : Int) : Call := fun sp _ =>
  match outcome (RsParsed.parse (M := Ts2SpWelcome)) (message sp.area temp msgSize) with
  | .error reason => .error reason
  | .ok welcomeMsg =>
      if UDP_MAX_PACKET_SIZE < temp + 5 + UUID_LENGTH then .error .fault
      else .ok ({ sp with spId := welcomeMsg.spUuid, registerFlag := true }, [])

def getSpList : Call := fun sp _ => .ok (sp, [])

def getResInterval : Call := fun sp host => if sp.registerFlag then sendResList sp host else sendRegister sp host

/-- One packet; `recv_buf` moves behind its header and is never moved back. A fault where the
packet or its header does not lie in what is left of the area. -/
def loop (payload : List UInt8) : Call := fun sp host =>
  if payload = [] then .ok (sp, [])
  else
    let temp := sp.recvBuf
    if UDP_MAX_PACKET_SIZE < temp + max payload.length 5 then .error .fault
    else
      let area := write sp.area temp payload
      let msgSize := intAt area temp
      let msgType := area (temp + 4)
      let received := { sp with area, recvBuf := temp + 5 }
      if msgType = TS2SP_WELCOME then getWelcome temp msgSize received host
      else if msgType = TS2SP_SP_LIST then getSpList received host
      else if msgType = TS2SP_GET_RES_LIST then getResInterval received host
      else .ok (received, [])

def handleTimeout (timerid : Int) : Call := fun sp host =>
  if !sp.registerFlag then sendRegister sp host
  else if timerid = TRACKER_TIMER_ID then sendResList sp host
  else if timerid = TRACKER_GET_SP_LIST_TIMER_ID then sendSpList sp host
  else .ok (sp, [])

def Keeps (call : Call) : Prop := ∀ sp host after sent, call sp host = .ok (after, sent) → after = sp

theorem writePacked_keeps {M : Type} [RsMessage M] {message : M} {sp after : RsSpTrackerProtocol} {host : Host}
    {sent : List (List UInt8)} (written : writePacked message sp host = .ok (after, sent)) : after = sp := by
  unfold writePacked at written
  generalize pack host.heap message = packed at written
  cases packed with
  | error reason => cases written
  | ok payload =>
    cases written
    rfl

theorem keeps_sendRegister : Keeps sendRegister := by
  intro sp host after sent called
  unfold sendRegister at called
  exact writePacked_keeps called

theorem keeps_sendSpList : Keeps sendSpList := by
  intro sp host after sent called
  unfold sendSpList at called
  exact writePacked_keeps called

theorem keeps_sendResList : Keeps sendResList := by
  intro sp host after sent called
  unfold sendResList at called
  dsimp only at called
  split_ifs at called with empty
  · exact (Prod.mk.inj (Except.ok.inj called)).1.symm
  · exact writePacked_keeps called

theorem keeps_handleTimeout (timerid : Int) : Keeps (handleTimeout timerid) := by
  intro sp host after sent called
  unfold handleTimeout at called
  split_ifs at called
  · exact keeps_sendRegister sp host after sent called
  · exact keeps_sendResList sp host after sent called
  · exact keeps_sendSpList sp host after sent called
  · exact (Prod.mk.inj (Except.ok.inj called)).1.symm

theorem view_message (area : Memory) (temp : Nat) (msgSize : Int) :
    message area temp msgSize = view area (temp + 5) (msgSize - 5).toNat := by
  simp only [message, initStreamer, view, Nat.add_assoc]

theorem loop_welcome (uuid : ByteArr UUID_LENGTH) (sp : RsSpTrackerProtocol) (host : Host) :
    loop (frame TS2SP_WELCOME uuid.data) sp host =
      if UDP_MAX_PACKET_SIZE < sp.recvBuf + 21 then .error .fault
      else .ok ({ sp with
        area := write sp.area sp.recvBuf (frame TS2SP_WELCOME uuid.data)
        recvBuf := sp.recvBuf + 5
        spId := uuid
        registerFlag := true }, []) := by
  have length : (frame TS2SP_WELCOME uuid.data).length = 21 := by rw [frame_length, uuid.size, UUID_LENGTH]
  have nonempty : frame TS2SP_WELCOME uuid.data ≠ [] := List.ne_nil_of_length_pos (by omega)
  have lies := view_write sp.area sp.recvBuf (frame TS2SP_WELCOME uuid.data)
  rw [frame_length] at lies
  obtain ⟨total, tagged, content⟩ := frame_parts lies (by rw [uuid.size]; decide)
  have read : outcome (RsParsed.parse (M := Ts2SpWelcome)) uuid.data = .ok ⟨uuid⟩ := by
    have parsed := (encodes_spWelcome ⟨uuid⟩).reads []
    rw [List.append_nil] at parsed
    rw [outcome, parsed]
  have body : message (write sp.area sp.recvBuf (frame TS2SP_WELCOME uuid.data)) sp.recvBuf 21 = uuid.data := by
    rw [uuid.size] at content
    exact (view_message ..).trans content
  rw [uuid.size] at total
  unfold loop
  rw [if_neg nonempty]
  dsimp only
  rw [length, show max 21 5 = 21 from rfl]
  by_cases full : UDP_MAX_PACKET_SIZE < sp.recvBuf + 21
  · rw [if_pos full, if_pos full]
  · have inside : ¬UDP_MAX_PACKET_SIZE < sp.recvBuf + 5 + UUID_LENGTH := by
      rwa [Nat.add_assoc, show 5 + UUID_LENGTH = 21 from rfl]
    rw [if_neg full, if_neg full, if_pos tagged, total]
    unfold getWelcome
    dsimp only
    rw [show (5 : Int) + (UUID_LENGTH : Nat) = 21 from rfl, body, read]
    exact if_neg inside

end RabbitStreamer.Sp.TrackerConnector
