import RabbitStreamer.Core.MessageExtent
import RabbitStreamer.Tracker.Server

/-! Datagrams that hold less than their type calls for. -/

namespace RabbitStreamer.Tracker.ShortDatagrams
open RabbitStreamer.Lib RabbitStreamer.Lib.Bytes RabbitStreamer.Lib.Codec RabbitStreamer.Lib.CString
open RabbitStreamer.Lib.Memory RabbitStreamer.Core.Struct RabbitStreamer.Core.StructDefine
open RabbitStreamer.Core.Streamer RabbitStreamer.Core.Message RabbitStreamer.Core.Message.P2PMESSAGE
open RabbitStreamer.Core.MessageCodec RabbitStreamer.Core.MessageExtent
open RabbitStreamer.Tracker.Uuid RabbitStreamer.Tracker.NpManager RabbitStreamer.Tracker.StreamerManager
open RabbitStreamer.Tracker.State RabbitStreamer.Tracker.Server

variable {R : Rand}

def needed (msgType : UInt8) (bytes : List UInt8) : Nat :=
  if msgType = NP2TS_LOGIN then 43 + 4 * byteAt bytes 42
  else if msgType = NP2TS_REQ_RES then 48
  else if msgType = NP2TS_REPORT then 77 + 8 * byteAt bytes 20
  else if msgType = NP2TS_NEED_PEERS then 20
  else if msgType = NP2TS_RES_INTERVAL then 16
  else if msgType = NP2TS_LOGOUT then 16
  else if msgType = SP2TS_REGISTER then 38
  else if msgType = SP2TS_STATUS then 27
  else if msgType = SP2TS_RES_LIST then 20 + 40 * wordAt bytes 16
  else if msgType = SP2TS_GET_SP then 16
  else 0

/-- A parser takes the bytes its type needs, and the request tells all of them and the type; its
lists are as long as their counts say. -/
theorem reader_spec {connector : Connector} {msgType : UInt8} {reader : RsReader Request}
    (handled : connector.reader msgType = some reader) :
    Needs reader .assertion (needed msgType) ∧ Spells reader [] Request.body ∧
      Yields reader fun request => request.tag = msgType ∧ request.Counted := by
  cases connector with
  | np =>
    simp only [Connector.reader] at handled
    split_ifs at handled with login reqRes report needPeers resInterval logout
    · cases handled
      subst login
      exact ⟨needs_login.map _, spells_login.bind fun _ => Spells.pure rfl,
        counted_login.bind fun _ counted => Yields.pure ⟨rfl, counted⟩⟩
    · cases handled
      subst reqRes
      exact ⟨needs_reqRes.map _, spells_reqRes.bind fun _ => Spells.pure rfl,
        (Yields.any _).bind fun _ _ => Yields.pure ⟨rfl, trivial⟩⟩
    · cases handled
      subst report
      exact ⟨needs_report.map _, spells_report.bind fun _ => Spells.pure rfl,
        counted_report.bind fun _ counted => Yields.pure ⟨rfl, counted⟩⟩
    · cases handled
      subst needPeers
      exact ⟨needs_needPeers.map _, spells_needPeers.bind fun _ => Spells.pure rfl,
        (Yields.any _).bind fun _ _ => Yields.pure ⟨rfl, trivial⟩⟩
    · cases handled
      subst resInterval
      exact ⟨needs_reqInterval.map _, spells_reqInterval.bind fun _ => Spells.pure rfl,
        (Yields.any _).bind fun _ _ => Yields.pure ⟨rfl, trivial⟩⟩
    · cases handled
      subst logout
      exact ⟨needs_logout.map _, spells_logout.bind fun _ => Spells.pure rfl,
        (Yields.any _).bind fun _ _ => Yields.pure ⟨rfl, trivial⟩⟩
  | sp =>
    simp only [Connector.reader] at handled
    split_ifs at handled with register status resList getSp
    · cases handled
      subst register
      exact ⟨needs_register.map _, spells_register.bind fun _ => Spells.pure rfl,
        (Yields.any _).bind fun _ _ => Yields.pure ⟨rfl, trivial⟩⟩
    · cases handled
      subst status
      exact ⟨needs_status.map _, spells_status.bind fun _ => Spells.pure rfl,
        (Yields.any _).bind fun _ _ => Yields.pure ⟨rfl, trivial⟩⟩
    · cases handled
      subst resList
      exact ⟨needs_resList.map _, spells_resList.bind fun _ => Spells.pure rfl,
        counted_resList.bind fun _ counted => Yields.pure ⟨rfl, counted⟩⟩
    · cases handled
      subst getSp
      exact ⟨needs_getSp.map _, spells_getSp.bind fun _ => Spells.pure rfl,
        (Yields.any _).bind fun _ _ => Yields.pure ⟨rfl, trivial⟩⟩

def held (datagram : Datagram) : List UInt8 := (declared datagram.buf).take (datagram.nbBuf - 5)

def Short (datagram : Datagram) (bytes : List UInt8) : Prop :=
  (datagram.connector.reader (datagram.buf 4)).isSome ∧ bytes.length < needed (datagram.buf 4) bytes

instance (datagram : Datagram) (bytes : List UInt8) : Decidable (Short datagram bytes) :=
  inferInstanceAs (Decidable (_ ∧ _))

theorem request_of_enough {datagram : Datagram} {reader : RsReader Request} (received : datagram.nbBuf ≠ 0)
    (handled : datagram.connector.reader (datagram.buf 4) = some reader)
    (enough : needed (datagram.buf 4) (declared datagram.buf) ≤ (declared datagram.buf).length) :
    ∃ request, datagram.request = .ok (some request) ∧ outcome reader (declared datagram.buf) = .ok request := by
  obtain ⟨request, ran⟩ := (reader_spec handled).1.succeeds enough
  have ended : outcome reader (declared datagram.buf) = .ok request := by
    have alone := ran []
    rw [List.append_nil] at alone
    rw [outcome, alone]
  exact ⟨request, request_eq_some.mpr ⟨received, reader, handled, ended⟩, ended⟩

theorem request_of_short {datagram : Datagram} (received : datagram.nbBuf ≠ 0)
    (short : Short datagram (declared datagram.buf)) : datagram.request = .error .assertion := by
  obtain ⟨reader, handled⟩ := Option.isSome_iff_exists.mp short.1
  simp only [Datagram.request, if_neg received, handled, (reader_spec handled).1.fails short.2]
  rfl

theorem counted_of_request {datagram : Datagram} {request : Request} (found : datagram.request = .ok (some request)) :
    request.Counted := by
  obtain ⟨_, reader, handled, ended⟩ := request_eq_some.mp found
  obtain ⟨rest, ran⟩ := outcome_eq_ok ended
  exact ((reader_spec handled).2.2 _ _ _ ran).2

end RabbitStreamer.Tracker.ShortDatagrams
