import RabbitStreamer.Core.Message
import RabbitStreamer.Lib.Memory
import RabbitStreamer.Tracker.NpManager
import RabbitStreamer.Tracker.StreamerManager

/-! The state of the tracker and the receipt of a datagram, which is the same for both of its
connectors. Two writes past the end of an array are taken to hit nothing: those of `sprintf` behind a
uuid and those of `pack` behind a list of peers. -/

namespace RabbitStreamer.Tracker.State
open RabbitStreamer.Lib RabbitStreamer.Lib.Bytes RabbitStreamer.Lib.Codec RabbitStreamer.Lib.Memory
open RabbitStreamer.Core.Struct RabbitStreamer.Core.StructDefine RabbitStreamer.Core.Streamer
open RabbitStreamer.Core.Message RabbitStreamer.Tracker.Uuid RabbitStreamer.Tracker.NpManager
open RabbitStreamer.Tracker.StreamerManager

variable {R : Rand}

/-- Both maps, the generator they share and the last interval sent. -/
structure TrackerState (R : Rand) where
  npnodeMap : NpnodeMap
  channelMap : ChannelMap
  rng : R.State
  lastSendBlockinterval : BlockInterval

/-- The tracker at its start; the size of the last interval is not set. -/
def TrackerState.start (R : Rand) (rng : R.State) (unset : UInt32) : TrackerState R :=
  ⟨.empty, .empty, rng, .init unset⟩

/-- What a handler takes from its surroundings: the clock, the memory of a fresh message area, a size
and the byte of a flag that nothing sets, how many passes the peer search is granted, and how many
intervals there is memory for, used by nothing else, where the unset pointer of a report leads. -/
structure Env where
  now : Int
  heap : Heap
  unsetSize : UInt32
  unsetFlag : UInt8
  passes : Nat
  intervalRoom : Nat

/-- What a handler sends: to the sender of the datagram, or into `io`, whose descriptor nothing
has set. -/
inductive Sent where
  | sendto (lastReceiveAddr : NetAddress) (payload : List UInt8)
  | write (payload : List UInt8)
  deriving DecidableEq

abbrev Action (R : Rand) := TrackerState R → NetAddress → Env → Except Halt (TrackerState R × List Sent)

/-- `send_buffer` of a packed message. -/
def sendBuffer {M : Type} [RsMessage M] (env : Env) (lastReceiveAddr : NetAddress) (message : M) :
    Except Halt (List Sent) :=
  (pack env.heap message).map fun payload => [.sendto lastReceiveAddr payload]

abbrev Handler (R : Rand) := UInt8 → Option (RsReader (Action R))

/-- `handle_udp_packet`: the size in the packet bounds what is parsed; `nb_buf` is looked at only
for being zero. -/
def handleUdpPacket (handler : Handler R) (tracker : TrackerState R) (lastReceiveAddr : NetAddress) (env : Env)
    (buf : Memory) (nbBuf : Nat) : Except Halt (TrackerState R × List Sent) :=
  if nbBuf = 0 then .ok (tracker, [])
  else
    let msgSize := intAt buf 0
    let msgType := buf 4
    match handler msgType with
    | none => .ok (tracker, [])
    | some reader =>
        match outcome reader (initStreamer (fun i => buf (5 + i)) (msgSize - 5)) with
        | .error reason => .error reason
        | .ok action => action tracker lastReceiveAddr env

def onMessage {M : Type} [RsParsed M] (action : M → Action R) : Option (RsReader (Action R)) :=
  some do
    let message ← RsParsed.parse
    pure (action message)

end RabbitStreamer.Tracker.State
