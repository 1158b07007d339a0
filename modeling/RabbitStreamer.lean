import RabbitStreamer.Lib.Codec
import RabbitStreamer.Lib.OrderedMap
import RabbitStreamer.Lib.Transition
import RabbitStreamer.Lib.SlidingWindow
import RabbitStreamer.Core.MessageCodec
import RabbitStreamer.Core.IntervalQueries
import RabbitStreamer.Protocol.BufferQueue
import RabbitStreamer.Protocol.Framing
import RabbitStreamer.Sp.SourceManager
import RabbitStreamer.Sp.CsConnector
import RabbitStreamer.Sp.NpConnector
import RabbitStreamer.Sp.BlockRelay
import RabbitStreamer.Tracker.NpConnector
import RabbitStreamer.Tracker.SpConnector
import RabbitStreamer.Tracker.Server
import RabbitStreamer.Tracker.PeerSearch
import RabbitStreamer.Tracker.PeerRounds
import RabbitStreamer.Tracker.Reports
import RabbitStreamer.Tracker.StaleBytes
import RabbitStreamer.Tracker.Endurance
import RabbitStreamer.Tracker.ResourceList
import RabbitStreamer.Tracker.SuperPeerLogout
import RabbitStreamer.Tracker.Advertised
import RabbitStreamer.Tracker.IntervalReplies
import RabbitStreamer.Tracker.Replies
import RabbitStreamer.Tracker.Freshness
import RabbitStreamer.Sp.ChannelCount
import RabbitStreamer.Sp.Idle
import RabbitStreamer.Sp.MediaHeader
import RabbitStreamer.Core.BufferFill
import RabbitStreamer.Protocol.StreamBuffer
import RabbitStreamer.Sp.CaptureBounds
import RabbitStreamer.Sp.ChannelRegister
import RabbitStreamer.Tracker.NodeStore
import RabbitStreamer.Tracker.Expiry
import RabbitStreamer.Tracker.SpAddresses
import RabbitStreamer.Protocol.RingCalls
import RabbitStreamer.Core.TimerChecks
import RabbitStreamer.Core.BitrateCalculator
import RabbitStreamer.Core.IntervalCopy
import RabbitStreamer.Core.IntervalMemory
import RabbitStreamer.Sp.ReceiveBuffer
import RabbitStreamer.Sp.ChannelIdentity
import RabbitStreamer.Tracker.SpLists
import RabbitStreamer.Tracker.PublicPeers
import RabbitStreamer.Tracker.UuidTexts
import RabbitStreamer.Tracker.Answers
import RabbitStreamer.Sp.Announcements
import RabbitStreamer.Sp.ChannelDigest
import RabbitStreamer.Sp.Connections
import RabbitStreamer.Sp.PushLists
import RabbitStreamer.Sp.CaptureStreams
import RabbitStreamer.Core.IntervalMeaning
import RabbitStreamer.Sp.Delivery
