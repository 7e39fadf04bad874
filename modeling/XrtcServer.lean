import XrtcServer.Base.LockFreeQueueRuns
import XrtcServer.Stream.Removal
import XrtcServer.Stream.Rooms
import XrtcServer.Stream.Routing
import XrtcServer.Signaling.Xrpc
import XrtcServer.Signaling.ReadRoom
import XrtcServer.Signaling.Answers
import XrtcServer.Signaling.Replies
import XrtcServer.Signaling.WriteLoop
import XrtcServer.Ice.PortConnections
import XrtcServer.Ice.StunAuthenticated
import XrtcServer.Ice.StunSigned
import XrtcServer.Ice.Responses
import XrtcServer.Ice.StunRequest
import XrtcServer.Ice.ChannelState
import XrtcServer.Ice.BindingRequest
import XrtcServer.Ice.WriteStates
import XrtcServer.Ice.Ranking
import XrtcServer.Ice.PingSchedule
import XrtcServer.Rtc.DispatchRuns
import XrtcServer.Rtc.Certificate
import XrtcServer.Sdp.Tracks
import XrtcServer.Sdp.RoundTrip
import XrtcServer.Sdp.Shown
import XrtcServer.Sdp.Values
import XrtcServer.Sdp.Outcomes
import XrtcServer.Pc.Handshake
import XrtcServer.Pc.Writability
import XrtcServer.Pc.ConnectionState
import XrtcServer.Base.Log
import XrtcServer.Stream.Frames
import XrtcServer.Ice.PairPriority
import XrtcServer.Ice.Receiving
import XrtcServer.Ice.SendOrder
import XrtcServer.Pc.DtlsRecords
import XrtcServer.Pc.RemoteSdp
import XrtcServer.Sdp.Insertion
import XrtcServer.Ice.SortOrder
import XrtcServer.Signaling.RoundRobin
import XrtcServer.Signaling.Actions
import XrtcServer.Pc.SrtpUsage
import XrtcServer.Ice.FingerprintErrors
import XrtcServer.Ice.PingRuns
import XrtcServer.Rtc.Service
import XrtcServer.Signaling.NewConnections
import XrtcServer.Pc.MediaPackets
import XrtcServer.Pc.PullOffer
import XrtcServer.Pc.StreamInterface
import XrtcServer.Base.Buffer
import XrtcServer.Base.BufferQueue
import XrtcServer.Base.CopyOnWriteBuffer
