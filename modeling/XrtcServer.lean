import XrtcServer.Common.Run
import XrtcServer.Common.Loop
import XrtcServer.Common.Relay
import XrtcServer.Common.Bytes
import XrtcServer.Common.Text
import XrtcServer.Base.Model.EventLoop
import XrtcServer.Base.Model.Rtc
import XrtcServer.Server.Model.Request
import XrtcServer.Server.Model.Connection
import XrtcServer.Server.Model.Worker
import XrtcServer.Server.Model.RtcWorker
import XrtcServer.Server.Model.Dispatch
import XrtcServer.Server.Request
import XrtcServer.Server.Framing
import XrtcServer.Server.OneRequest
import XrtcServer.Server.Replies
import XrtcServer.Server.Envelope
import XrtcServer.Server.Model.Dump
import XrtcServer.Server.Events
import XrtcServer.Server.Blocked
import XrtcServer.Server.Timeouts
import XrtcServer.Server.ReplyBuffer
import XrtcServer.Server.Dispatch
import XrtcServer.Stream.Model.Manager
import XrtcServer.Stream.Registry
import XrtcServer.Stream.Ownership
import XrtcServer.Ice.Model.Connection
import XrtcServer.Ice.Model.Controller
import XrtcServer.Ice.Model.Channel
import XrtcServer.Ice.Ranking
import XrtcServer.Ice.PairPriority
import XrtcServer.Ice.Registered
import XrtcServer.Ice.Effects
import XrtcServer.Ice.Selection
import XrtcServer.Ice.Agreement
import XrtcServer.Ice.Methods
import XrtcServer.Ice.Deadlines
import XrtcServer.Ice.OneSelected
import XrtcServer.Ice.Lifetime
import XrtcServer.Ice.Writable
import XrtcServer.Ice.Model.Stun
import XrtcServer.Ice.Attributes
import XrtcServer.Ice.Wire
import XrtcServer.Ice.RoundTrip
import XrtcServer.Ice.Model.Port
import XrtcServer.Ice.Requests
import XrtcServer.Ice.ErrorCode
import XrtcServer.Ice.Credentials
import XrtcServer.Ice.Mapped
import XrtcServer.Ice.Protected
import XrtcServer.Ice.Walk
import XrtcServer.Ice.Offsets
import XrtcServer.Base.Model.RtcText
import XrtcServer.Common.Keyed
import XrtcServer.Pc.Model.SessionDescription
import XrtcServer.Pc.Model.RemoteSdp
import XrtcServer.Pc.Model.TransportController
import XrtcServer.Pc.Model.PeerConnection
import XrtcServer.Pc.Lines
import XrtcServer.Pc.Transports
import XrtcServer.Pc.Finishes
import XrtcServer.Pc.Keys
import XrtcServer.Pc.Replaced
import XrtcServer.Pc.LineEnds
import XrtcServer.Pc.Prefixes
import XrtcServer.Pc.Delivered
import XrtcServer.Pc.Sections
import XrtcServer.Pc.TrackLines
import XrtcServer.Pc.Tracks
import XrtcServer.Pc.ReadBack
import XrtcServer.Pc.Printed
import XrtcServer.Pc.PassThrough
import XrtcServer.Stream.Model.Packets
import XrtcServer.Stream.Forwarded
import XrtcServer.Server.Outcome
import XrtcServer.Pc.Model.DtlsTransport
import XrtcServer.Pc.Demux
import XrtcServer.Pc.Sessions
import XrtcServer.Pc.HandshakeStart
import XrtcServer.Pc.Model.ConnectionState
import XrtcServer.Pc.ConnectionState
import XrtcServer.Common.History
import XrtcServer.Base.Model.LockFreeQueue
import XrtcServer.Base.LockFreeQueue
import XrtcServer.Common.Signals
import XrtcServer.Ice.Aggregates
import XrtcServer.Pc.PullOffer
import XrtcServer.Pc.Announced
import XrtcServer.Stream.Sources
import XrtcServer.Common.Rounds
import XrtcServer.Ice.Pinging
import XrtcServer.Ice.Fairness
import XrtcServer.Ice.PingRate
import XrtcServer.Pc.Malformed
import XrtcServer.Pc.WritableState
import XrtcServer.Common.Usage
import XrtcServer.Pc.Model.SrtpSession
import XrtcServer.Pc.SrtpUsage
import XrtcServer.Pc.TrailerRoom
import XrtcServer.Base.WatchedEvents
import XrtcServer.Base.Model.AsyncUdpSocket
import XrtcServer.Base.SendQueue
import XrtcServer.Common.Index
import XrtcServer.Server.Model.EventThread
import XrtcServer.Server.Watchers
import XrtcServer.Server.Model.ReadCall
import XrtcServer.Server.ThreadRuns
import XrtcServer.Server.ReadLength
import XrtcServer.Common.Frames
import XrtcServer.Pc.Model.RecordLoop
import XrtcServer.Pc.Records
import XrtcServer.Common.Since
import XrtcServer.Ice.Partition
import XrtcServer.Common.StableSort
import XrtcServer.Ice.Model.Quality
import XrtcServer.Ice.StableOrder
import XrtcServer.Base.QueueSize
import XrtcServer.Common.Simulation
import XrtcServer.Stream.Sharded
import XrtcServer.Server.OneManager
import XrtcServer.Ice.Model.Datagrams
import XrtcServer.Ice.Places
import XrtcServer.Ice.Invited
import XrtcServer.Ice.Consent
import XrtcServer.Ice.Amplification
import XrtcServer.Ice.ConnectivityCheck
import XrtcServer.Ice.Validated
import XrtcServer.Pc.Model.MediaTransport
import XrtcServer.Pc.Moves
import XrtcServer.Pc.Stack
import XrtcServer.Pc.Strangers
import XrtcServer.Pc.MediaPath
import XrtcServer.Common.RoundRobin
import XrtcServer.Base.QueueCalls
import XrtcServer.Server.Model.SignalingServer
import XrtcServer.Server.Accepting
import XrtcServer.Server.OneOwner
import XrtcServer.Server.Stopping
