import XrtcServer.Stream.Model.Manager
import XrtcServer.Pc.Model.PeerConnection
/-!
# Packets between streams

`send_rtp` and `send_rtcp` of `RtcStream`, the two packet callbacks of
`RtcStreamManager`, and a manager whose streams have real peer connections.
A packet goes up from the transport that decrypted it to its stream and to
the manager, through signals that hand it on as it is, and down again
through the calls modelled here.
-/

namespace XrtcServer

namespace Stream

open Base Pc

/-- The type of stream at the other end of a name. -/
def RtcStreamType.other : RtcStreamType → RtcStreamType
  | .push => .pull
  | .pull => .push

inductive PacketKind
  | rtp | rtcp
  deriving DecidableEq, Repr

namespace RtcStream

variable (s : RtcStream PeerConnection) (data : List UInt8)

def sendRtp : RtcStream PeerConnection := { s with pc := s.pc.sendRtp data }

def sendRtcp : RtcStream PeerConnection := { s with pc := s.pc.sendRtcp data }

/-- The transport of that name, as a callback of its own left it. -/
def setTransport (name : String) (srtp : DtlsSrtpTransport) : RtcStream PeerConnection :=
  let tc := s.pc.transportController.setDtlsSrtpTransport name srtp
  { s with pc := { s.pc with transportController := tc } }

/-- The transport a name stands for. -/
def transport (name : String) : Option DtlsSrtpTransport :=
  s.pc.transportController.dtlsSrtpTransportByName name

end RtcStream

namespace RtcStreamManager

variable (m : RtcStreamManager PeerConnection)

/-- `on_rtp_packet_received`: RTP is relayed in one direction. -/
def onRtpPacketReceived (stream : RtcStream PeerConnection) (data : List UInt8) :
    RtcStreamManager PeerConnection :=
  if stream.streamType = .push then
    match m.findPullStream stream.streamName with
    | none => m
    | some (id, pullStream) => m.setStream id (some (pullStream.sendRtp data))
  else m

/-- `on_rtcp_packet_received`. -/
def onRtcpPacketReceived (stream : RtcStream PeerConnection) (data : List UInt8) :
    RtcStreamManager PeerConnection :=
  if stream.streamType = .push then
    match m.findPullStream stream.streamName with
    | none => m
    | some (id, pullStream) => m.setStream id (some (pullStream.sendRtcp data))
  else if stream.streamType = .pull then
    match m.findPushStream stream.streamName with
    | none => m
    | some (id, pushStream) => m.setStream id (some (pushStream.sendRtcp data))
  else m

/-- The callback of a kind. -/
def onPacketReceived (stream : RtcStream PeerConnection) (data : List UInt8) :
    PacketKind → RtcStreamManager PeerConnection
  | .rtp => m.onRtpPacketReceived stream data
  | .rtcp => m.onRtcpPacketReceived stream data

end RtcStreamManager

/-- What can happen to a manager and the transports of its streams. -/
inductive MediaEvent
  /-- A request or a callback, in some surroundings. -/
  | stream (outside : Surroundings) (event : Event)
  /-- A transport gets its SRTP sessions, or loses them. -/
  | srtp (id : ℕ) (transportName : String) (active : Bool)
  /-- A transport has decrypted a packet. -/
  | packet (id : ℕ) (transportName : String) (kind : PacketKind) (data : List UInt8)

/-- **One step of a manager with its transports.** Only a transport with
SRTP sessions decrypts. -/
def mediaStep (rtc : RtcText) (m : RtcStreamManager PeerConnection) :
    MediaEvent → Option (RtcStreamManager PeerConnection)
  | .stream outside event => step (ops rtc outside) m event
  | .srtp id name active => (m.streams id).bind fun s => (s.transport name).map fun srtp =>
    m.setStream id (some (s.setTransport name { srtp with srtpActive := active }))
  | .packet id name kind data => (m.streams id).bind fun s => (s.transport name).bind fun srtp =>
    if srtp.srtpActive then some (m.onPacketReceived s data kind) else none

end Stream

end XrtcServer
