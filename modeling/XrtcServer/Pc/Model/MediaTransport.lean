import XrtcServer.Ice.Model.Datagrams
import XrtcServer.Pc.Model.DtlsTransport
/-!
# A transport with its channel

What `TransportController::set_local_description` makes of a media section:
an `IceTransportChannel`, the `DtlsTransport` over it and the
`DtlsSrtpTransport` over that, connected by their signals. A signal says what
the channel was when it was emitted, and the slots do not change the channel,
so the signals of an event are delivered when the channel is done with it.
What an adapter writes, and what it signals, are events of their own.
-/

namespace XrtcServer

namespace Pc

open Base Ice Dtls

/-- What is called from outside, with the local ICE parameters. -/
structure Outside where
  rtc : Rtc
  iceParams : IceParameters
  movingAverage : ℤ → ℤ → ℤ → ℤ
  lib : Libraries

/-- What the sessions make of an RTP or RTCP packet at some time: `protect_rtp`
and `protect_rtcp`, and the two that undo them. libsrtp keeps a state for each
session, so another time it may be something else. -/
structure Cipher where
  protect : SrtpSession → Bool → List UInt8 → Option (List UInt8)
  unprotect : SrtpSession → Bool → List UInt8 → Option (List UInt8)

/-- What a signal of the channel is for the DTLS transport. -/
def dtlsSignal (emitted : Emitted) : Option Dtls.Event :=
  match emitted.signal with
  | .writableStateChange => some (.iceWritable emitted.writable)
  | .receivingStateChange => some (.iceReceiving emitted.receiving)
  | .iceStateChange => none

/-- What the channel has signalled on the way from one state to another. -/
def signalled (before after : IceTransportChannel) : List Dtls.Event :=
  (after.trace.signals.drop before.trace.signals.length).filterMap dtlsSignal

/-- `signal_read_packet` of a channel: a datagram on one of its connections
that is no STUN message. -/
def passedUp (rtc : Rtc) (iceParams : IceParameters) (ch : IceTransportChannel) :
    DatagramEvent → List (List UInt8)
  | .datagram portIndex addr data _ _ =>
    match (ch.ports[portIndex]?).bind (·.getConnection addr) with
    | some _ => if (UDPPort.getStunMessage rtc iceParams data).res then [] else [data]
    | none => []
  | _ => []

/-- `_on_rtp_packet_received` and `_on_rtcp_packet_received`: the packet they
signal. -/
def Dtls.DtlsSrtpTransport.onPacketReceived (srtp : DtlsSrtpTransport) (cipher : Cipher) (rtcp : Bool)
    (packet : List UInt8) : List (Bool × List UInt8) :=
  if srtp.isSrtpActive = false then []
  else ((srtp.recvSession.bind fun session => cipher.unprotect session rtcp packet).map
    fun data => (rtcp, data)).toList

/-- What a packet from the channel comes to, if it is media. -/
def Dtls.DtlsTransport.received (t : DtlsTransport) (cipher : Cipher) (buf : List UInt8) :
    List (Bool × List UInt8) :=
  if t.dtlsState ≠ .connected || isDtlsPacket buf || !isRtpPacket buf then []
  else
    match t.srtp with
    | none => []
    | some srtp =>
      match inferRtpPacketType buf with
      | .unknown => []
      | .rtcp => srtp.onPacketReceived cipher true buf
      | .rtp => srtp.onPacketReceived cipher false buf

/-- The media received is `signal_rtp_packet_received` and
`signal_rtcp_packet_received`, with whether it is RTCP. -/
structure MediaTransport where
  ice : DatagramChannel
  dtls : DtlsTransport
  received : List (Bool × List UInt8) := []

/-- What happens to a transport: a datagram on a port, a tick of the timer of
the channel, the answer, a signal of the adapter, a packet that it writes, an
RTP or RTCP packet to send, or the end. -/
inductive MediaEvent where
  | datagram (port : ℕ) (addr : SocketAddress) (data : List UInt8) (id : ℕ) (now : ℤ)
    (cipher : Cipher)
  | tick (transactionId : List UInt8) (now : ℤ)
  | setRemoteDescription (params : IceParameters) (fingerprint : RemoteFingerprint) (now : ℤ)
  | dtlsEvent (seOpen seRead seClose : Bool) (results : List StreamResult) (error : ℤ)
  | write (data : List UInt8)
  | send (rtcp : Bool) (packet : List UInt8) (cipher : Cipher)
  | destroy (now : ℤ)

namespace MediaTransport

variable (o : Outside) (m : MediaTransport)

/-- An event of the channel, with what it signals. -/
def onIce (e : DatagramEvent) : Option MediaTransport :=
  (m.ice.step o.rtc o.iceParams o.movingAverage e).map fun ice =>
    { m with
      ice := ice
      dtls := (signalled m.ice.channel ice.channel).foldl (handle o.lib) m.dtls }

/-- A packet that the channel passes up. -/
def onReadPacket (cipher : Cipher) (buf : List UInt8) : MediaTransport :=
  { m with
    dtls := handle o.lib m.dtls (.icePacket buf)
    received := m.received ++ m.dtls.received cipher buf }

/-- `send_rtp` and `send_rtcp` up to where the packet is protected. -/
def protectPacket (cipher : Cipher) (rtcp : Bool) (packet : List UInt8) : Option (List UInt8) := do
  let srtp ← m.dtls.srtp
  if srtp.isSrtpActive = false then none
  let session ← srtp.sendSession
  cipher.protect session rtcp packet

/-- One event. `~TransportController` deletes the transports before the
channel, which signals to nobody then. -/
def step (e : MediaEvent) : Option MediaTransport :=
  if m.ice.channel.closed then none
  else
    match e with
    | .datagram portIndex addr data id now cipher =>
      let e := DatagramEvent.datagram portIndex addr data id now
      (m.onIce o e).map fun m' =>
        (passedUp o.rtc o.iceParams m.ice.channel e).foldl (fun m buf => m.onReadPacket o cipher buf) m'
    | .tick transactionId now => m.onIce o (.tick transactionId now)
    | .setRemoteDescription params fingerprint now =>
      (m.onIce o (.setRemoteIceParams params now)).map fun m =>
        { m with dtls := handle o.lib m.dtls (.remoteFingerprint fingerprint) }
    | .dtlsEvent seOpen seRead seClose results error =>
      (Dtls.step o.lib m.dtls (.dtlsEvent seOpen seRead seClose results error)).map fun dtls =>
        { m with dtls := dtls }
    | .write data => if m.dtls.dtls.isNone then none else m.onIce o (.sendPacket data)
    | .send rtcp packet cipher =>
      let used := { m with dtls := handle o.lib m.dtls .send }
      match m.protectPacket cipher rtcp packet with
      | none => some used
      | some data => used.onIce o (.sendPacket data)
    | .destroy now =>
      (m.ice.step o.rtc o.iceParams o.movingAverage (.destroyChannel now)).map fun ice =>
        { m with ice := ice }

/-- A new transport, over the ports of its channel. -/
def init (localPriorities : List UInt32) (certificate : Option ℕ) : MediaTransport where
  ice := ⟨.init localPriorities, []⟩
  dtls := (({} : DtlsTransport).setLocalCertificate certificate).connectSrtp o.lib {}

end MediaTransport

end Pc

end XrtcServer
