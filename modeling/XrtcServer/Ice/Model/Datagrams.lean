import XrtcServer.Ice.Model.Port
/-!
# The datagrams of a channel

What a channel sends and through which of its ports: the pings that
`ConnectionRequest::prepare` fills, the answers of `Port`, and the packets
handed to `send_packet`. A datagram is sent once the socket has been given
it; what the socket does with it is in `XrtcServer.Base.Model.AsyncUdpSocket`.
-/

namespace XrtcServer

namespace Ice

open Base

/-! ## Pings -/

def STUN_ATTR_USE_CANDIDATE : UInt16 := 0x0025
def STUN_ATTR_ICE_CONTROLLING : UInt16 := 0x802A
def ICE_TYPE_PREFERENCE_PRFLX : UInt32 := 110

/-- `create_stun_username`. -/
def UDPPort.createStunUsername (iceParams : IceParameters) (remoteUsername : String) : String :=
  remoteUsername ++ ":" ++ iceParams.iceUfrag

variable (rtc : Rtc) (iceParams : IceParameters)

/-- The PRIORITY of a ping: that of a candidate that the peer would find. -/
def prflxPriority (localPriority : UInt32) : UInt32 :=
  ICE_TYPE_PREFERENCE_PRFLX <<< 24 ||| localPriority &&& 0x00FFFFFF

/-- `ConnectionRequest::prepare`, of a request with this transaction id. -/
def IceConnection.prepare (c : IceConnection) (transactionId : List UInt8) : StunMessage :=
  let username := UDPPort.createStunUsername iceParams c.remoteCandidate.username
  let msg : StunMessage := { type := STUN_BINDING_REQUEST, transactionId := transactionId }
  let msg := msg.addAttribute (.byteString STUN_ATTR_USERNAME (toBytes username))
  let msg := msg.addAttribute (.uint64 STUN_ATTR_ICE_CONTROLLING 0)
  let msg := msg.addAttribute (.byteString STUN_ATTR_USE_CANDIDATE [])
  let msg := msg.addAttribute (.uint32 STUN_ATTR_PRIORITY (prflxPriority c.localPriority))
  let msg := msg.addMessageIntegrity rtc c.remoteCandidate.password
  msg.addFingerprint rtc

/-! ## What is sent -/

/-- A datagram with the port it leaves by. -/
structure Sent where
  port : ℕ
  address : SocketAddress
  data : List UInt8
deriving DecidableEq, Repr

/-- `_port->send_to`, of a connection. -/
def IceConnection.sendTo (c : IceConnection) (data : List UInt8) : Sent :=
  ⟨c.port, c.remoteCandidate.address, data⟩

namespace IceTransportChannel

variable (ch : IceTransportChannel)

/-- What the answers to a datagram leave by: a connection answers through
its own port. -/
def answeringPort (portIndex : ℕ) (port : UDPPort) (addr : SocketAddress) : ℕ :=
  match port.getConnection addr with
  | some conn => (ch.heap conn).port
  | none => portIndex

/-- What `_on_check_and_ping` sends: a ping of the connection chosen. -/
def checkAndPingSends (transactionId : List UInt8) (now : ℤ) : List Sent :=
  let (ch, result) := (ch.updateConnectionStates now).selectConnectionToPing now
  match result.conn with
  | none => []
  | some id =>
    let c := ch.heap id
    [c.sendTo ((c.prepare rtc iceParams transactionId).write rtc)]

/-- What `send_packet` sends: the packet, over the selected connection. -/
def sendPacketSends (data : List UInt8) : List Sent :=
  match ch.selectedConnection with
  | none => []
  | some id =>
    if IceController.readyToSend ch.heap ch.selectedConnection then [(ch.heap id).sendTo data]
    else []

end IceTransportChannel

/-! ## Events -/

/-- What happens to a channel, with the bytes of the datagrams. -/
inductive DatagramEvent where
  | datagram (port : ℕ) (addr : SocketAddress) (data : List UInt8) (id : ℕ) (now : ℤ)
  | setRemoteIceParams (params : IceParameters) (now : ℤ)
  | tick (transactionId : List UInt8) (now : ℤ)
  | sendPacket (data : List UInt8)
  | destroyChannel (now : ℤ)

/-- The same event as the channel has it. -/
def DatagramEvent.channelEvent : DatagramEvent → ChannelEvent
  | .datagram port addr data id now =>
    .datagram port addr (UDPPort.packetOf rtc (UDPPort.getStunMessage rtc iceParams data)) id now
  | .setRemoteIceParams params now => .setRemoteIceParams params now
  | .tick transactionId now => .tick (ofBytes transactionId) now
  | .sendPacket _ => .sendPacket
  | .destroyChannel now => .destroyChannel now

/-- What is sent in an event. -/
def IceTransportChannel.sends (movingAverage : ℤ → ℤ → ℤ → ℤ) (ch : IceTransportChannel) :
    DatagramEvent → List Sent
  | .datagram portIndex addr data id now =>
    match ch.ports[portIndex]? with
    | none => []
    | some port =>
      (ch.onReadDatagram rtc iceParams movingAverage portIndex port addr data id now).2.map
        fun (address, data) => ⟨ch.answeringPort portIndex port addr, address, data⟩
  | .tick transactionId now => ch.checkAndPingSends rtc iceParams transactionId now
  | .sendPacket data => ch.sendPacketSends data
  | .setRemoteIceParams .. | .destroyChannel _ => []

/-- **A channel with everything it has sent.** -/
structure DatagramChannel where
  channel : IceTransportChannel
  sent : List Sent := []

/-- One event, with what is sent in it. -/
def DatagramChannel.step (movingAverage : ℤ → ℤ → ℤ → ℤ) (s : DatagramChannel)
    (e : DatagramEvent) : Option DatagramChannel :=
  (s.channel.step movingAverage (e.channelEvent rtc iceParams)).map fun channel =>
    { channel := channel, sent := s.sent ++ s.channel.sends rtc iceParams movingAverage e }

end Ice

end XrtcServer
