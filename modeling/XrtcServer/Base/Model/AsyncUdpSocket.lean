import XrtcServer.Base.Model.EventLoop
/-!
# Sending over a UDP socket

`AsyncUdpSocket` on its way out: a packet is sent at once where nothing is
queued, and is queued otherwise. What the kernel answers to `sendto` is a
sequence, and each call of it is recorded with its answer. An address is of
any type.
-/

namespace XrtcServer

namespace Base

/-- `UdpPacketData`. -/
structure UdpPacketData (Addr : Type) where
  data : List UInt8
  addr : Addr
deriving DecidableEq, Repr

/-- What comes of `sendto`: the packet is on its way, or `EAGAIN`, or
another error. -/
inductive SendtoResult where
  | sent | wouldBlock | error
deriving DecidableEq, Repr

variable {Addr : Type}

/-- `sock_send_to`, where a datagram that is sent is sent whole. -/
def sockSendTo (packet : UdpPacketData Addr) : SendtoResult → ℤ
  | .sent => if packet.data.length = 0 then -1 else packet.data.length
  | .wouldBlock => 0
  | .error => -1

/-- `AsyncUdpSocket`, with the calls of `sendto` that it has made. -/
structure AsyncUdpSocket (Addr : Type) where
  socket : ℤ
  socketWatcher : IOWatcher
  udpPacketList : List (UdpPacketData Addr) := []
  calls : List (UdpPacketData Addr × SendtoResult) := []
deriving DecidableEq, Repr

namespace AsyncUdpSocket

/-- The constructor. The memory of the watcher held this. -/
def create (socket fd : ℤ) (events : IOMask) : AsyncUdpSocket Addr :=
  { socket := socket
    socketWatcher := (IOWatcher.createIoEvent fd events).startIoEvent socket .READ }

variable (kernel : ℕ → SendtoResult) (s : AsyncUdpSocket Addr)

/-- One call of `sendto`, and what `sock_send_to` returns. -/
def sendto (packet : UdpPacketData Addr) : AsyncUdpSocket Addr × ℤ :=
  ({ s with calls := s.calls ++ [(packet, kernel s.calls.length)] },
    sockSendTo packet (kernel s.calls.length))

/-- The loop of `_send_data_from_list`, over the packets that are queued. -/
def sendPackets : List (UdpPacketData Addr) → AsyncUdpSocket Addr → AsyncUdpSocket Addr × Bool
  | [], s => ({ s with udpPacketList := [] }, true)
  | packet :: packets, s =>
    let (s, sent) := s.sendto kernel packet
    if sent < 0 then ({ s with udpPacketList := packets }, false)
    else if sent = 0 then ({ s with udpPacketList := packet :: packets }, false)
    else sendPackets packets s

/-- `_send_data_from_list`. -/
def sendDataFromList : AsyncUdpSocket Addr × Bool := sendPackets kernel s.udpPacketList s

/-- `send_data`. -/
def sendData : AsyncUdpSocket Addr :=
  let s := (s.sendDataFromList kernel).1
  if s.udpPacketList = [] then
    { s with socketWatcher := s.socketWatcher.stopIoEvent s.socket .WRITE }
  else s

/-- The end of `_add_udp_packet`. -/
def sendAgain (packet : UdpPacketData Addr) : AsyncUdpSocket Addr × ℤ :=
  ({ s with
    udpPacketList := s.udpPacketList ++ [packet]
    socketWatcher := s.socketWatcher.startIoEvent s.socket .WRITE }, packet.data.length)

/-- `_add_udp_packet`. -/
def addUdpPacket (packet : UdpPacketData Addr) : AsyncUdpSocket Addr × ℤ :=
  let (s, ok) := s.sendDataFromList kernel
  if ok = false then s.sendAgain packet
  else
    let (s, sent) := s.sendto kernel packet
    if sent < 0 then (s, -1)
    else if sent = 0 then s.sendAgain packet
    else (s, packet.data.length)

/-- `send_to`. -/
def sendTo (data : List UInt8) (addr : Addr) : AsyncUdpSocket Addr × ℤ :=
  s.addUdpPacket kernel ⟨data, addr⟩

end AsyncUdpSocket

/-- What happens to the socket. -/
inductive UdpEvent (Addr : Type) where
  | sendTo (data : List UInt8) (addr : Addr)
  /-- The socket is ready for writing. -/
  | writable
deriving DecidableEq, Repr

namespace AsyncUdpSocket

/-- One event. -/
def handle (kernel : ℕ → SendtoResult) (s : AsyncUdpSocket Addr) :
    UdpEvent Addr → AsyncUdpSocket Addr
  | .sendTo data addr => (s.sendTo kernel data addr).1
  | .writable => s.sendData kernel

/-- The events of a run. -/
def handleAll (kernel : ℕ → SendtoResult) (s : AsyncUdpSocket Addr) (es : List (UdpEvent Addr)) :
    AsyncUdpSocket Addr :=
  es.foldl (handle kernel) s

end AsyncUdpSocket

end Base

end XrtcServer
