import Mathlib.Logic.Function.Basic
import XrtcServer.Ice.Model.Controller
/-!
# The ICE channel

`IceTransportChannel` after its candidates have been gathered, with its
ports and connections. The methods are in the order in which they call each
other: a connection signals the channel from the middle of its own methods,
and `destroy` deletes it there. What a method reads of a deleted connection
is what the object held last; `trace` notes it. Each event reads the clock
once.
-/

namespace XrtcServer

namespace Ice

/-- `IceTransportState`. -/
inductive IceTransportState where
  | new
  | checking
  | connected
  | completed
  | failed
  | disconnected
  | closed
deriving DecidableEq, Repr

/-- The signals of a channel. -/
inductive ChannelSignal where
  | receivingStateChange
  | writableStateChange
  | iceStateChange
deriving DecidableEq, Repr

/-- A signal of a channel, with what its state was when it was emitted. -/
structure Emitted where
  signal : ChannelSignal
  receiving : Bool
  writable : Bool
  state : IceTransportState
deriving DecidableEq, Repr

/-- A port, with the priority of its first candidate and its map of
connections by the address of the peer. -/
structure UDPPort where
  localPriority : UInt32
  connections : List (SocketAddress × ℕ) := []

/-- `UDPPort::get_connection`. -/
def UDPPort.getConnection (port : UDPPort) (addr : SocketAddress) : Option ℕ :=
  port.connections.lookup addr

/-- What is noted along a run, for its reader only. -/
structure Trace where
  /-- Connections that the controller compared with or returned, and whether
  they were registered. -/
  observed : List (ℕ × Bool) := []
  /-- Connections that a method was called on, or read, after `destroy`. -/
  deadUses : List ℕ := []
  /-- The requests made, which are numbered from 0. -/
  requestsMade : ℕ := 0
  /-- The requests deleted, once for each time. -/
  released : List ℕ := []
  signals : List Emitted := []

/-- `IceTransportChannel`. The connections are in `heap` under their
addresses; the allocator does not hand out an address twice. -/
structure IceTransportChannel where
  heap : ℕ → IceConnection := fun _ => {}
  made : List ℕ := []
  destroyed : List ℕ := []
  ports : List UDPPort
  controller : IceController := {}
  remoteIceParams : IceParameters := {}
  startPinging : Bool := false
  /-- The period of `_ping_watcher`, where it is started. -/
  timer : Option ℤ := none
  curPingInterval : ℤ := WEAK_PING_INTERVAL
  lastPingSentMs : ℤ := 0
  selectedConnection : Option ℕ := none
  receiving : Bool := false
  writable : Bool := false
  state : IceTransportState := .new
  hadConnection : Bool := false
  hasBeenConnection : Bool := false
  closed : Bool := false
  trace : Trace := {}

namespace IceTransportChannel

variable (ch : IceTransportChannel)

/-! ## Notes -/

/-- A method of a connection is called, or a field read. -/
def use (id : ℕ) : IceTransportChannel :=
  if id ∈ ch.destroyed then
    { ch with trace := { ch.trace with deadUses := id :: ch.trace.deadUses } }
  else ch

def useAll (ids : List ℕ) : IceTransportChannel := ids.foldl use ch

/-- The controller compares with some connections, or returns them. -/
def observe (ids : List ℕ) : IceTransportChannel :=
  let noted := ids.map fun id => (id, decide (id ∈ ch.controller.connections))
  { ch with trace := { ch.trace with observed := ch.trace.observed ++ noted } }

def emit (signal : ChannelSignal) : IceTransportChannel :=
  let emitted : Emitted := ⟨signal, ch.receiving, ch.writable, ch.state⟩
  { ch with trace := { ch.trace with signals := ch.trace.signals ++ [emitted] } }

def setConn (id : ℕ) (c : IceConnection) : IceTransportChannel :=
  { ch with heap := Function.update ch.heap id c }

/-! ## The state of the channel -/

/-- `_set_receiving`. -/
def setReceiving (receiving : Bool) : IceTransportChannel :=
  if receiving = ch.receiving then ch
  else { ch with receiving := receiving }.emit .receivingStateChange

/-- `_set_writable`. -/
def setWritable (writable : Bool) : IceTransportChannel :=
  if writable = ch.writable then ch
  else
    { ch with hasBeenConnection := ch.hasBeenConnection || writable
              writable := writable }.emit .writableStateChange

/-- `_compute_ice_transport_state`. -/
def computeIceTransportState : IceTransportState :=
  let hasConnection := ch.controller.connections.any fun id => (ch.heap id).active
  if ch.hadConnection && !hasConnection then .failed
  else if ch.hasBeenConnection && !ch.writable then .disconnected
  else if !ch.hadConnection && !hasConnection then .new
  else if hasConnection && !ch.writable then .checking
  else .connected

/-- `_update_state`. -/
def updateState : IceTransportChannel :=
  let ch := ch.useAll ch.selectedConnection.toList
  let ch := ch.setWritable (ch.selectedConnection.any fun id => (ch.heap id).writable)
  let ch := ch.useAll ch.controller.connections
  let ch := ch.setReceiving (ch.controller.connections.any fun id => (ch.heap id).receiving)
  let state := ch.computeIceTransportState
  if state ≠ ch.state then { ch with state := state }.emit .iceStateChange else ch

/-! ## Selecting -/

/-- `set_selected` of a connection. -/
def setSelected (id : ℕ) (selected : Bool) : IceTransportChannel :=
  (ch.use id).setConn id { ch.heap id with selected := selected }

/-- `_switch_selected_connection`. With a null pointer it returns before
the controller hears of it. -/
def switchSelectedConnection (conn : Option ℕ) : IceTransportChannel :=
  let old := ch.selectedConnection
  let ch := { ch with selectedConnection := conn }
  let ch := match old with
    | some id => ch.setSelected id false
    | none => ch
  match conn with
  | none => ch
  | some id =>
    let ch := ch.setSelected id true
    { ch with controller := ch.controller.setSelectedConnection ch.selectedConnection }

/-- `_maybe_switch_selected_connection`. -/
def maybeSwitchSelectedConnection (conn : Option ℕ) : IceTransportChannel :=
  match conn with
  | none => ch
  | some id => ch.switchSelectedConnection (some id)

/-- The sort reads every connection; where the best one can be sent on, the
selected connection is compared with it. -/
def sortAndSwitchConnection : IceTransportChannel × Option ℕ :=
  let ch := ch.useAll ch.controller.connections
  let r := ch.controller.sortAndSwitchConnection ch.heap
  let compared :=
    if IceController.readyToSend ch.heap r.1.connections.head? then
      ch.controller.selectedConnection.toList
    else []
  let ch := (ch.useAll compared).observe (compared ++ r.2.toList)
  ({ ch with controller := r.1 }, r.2)

/-- `_maybe_start_pinging`. -/
def maybeStartPinging (now : ℤ) : IceTransportChannel :=
  if ch.startPinging then ch
  else
    let ch := ch.useAll (ch.controller.connections ++ ch.controller.weakRead ch.heap)
    if ch.controller.hasPingableConnection ch.heap now then
      { ch with timer := some ch.curPingInterval, startPinging := true }
    else ch

/-- `_sort_connections_and_update_state`. -/
def sortConnectionsAndUpdateState (now : ℤ) : IceTransportChannel :=
  let (ch, conn) := ch.sortAndSwitchConnection
  ((ch.maybeSwitchSelectedConnection conn).updateState).maybeStartPinging now

/-! ## What the connections signal -/

/-- `_on_connection_state_change`. -/
def onConnectionStateChange (now : ℤ) : IceTransportChannel := ch.sortConnectionsAndUpdateState now

/-- `_on_connection_destroyed`. -/
def onConnectionDestroyed (id : ℕ) (now : ℤ) : IceTransportChannel :=
  let ch := { ch with controller := ch.controller.onConnectionDestroyed id }
  if ch.selectedConnection = some id then
    (ch.switchSelectedConnection none).sortConnectionsAndUpdateState now
  else ch.updateState

end IceTransportChannel

/-! ## Methods of a connection that signal -/

namespace IceConnection

open IceTransportChannel

variable (ch : IceTransportChannel) (id : ℕ)

/-- `set_write_state`. -/
def setWriteState (state : WriteState) (now : ℤ) : IceTransportChannel :=
  let old := (ch.heap id).writeState
  let ch := (ch.use id).setConn id { ch.heap id with writeState := state }
  if old ≠ state then ch.onConnectionStateChange now else ch

/-- `update_receiving`. -/
def updateReceiving (now : ℤ) : IceTransportChannel :=
  let ch := ch.use id
  let receiving := (ch.heap id).isReceiving now
  if (ch.heap id).receiving = receiving then ch
  else (ch.setConn id { ch.heap id with receiving := receiving }).onConnectionStateChange now

/-- `destroy`: the channel is told, and then the object is deleted, with
the requests its manager still has. -/
def destroy (now : ℤ) : IceTransportChannel :=
  let ch := (ch.use id).onConnectionDestroyed id now
  let requests := (ch.heap id).requests
  { ch.setConn id { ch.heap id with requests := [] } with
    destroyed := id :: ch.destroyed
    trace := { ch.trace with released := ch.trace.released ++ requests.map StunRequest.serial } }

/-- `fail_and_destroy`. -/
def failAndDestroy (now : ℤ) : IceTransportChannel :=
  destroy ((ch.use id).setConn id { ch.heap id with state := .failed }) id now

/-- The first half of `update_state`: too many pings have failed. -/
def degrade (now : ℤ) : IceTransportChannel :=
  let ch := ch.use id
  if (ch.heap id).becomesUnreliable now then setWriteState ch id .writeUnreliable now else ch

/-- `update_state`. The last call is made whether or not the connection was
destroyed before. -/
def updateState (now : ℤ) : IceTransportChannel :=
  let ch := degrade ch id now
  let ch :=
    if (ch.heap id).timesOut now then
      failAndDestroy (setWriteState ch id .writeTimeout now) id now
    else ch
  updateReceiving ch id now

variable (movingAverage : ℤ → ℤ → ℤ → ℤ)

/-- `received_ping_response`. -/
def receivedPingResponse (rtt now : ℤ) : IceTransportChannel :=
  let c := ch.heap id
  let rtt := if c.rttSamples > 0 then movingAverage c.rtt rtt RTT_RATIO else rtt
  let ch := (ch.use id).setConn id { c with
    rtt := rtt
    rttSamples := c.rttSamples + 1
    lastPingResponseReceived := now
    pingsSinceLastResponses := [] }
  let ch := setWriteState (updateReceiving ch id now) id .writable now
  (ch.use id).setConn id { ch.heap id with state := .succeeded }

/-- `on_connection_request_response`. -/
def onConnectionRequestResponse (request : StunRequest) (now : ℤ) : IceTransportChannel :=
  receivedPingResponse ch id movingAverage (toInt32 (now - request.ts)) now

/-- The error codes after which a connection lives on. -/
def isRecoverable (errorCode : ℤ) : Bool :=
  errorCode = STUN_ERROR_BAD_REQUEST || errorCode = STUN_ERROR_UNAUTHORIZED ||
    errorCode = STUN_ERROR_SERVER_ERROR

/-- `on_connection_request_error_response`. -/
def onConnectionRequestErrorResponse (msg : StunResponse) (now : ℤ) : IceTransportChannel :=
  let ch := ch.use id
  if isRecoverable msg.errorCode then ch else failAndDestroy ch id now

/-- `delete request`, which takes the request out of its manager. -/
def deleteRequest (request : StunRequest) : IceTransportChannel :=
  let ch := ch.use id
  { ch.setConn id ((ch.heap id).removeRequest request.id) with
    trace := { ch.trace with released := ch.trace.released ++ [request.serial] } }

/-- `StunRequestManager::check_response`, of the connection's manager. -/
def checkResponse (msg : StunResponse) (now : ℤ) : IceTransportChannel :=
  let ch := ch.use id
  match (ch.heap id).findRequest msg.transactionId with
  | none => ch
  | some request =>
    let ch :=
      if some msg.type = getStunSuccessResponse request.type then
        onConnectionRequestResponse ch id movingAverage request now
      else if some msg.type = getStunErrorResponse request.type then
        onConnectionRequestErrorResponse ch id msg now
      else ch
    deleteRequest ch id request

end IceConnection

/-! ## Datagrams -/

/-- What `get_stun_message` makes of a datagram: it is not STUN, it has been
refused, or it is a message. Of a Binding Request the user name's second
field and the PRIORITY attribute are used. -/
inductive Packet where
  | notStun
  | refused
  | request (remoteUfrag : String) (priority : Option UInt32)
  | response (msg : StunResponse)
  | otherStun

namespace IceConnection

variable (ch : IceTransportChannel) (id : ℕ) (movingAverage : ℤ → ℤ → ℤ → ℤ)

/-- `on_read_packet`. -/
def onReadPacket (packet : Packet) (now : ℤ) : IceTransportChannel :=
  let ch := ch.use id
  let c := ch.heap id
  match packet with
  | .notStun => ch.setConn id { c with lastDataReceived := now }
  | .request remoteUfrag _ =>
    if remoteUfrag ≠ c.remoteCandidate.username then ch
    else ch.setConn id { c with lastPingReceived := now }
  | .response msg =>
    if msg.type = STUN_BINDING_RESPONSE ∨ msg.type = STUN_BINDING_ERROR_RESPONSE then
      if msg.integrityOk c.remoteCandidate.password then checkResponse ch id movingAverage msg now
      else ch
    else ch
  | .refused | .otherStun => ch

end IceConnection

namespace IceTransportChannel

variable (ch : IceTransportChannel)

/-- `UDPPort::create_connection`, of an object at the address `id`. -/
def createConnection (portIndex : ℕ) (port : UDPPort) (remote : Candidate) (id : ℕ) (now : ℤ) :
    IceTransportChannel :=
  let c : IceConnection :=
    { port := portIndex, localPriority := port.localPriority, remoteCandidate := remote }
  let ch := { ch.setConn id c with made := id :: ch.made }
  let ch := match port.getConnection remote.address with
    | none => ch
    | some old => IceConnection.destroy ch old now
  let connections := (remote.address, id) :: port.connections.filter (·.1 ≠ remote.address)
  { ch with ports := ch.ports.set portIndex { port with connections := connections } }

/-- `_add_connection`. -/
def addConnection (id : ℕ) : IceTransportChannel :=
  { ch with hadConnection := true, controller := ch.controller.addConnection id }

/-- `_on_unknown_address`. A request without PRIORITY is refused. -/
def onUnknownAddress (portIndex : ℕ) (port : UDPPort) (addr : SocketAddress) (remoteUfrag : String)
    (priority : Option UInt32) (id : ℕ) (now : ℤ) : IceTransportChannel :=
  match priority with
  | none => ch
  | some priority =>
    let remote : Candidate :=
      { priority := priority, address := addr, username := remoteUfrag,
        password := ch.remoteIceParams.icePwd }
    ((ch.createConnection portIndex port remote id now).addConnection id).sortConnectionsAndUpdateState
      now

/-- `UDPPort::_on_read_packet`. A connection that has been destroyed is
still in the map. -/
def onReadPacket (movingAverage : ℤ → ℤ → ℤ → ℤ) (portIndex : ℕ) (port : UDPPort)
    (addr : SocketAddress) (packet : Packet) (id : ℕ) (now : ℤ) : IceTransportChannel :=
  match port.getConnection addr with
  | some conn => IceConnection.onReadPacket ch conn movingAverage packet now
  | none =>
    match packet with
    | .request remoteUfrag priority =>
      ch.onUnknownAddress portIndex port addr remoteUfrag priority id now
    | _ => ch

/-- `set_remote_ice_params`. -/
def setRemoteIceParams (params : IceParameters) (now : ℤ) : IceTransportChannel :=
  let ch := { ch with remoteIceParams := params }
  let ch := ch.controller.connections.foldl
    (fun ch id => (ch.use id).setConn id ((ch.heap id).maybeSetRemoteIceParams params)) ch
  ch.sortConnectionsAndUpdateState now

/-! ## The timer -/

/-- `_update_connection_states`, over a copy of the connections. -/
def updateConnectionStates (now : ℤ) : IceTransportChannel :=
  ch.controller.connections.foldl (fun ch id => IceConnection.updateState ch id now) ch

/-- `_ping_connection`: the connection's `ping`, whose request gets a
transaction id drawn at random. -/
def pingConnection (id : ℕ) (requestId : String) (now : ℤ) : IceTransportChannel :=
  let ch := { ch with lastPingSentMs := now }.use id
  let request : StunRequest := { serial := ch.trace.requestsMade, id := requestId, ts := now }
  { ch.setConn id ((ch.heap id).ping request now) with
    trace := { ch.trace with requestsMade := ch.trace.requestsMade + 1 } }

/-- The clock tolerance of the ping interval. -/
def PING_INTERVAL_DIFF : ℤ := 5

/-- What `_on_check_and_ping` asks the controller for. -/
def selectConnectionToPing (now : ℤ) : IceTransportChannel × PingResult :=
  let ch := ch.useAll (ch.controller.connections ++ ch.controller.selectedConnection.toList)
  let r := ch.controller.selectConnectionToPing ch.heap (ch.lastPingSentMs - PING_INTERVAL_DIFF) now
  let ch := ch.observe (ch.controller.selectedConnection.toList ++ r.2.conn.toList)
  ({ ch with controller := r.1 }, r.2)

/-- The connection that the controller has chosen is pinged. -/
def pingChosen (conn : Option ℕ) (requestId : String) (now : ℤ) : IceTransportChannel :=
  match conn with
  | none => ch
  | some id =>
    let ch := ch.pingConnection id requestId now
    { ch with controller := ch.controller.markConnectionPinged id }

/-- The timer is restarted where its period changes. -/
def changePingInterval (pingInterval : ℤ) : IceTransportChannel :=
  if ch.curPingInterval ≠ pingInterval then
    { ch with curPingInterval := pingInterval, timer := some pingInterval }
  else ch

/-- `_on_check_and_ping`. -/
def onCheckAndPing (requestId : String) (now : ℤ) : IceTransportChannel :=
  let (ch, result) := (ch.updateConnectionStates now).selectConnectionToPing now
  (ch.pingChosen result.conn requestId now).changePingInterval result.pingInterval

/-- `send_packet`, of the channel. -/
def sendPacket : IceTransportChannel := ch.useAll ch.selectedConnection.toList

/-! ## The end -/

/-- `~IceTransportChannel`, over a copy of the connections. -/
def destroyChannel (now : ℤ) : IceTransportChannel :=
  let ch := ch.controller.connections.foldl (fun ch id => IceConnection.destroy ch id now)
    { ch with timer := none }
  { ch with ports := [], closed := true }

end IceTransportChannel

/-! ## Events -/

/-- What happens to a channel: a datagram on one of its ports, with the
address a new connection would get, an answer, a tick of its timer, data to
send, or its end. -/
inductive ChannelEvent where
  | datagram (port : ℕ) (addr : SocketAddress) (packet : Packet) (id : ℕ) (now : ℤ)
  | setRemoteIceParams (params : IceParameters) (now : ℤ)
  | tick (requestId : String) (now : ℤ)
  | sendPacket
  | destroyChannel (now : ℤ)

/-- **One event of a channel**, none after its end. -/
def IceTransportChannel.step (movingAverage : ℤ → ℤ → ℤ → ℤ) (ch : IceTransportChannel)
    (e : ChannelEvent) : Option IceTransportChannel :=
  if ch.closed then none
  else
    match e with
    | .datagram portIndex addr packet id now =>
      if id ∈ ch.made then none
      else (ch.ports[portIndex]?).map fun port =>
        ch.onReadPacket movingAverage portIndex port addr packet id now
    | .setRemoteIceParams params now => some (ch.setRemoteIceParams params now)
    | .tick requestId now =>
      if ch.timer = none then none else some (ch.onCheckAndPing requestId now)
    | .sendPacket => some ch.sendPacket
    | .destroyChannel now => some (ch.destroyChannel now)

/-- A channel whose candidates have been gathered. -/
def IceTransportChannel.init (localPriorities : List UInt32) : IceTransportChannel :=
  { ports := localPriorities.map fun localPriority => { localPriority := localPriority } }

end Ice

end XrtcServer
