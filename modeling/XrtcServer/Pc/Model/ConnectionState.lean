import XrtcServer.Ice.Model.Channel
import XrtcServer.Pc.Model.DtlsTransport
/-!
# The state of a connection

`TransportController::_update_state` over `IceAgent::_update_state`, with
what triggers them. The transports are fixed; each has the channel under it,
and the agent has these channels. The maps that the source counts states in
are counts over the list.
-/

namespace XrtcServer

namespace Pc

namespace ConnectionState

open Ice Dtls

inductive PeerConnectionState where
  | new | connecting | connected | disconnected | failed | closed
deriving DecidableEq, Repr

/-- A `DtlsTransport` and its channel. -/
structure Transport where
  dtlsState : DtlsTransportState := .new
  iceState : IceTransportState := .new
deriving DecidableEq, Repr

/-- `dtls_state_counts`. -/
def dtlsStateCount (transports : List Transport) (state : DtlsTransportState) : ℕ :=
  transports.countP fun t => t.dtlsState = state

/-- `ice_state_counts`. -/
def iceStateCount (transports : List Transport) (state : IceTransportState) : ℕ :=
  transports.countP fun t => t.iceState = state

/-- The state that `IceAgent::_update_state` comes to. -/
def computeIceState (transports : List Transport) : IceTransportState :=
  let count := iceStateCount transports
  let total := transports.length
  if count .failed > 0 then .failed
  else if count .disconnected > 0 then .disconnected
  else if count .new + count .closed = total then .new
  else if count .new + count .checking > 0 then .checking
  else if count .completed + count .closed = total then .completed
  else if count .connected + count .completed + count .closed = total then .connected
  else .new

/-- The state that `TransportController::_update_state` comes to. -/
def computePcState (transports : List Transport) : PeerConnectionState :=
  let ice := iceStateCount transports
  let dtls := dtlsStateCount transports
  let totalNew := ice .new + dtls .new
  let totalClosed := ice .closed + dtls .closed
  let totalTransports := transports.length * 2
  if ice .failed + dtls .failed > 0 then .failed
  else if ice .disconnected > 0 then .disconnected
  else if totalNew + totalClosed = totalTransports then .new
  else if ice .checking + dtls .connecting + totalNew > 0 then .connecting
  else if ice .connected + dtls .connected + ice .completed + totalClosed = totalTransports then
    .connected
  else .new

/-- `TransportController` and its `IceAgent`, with the states signalled. -/
structure TransportController where
  transports : List Transport
  /-- `IceAgent::_ice_state`. -/
  iceState : IceTransportState := .new
  pcState : PeerConnectionState := .new
  /-- What `signal_connection_state` was emitted with. -/
  signals : List PeerConnectionState := []
deriving Repr

namespace TransportController

variable (tc : TransportController)

/-- `TransportController::_update_state`. -/
def updateState : TransportController :=
  let pcState := computePcState tc.transports
  if tc.pcState ≠ pcState then
    { tc with pcState := pcState, signals := tc.signals ++ [pcState] }
  else tc

/-- `signal_ice_state`: `_on_ice_state` is connected once for each transport. -/
def signalIceState : TransportController := updateState^[tc.transports.length] tc

/-- `IceAgent::_update_state`. It does not go from checking to completed
without a signal of connected in between. -/
def updateIceState : TransportController :=
  let iceState := computeIceState tc.transports
  if tc.iceState ≠ iceState then
    let tc :=
      if tc.iceState = .checking ∧ iceState = .completed then tc.signalIceState else tc
    { tc with iceState := iceState }.signalIceState
  else tc

/-- `_set_dtls_state` of a transport, which signals a change only. -/
def setDtlsState (i : ℕ) (state : DtlsTransportState) : TransportController :=
  match tc.transports[i]? with
  | none => tc
  | some t =>
    if t.dtlsState = state then tc
    else updateState { tc with transports := tc.transports.set i { t with dtlsState := state } }

/-- The end of `_update_state` of a channel, which signals a change only. -/
def setIceState (i : ℕ) (state : IceTransportState) : TransportController :=
  match tc.transports[i]? with
  | none => tc
  | some t =>
    if t.iceState = state then tc
    else updateIceState { tc with transports := tc.transports.set i { t with iceState := state } }

end TransportController

/-- The states `_compute_ice_transport_state` returns. -/
def computedStates : List IceTransportState :=
  [.failed, .disconnected, .new, .checking, .connected]

/-- A state of a channel that was computed. -/
abbrev ComputedState := { state : IceTransportState // state ∈ computedStates }

/-- What changes a state or triggers an update. -/
inductive Change where
  | dtls (i : ℕ) (state : DtlsTransportState)
  | ice (i : ℕ) (state : ComputedState)
  /-- A `DtlsTransport` signals that it became writable or receiving, or
  stopped being. -/
  | dtlsFlag
  /-- A channel does. -/
  | iceFlag

/-- One change and all that it triggers. -/
def propagate (tc : TransportController) : Change → TransportController
  | .dtls i state => tc.setDtlsState i state
  | .ice i state => tc.setIceState i state
  | .dtlsFlag => tc.updateState
  | .iceFlag => tc.updateIceState

/-- So many new transports. -/
def init (n : ℕ) : TransportController where
  transports := List.replicate n {}

end ConnectionState

end Pc

end XrtcServer
