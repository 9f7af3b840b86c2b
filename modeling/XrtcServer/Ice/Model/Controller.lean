import Mathlib.Data.List.Sort
import XrtcServer.Ice.Model.Connection
/-!
# The ICE controller

`IceController`: which connection to ping next and which to select. A
connection is known by its pointer; what a pointer points to is looked up
in `heap`. A `std::set` of pointers is a list in ascending order.
-/

namespace XrtcServer

namespace Ice

/-- The least gain of RTT for which the selected connection is given up. -/
def k_min_inprovement : ℤ := 10
def a_is_better : ℤ := 1
def b_is_better : ℤ := -1

/-- `std::set::insert`. -/
def setInsert (s : List ℕ) (id : ℕ) : List ℕ :=
  if id ∈ s then s else s.orderedInsert (· ≤ ·) id

/-- `IceController`. -/
structure IceController where
  selectedConnection : Option ℕ := none
  connections : List ℕ := []
  pingedConnections : List ℕ := []
  unpingedConnections : List ℕ := []
deriving DecidableEq

/-- `PingResult`. -/
structure PingResult where
  conn : Option ℕ
  pingInterval : ℤ

namespace IceController

/-- `_compare_connections`. -/
def compareConnections (a b : IceConnection) : ℤ :=
  if a.writable && !b.writable then a_is_better
  else if !a.writable && b.writable then b_is_better
  else if a.writeState.value < b.writeState.value then a_is_better
  else if a.writeState.value > b.writeState.value then b_is_better
  else if a.receiving && !b.receiving then a_is_better
  else if !a.receiving && b.receiving then b_is_better
  else if a.priority > b.priority then a_is_better
  else if a.priority < b.priority then b_is_better
  else 0

/-- The comparison `sort_and_switch_connection` sorts by. -/
def better (conn1 conn2 : IceConnection) : Bool :=
  let cmp := compareConnections conn1 conn2
  if cmp ≠ 0 then cmp > 0 else conn1.rtt < conn2.rtt

/-- `stable_sort`: nothing stands before what is better. -/
def stableSort (heap : ℕ → IceConnection) (ids : List ℕ) : List ℕ :=
  ids.insertionSort fun id1 id2 => better (heap id2) (heap id1) = false

def readyToSend (heap : ℕ → IceConnection) (conn : Option ℕ) : Bool :=
  match conn with
  | none => false
  | some id => (heap id).writable || (heap id).writeState = .writeUnreliable

variable (heap : ℕ → IceConnection) (ctl : IceController)

def addConnection (id : ℕ) : IceController :=
  { ctl with connections := ctl.connections ++ [id]
             unpingedConnections := setInsert ctl.unpingedConnections id }

def setSelectedConnection (conn : Option ℕ) : IceController :=
  { ctl with selectedConnection := conn }

def markConnectionPinged (id : ℕ) : IceController :=
  if id ∈ ctl.pingedConnections then ctl
  else { ctl with pingedConnections := setInsert ctl.pingedConnections id
                  unpingedConnections := ctl.unpingedConnections.erase id }

def onConnectionDestroyed (id : ℕ) : IceController :=
  { ctl with pingedConnections := ctl.pingedConnections.erase id
             unpingedConnections := ctl.unpingedConnections.erase id
             connections := ctl.connections.erase id }

/-- `sort_and_switch_connection`: the sorted controller and the connection
worth switching to. -/
def sortAndSwitchConnection : IceController × Option ℕ :=
  let ctl := { ctl with connections := stableSort heap ctl.connections }
  let topConnection := ctl.connections.head?
  if !readyToSend heap topConnection || ctl.selectedConnection = topConnection then (ctl, none)
  else
    match topConnection, ctl.selectedConnection with
    | some top, some selected =>
      if (heap top).rtt ≤ (heap selected).rtt - k_min_inprovement then (ctl, some top)
      else (ctl, none)
    | top, _ => (ctl, top)

/-- `_weak`. -/
def weak : Bool :=
  match ctl.selectedConnection with
  | none => true
  | some id => (heap id).weak

/-- `_get_connection_ping_interval`. -/
def getConnectionPingInterval (c : IceConnection) (now : ℤ) : ℤ :=
  if c.numPingsSent < MIN_PINGS_AT_WEAK_PING_INTERVAL then WEAK_PING_INTERVAL
  else if !c.stable now then STABLING_CONNECTION_PING_INTERVAL
  else STABLE_CONNECTION_PING_INTERVAL

/-- `_is_connection_past_ping_interval`. -/
def isConnectionPastPingInterval (c : IceConnection) (now : ℤ) : Bool :=
  now ≥ c.lastPingSent + getConnectionPingInterval c now

/-- `_is_pingable`. -/
def isPingable (id : ℕ) (now : ℤ) : Bool :=
  if !(heap id).hasCredentials then false
  else if ctl.weak heap then true
  else isConnectionPastPingInterval (heap id) now

/-- What `has_pingable_connection` reads besides the connections: whether
the channel is weak is asked for one whose credentials are known. -/
def weakRead : List ℕ :=
  if ctl.connections.any fun id => (heap id).hasCredentials then ctl.selectedConnection.toList
  else []

def hasPingableConnection (now : ℤ) : Bool :=
  ctl.connections.any fun id => ctl.isPingable heap id now

/-- `_more_pingable`, of a connection that is there. -/
def morePingable (conn1 : ℕ) (conn2 : Option ℕ) : Bool :=
  match conn2 with
  | none => true
  | some conn2 => (heap conn1).lastPingSent < (heap conn2).lastPingSent

/-- The search of a round: the pingable connection pinged longest ago, the
first of them where there are several. -/
def mostPingable (ids : List ℕ) (now : ℤ) : Option ℕ :=
  ids.foldl (fun found id =>
    if ctl.isPingable heap id now && morePingable heap id found then some id else found) none

/-- Whether `_find_next_pingable_connection` takes the selected connection. -/
def selectedIsDue (now : ℤ) : Option ℕ :=
  ctl.selectedConnection.filter fun id =>
    (heap id).writable && isConnectionPastPingInterval (heap id) now

/-- `_find_next_pingable_connection`: the selected connection where it is
due, and otherwise round robin over those not yet pinged in this round. -/
def findNextPingableConnection (now : ℤ) : IceController × Option ℕ :=
  match ctl.selectedIsDue heap now with
  | some id => (ctl, some id)
  | none =>
    let hasPingable := ctl.unpingedConnections.any fun id => ctl.isPingable heap id now
    let ctl :=
      if hasPingable then ctl
      else { ctl with unpingedConnections := ctl.pingedConnections.foldl setInsert ctl.unpingedConnections
                      pingedConnections := [] }
    (ctl, ctl.mostPingable heap ctl.unpingedConnections now)

/-- The ping interval of `select_connection_to_ping`. -/
def pingInterval : ℤ :=
  let needPingMoreAtWeak :=
    ctl.connections.any fun id => (heap id).numPingsSent < MIN_PINGS_AT_WEAK_PING_INTERVAL
  if ctl.weak heap || needPingMoreAtWeak then WEAK_PING_INTERVAL else STRONG_PING_INTERVAL

/-- `select_connection_to_ping`. -/
def selectConnectionToPing (lastPingSentMs now : ℤ) : IceController × PingResult :=
  let pingInterval := ctl.pingInterval heap
  if now ≥ lastPingSentMs + pingInterval then
    let (ctl, conn) := ctl.findNextPingableConnection heap now
    (ctl, ⟨conn, pingInterval⟩)
  else (ctl, ⟨none, pingInterval⟩)

end IceController

end Ice

end XrtcServer
