import Mathlib.Algebra.Group.Int.Defs
import Mathlib.Algebra.Group.Nat.Defs
import Mathlib.Order.Basic
/-!
# An ICE connection

`IceConnection` with its `StunRequestManager`, and what their methods
compute from the object's own fields. The methods that signal the channel,
or end the object's life, are in `XrtcServer.Ice.Model.Channel`. Times are
`int64_t` milliseconds; where the code stores one in an `int` it is cut, and
so is a sum or a product that does not fit its type.
-/

namespace XrtcServer

namespace Ice

/-! ## Constants -/

def STUN_PACKET_SIZE : ℤ := 60 * 8
def WEAK_PING_INTERVAL : ℤ := 1000 * STUN_PACKET_SIZE / 10000
def STRONG_PING_INTERVAL : ℤ := 1000 * STUN_PACKET_SIZE / 1000
def STABLING_CONNECTION_PING_INTERVAL : ℤ := 900
def STABLE_CONNECTION_PING_INTERVAL : ℤ := 2500
def MIN_PINGS_AT_WEAK_PING_INTERVAL : ℤ := 3
def WEAK_CONNECTION_RECEIVE_TIMEOUT : ℤ := 2500
def CONNECTION_WRITE_CONNECT_FAILS : ℕ := 5
def CONNECTION_WRITE_CONNECT_TIMEOUT : ℤ := 5000
def CONNECTION_WRITE_TIMEOUT : ℤ := 15000

def RTT_RATIO : ℤ := 3
def MIN_RTT : ℤ := 100
def MAX_RTT : ℤ := 60000

def STUN_BINDING_REQUEST : UInt16 := 0x0001
def STUN_BINDING_RESPONSE : UInt16 := 0x0101
def STUN_BINDING_ERROR_RESPONSE : UInt16 := 0x0111

def STUN_ERROR_BAD_REQUEST : ℤ := 400
def STUN_ERROR_UNAUTHORIZED : ℤ := 401
def STUN_ERROR_SERVER_ERROR : ℤ := 500

/-- A time difference stored in an `int`. -/
def toInt32 (n : ℤ) : ℤ := n.bmod (2 ^ 32)

/-- A sum of times, in an `int64_t`. -/
def toInt64 (n : ℤ) : ℤ := n.bmod (2 ^ 64)

/-! ## Data -/

/-- `IceConnection::WriteState`. -/
inductive WriteState where
  | writable
  | writeUnreliable
  | writeInit
  | writeTimeout
deriving DecidableEq, Repr

/-- The number of a write state: a smaller one is better. -/
def WriteState.value : WriteState → ℕ
  | .writable => 0
  | .writeUnreliable => 1
  | .writeInit => 2
  | .writeTimeout => 3

/-- `IceCandidatePairState`. -/
inductive IceCandidatePairState where
  | waiting
  | inProgress
  | succeeded
  | failed
deriving DecidableEq, Repr

/-- An IPv4 transport address. -/
structure SocketAddress where
  ip : UInt32
  port : UInt16
deriving DecidableEq, Repr

/-- `IceParameters`. -/
structure IceParameters where
  iceUfrag : String := ""
  icePwd : String := ""
deriving DecidableEq, Repr

/-- What is used of the `Candidate` of the peer. -/
structure Candidate where
  priority : UInt32 := 0
  address : SocketAddress := ⟨0, 0⟩
  username : String := ""
  password : String := ""
deriving DecidableEq, Repr

/-- `IceConnection::SentPing`. -/
structure SentPing where
  id : String
  sentTime : ℤ
deriving DecidableEq, Repr

/-- `ConnectionRequest`: the object, by the number of the `new` that made
it, its transaction id, its type and the time it was sent. -/
structure StunRequest where
  serial : ℕ
  id : String
  type : UInt16 := STUN_BINDING_REQUEST
  ts : ℤ
deriving DecidableEq, Repr

/-- What is used of a STUN response. Its integrity is what
`validate_message_integrity` finds under a password. -/
structure StunResponse where
  type : UInt16
  transactionId : String
  errorCode : ℤ
  integrityOk : String → Bool

/-- `IceConnection`. Of its port it keeps the index and the priority of the
port's first candidate, which no longer changes when connections are made.
`requests` is the map of its request manager. -/
structure IceConnection where
  port : ℕ := 0
  localPriority : UInt32 := 0
  remoteCandidate : Candidate := {}
  writeState : WriteState := .writeInit
  receiving : Bool := false
  selected : Bool := false
  lastPingSent : ℤ := 0
  lastPingResponseReceived : ℤ := 0
  lastPingReceived : ℤ := 0
  lastDataReceived : ℤ := 0
  numPingsSent : ℤ := 0
  pingsSinceLastResponses : List SentPing := []
  requests : List StunRequest := []
  rtt : ℤ := 3000
  rttSamples : ℤ := 0
  state : IceCandidatePairState := .waiting
deriving DecidableEq, Repr

/-! ## STUN response types -/

/-- The class bits of a message type. -/
def k_stun_class_mask : UInt16 := 0x0110

def isStunRequestType (type : UInt16) : Bool := type &&& k_stun_class_mask = 0

/-- `get_stun_success_response`, `none` for its `-1`. -/
def getStunSuccessResponse (type : UInt16) : Option UInt16 :=
  if isStunRequestType type then some ((type &&& ~~~k_stun_class_mask) ||| 0x100) else none

/-- `get_stun_error_response`, `none` for its `-1`. -/
def getStunErrorResponse (type : UInt16) : Option UInt16 :=
  if isStunRequestType type then some ((type &&& ~~~k_stun_class_mask) ||| 0x110) else none

namespace IceConnection

variable (c : IceConnection)

def writable : Bool := c.writeState = .writable
def weak : Bool := !(c.writable && c.receiving)
def active : Bool := c.writeState ≠ .writeTimeout

/-- `priority`: the sum is taken in 64 bits, twice the larger priority
still in 32. -/
def priority : UInt64 :=
  let g := c.localPriority
  let d := c.remoteCandidate.priority
  ((min g d).toUInt64 <<< 32) + (2 * max g d).toUInt64 + (if g > d then 1 else 0)

def lastReceived : ℤ :=
  max (max c.lastPingReceived c.lastPingResponseReceived) c.lastDataReceived

/-- `_too_many_ping_failed`. The response time expected is an `int`. -/
def tooManyPingFailed (maxPings : ℕ) (rtt now : ℤ) : Bool :=
  if c.pingsSinceLastResponses.length < maxPings then false
  else
    match c.pingsSinceLastResponses[maxPings - 1]? with
    | none => false
    | some ping => now > toInt32 (ping.sentTime + rtt)

def tooLongWithoutResponse (minTime now : ℤ) : Bool :=
  match c.pingsSinceLastResponses with
  | [] => false
  | ping :: _ => now > toInt64 (ping.sentTime + minTime)

/-- `_miss_response`. The waiting time is an `int`. -/
def missResponse (now : ℤ) : Bool :=
  match c.pingsSinceLastResponses with
  | [] => false
  | ping :: _ => toInt32 (now - ping.sentTime) > toInt32 (2 * c.rtt)

def stable (now : ℤ) : Bool := c.rttSamples > RTT_RATIO + 1 && !c.missResponse now

/-- The round trip time `update_state` allows for: twice the measured one,
within bounds. -/
def clampedRtt : ℤ :=
  let rtt := toInt32 (2 * c.rtt)
  if rtt < MIN_RTT then MIN_RTT else if rtt > MAX_RTT then MAX_RTT else rtt

/-- The first test of `update_state`. -/
def becomesUnreliable (now : ℤ) : Bool :=
  c.writeState = .writable && c.tooManyPingFailed CONNECTION_WRITE_CONNECT_FAILS c.clampedRtt now &&
    c.tooLongWithoutResponse CONNECTION_WRITE_CONNECT_TIMEOUT now

/-- The second test of `update_state`. -/
def timesOut (now : ℤ) : Bool :=
  (c.writeState = .writeUnreliable || c.writeState = .writeInit) &&
    c.tooLongWithoutResponse CONNECTION_WRITE_TIMEOUT now

/-- What `update_receiving` finds. -/
def isReceiving (now : ℤ) : Bool :=
  if c.lastPingSent < c.lastPingResponseReceived then true
  else c.lastReceived > 0 && now < c.lastReceived + WEAK_CONNECTION_RECEIVE_TIMEOUT

/-- The credentials of the peer are known. -/
def hasCredentials : Bool :=
  !(c.remoteCandidate.username = "" || c.remoteCandidate.password = "")

/-- `maybe_set_remote_ice_params`. -/
def maybeSetRemoteIceParams (params : IceParameters) : IceConnection :=
  if c.remoteCandidate.username = params.iceUfrag && c.remoteCandidate.password = "" then
    { c with remoteCandidate := { c.remoteCandidate with password := params.icePwd } }
  else c

/-! ## The request manager -/

/-- `_requests[id] = request`: a request of the same id is overwritten. -/
def addRequest (request : StunRequest) : IceConnection :=
  { c with requests := c.requests.filter (·.id ≠ request.id) ++ [request] }

/-- `StunRequestManager::remove`. -/
def removeRequest (id : String) : IceConnection :=
  { c with requests := c.requests.filter (·.id ≠ id) }

def findRequest (id : String) : Option StunRequest := c.requests.find? (·.id = id)

/-- `ping`, but for the request's own transmission. -/
def ping (request : StunRequest) (now : ℤ) : IceConnection :=
  { c.addRequest request with
    lastPingSent := now
    pingsSinceLastResponses := c.pingsSinceLastResponses ++ [⟨request.id, now⟩]
    state := .inProgress
    numPingsSent := c.numPingsSent + 1 }

end IceConnection

end Ice

end XrtcServer
