import XrtcServer.Ice.Model.Channel
import XrtcServer.Ice.Model.Stun
/-!
# Datagrams on a port

`UDPPort::get_stun_message`, what a datagram is for the channel, and what is
sent in return. The port's ICE parameters are those of its channel, and it
has its socket. `IceTransportChannel.onReadDatagram` is `_on_read_packet` of
the port, from the bytes of the datagram.
-/

namespace XrtcServer

namespace Ice

open Base

/-- What `get_stun_message` returns and puts out, with the datagrams it
sends. -/
structure GotStun where
  res : Bool
  outMsg : Option StunMessage := none
  outUsername : String := ""
  sent : List (List UInt8) := []

namespace UDPPort

variable (rtc : Rtc) (iceParams : IceParameters)

/-- The reason phrases of the codes that are used. -/
def errorReason (errCode : ℤ) : String :=
  if errCode = STUN_ERROR_BAD_REQUEST then "Bad Request"
  else if errCode = STUN_ERROR_UNAUTHORIZED then "Unauthorized"
  else "Server Error"

/-- `send_binding_error_response`: the datagram. -/
def bindingErrorResponse (stunMsg : StunMessage) (errCode : ℤ) : List UInt8 :=
  let response : StunMessage :=
    { type := STUN_BINDING_ERROR_RESPONSE, transactionId := stunMsg.transactionId }
  let response := response.addAttribute (.ofErrorCode errCode (toBytes (errorReason errCode)))
  let response :=
    if errCode ≠ STUN_ERROR_BAD_REQUEST ∧ errCode ≠ STUN_ERROR_UNAUTHORIZED then
      response.addMessageIntegrity rtc iceParams.icePwd
    else response
  (response.addFingerprint rtc).write rtc

/-- `send_binding_error_response`, for any reason. -/
def sendBindingErrorResponse (stunMsg : StunMessage) (errCode : ℤ) (reason : List UInt8) :
    List UInt8 :=
  let response : StunMessage :=
    { type := STUN_BINDING_ERROR_RESPONSE, transactionId := stunMsg.transactionId }
  let response := response.addAttribute (.ofErrorCode errCode reason)
  let response :=
    if errCode ≠ STUN_ERROR_BAD_REQUEST ∧ errCode ≠ STUN_ERROR_UNAUTHORIZED then
      response.addMessageIntegrity rtc iceParams.icePwd
    else response
  (response.addFingerprint rtc).write rtc

/-- `_parse_stun_username`: the two fields, where there are two. -/
def parseStunUsername (stunMsg : StunMessage) : Option (String × String) :=
  match stunMsg.getByteString STUN_ATTR_USERNAME with
  | none => none
  | some username =>
    match rtc.split (ofBytes username) ':' with
    | [localUfrag, remoteUfrag] => some (localUfrag, remoteUfrag)
    | _ => none

/-- `get_stun_message`. -/
def getStunMessage (data : List UInt8) : GotStun :=
  if StunMessage.validateFingerprint rtc data = false then { res := false }
  else
    match StunMessage.read rtc data with
    | none => { res := false }
    | some (stunMsg, buf) =>
      if buf.length ≠ 0 then { res := false }
      else if stunMsg.type = STUN_BINDING_REQUEST then
        if stunMsg.getByteString STUN_ATTR_USERNAME = none ∨
            stunMsg.getByteString STUN_ATTR_MESSAGE_INTEGRITY = none then
          { res := true
            sent := [bindingErrorResponse rtc iceParams stunMsg STUN_ERROR_BAD_REQUEST] }
        else
          let unauthorized : GotStun :=
            { res := true
              sent := [bindingErrorResponse rtc iceParams stunMsg STUN_ERROR_UNAUTHORIZED] }
          match parseStunUsername rtc stunMsg with
          | none => unauthorized
          | some (localUfrag, remoteUfrag) =>
            if localUfrag ≠ iceParams.iceUfrag then unauthorized
            else
              let integrity := stunMsg.validateMessageIntegrity rtc iceParams.icePwd
              if integrity ≠ .integrityOk then unauthorized
              else
                { res := true, outMsg := some { stunMsg with integrity := integrity },
                  outUsername := remoteUfrag }
      else { res := true, outMsg := some stunMsg }

/-- What the datagram is for the channel. -/
def packetOf (got : GotStun) : Packet :=
  if got.res = false then .notStun
  else
    match got.outMsg with
    | none => .refused
    | some stunMsg =>
      if stunMsg.type = STUN_BINDING_REQUEST then
        .request got.outUsername (stunMsg.getUint32 STUN_ATTR_PRIORITY)
      else if stunMsg.type = STUN_BINDING_RESPONSE ∨ stunMsg.type = STUN_BINDING_ERROR_RESPONSE then
        .response
          { type := stunMsg.type
            transactionId := ofBytes stunMsg.transactionId
            errorCode := stunMsg.getErrorCodeValue
            integrityOk := fun password =>
              stunMsg.validateMessageIntegrity rtc password = .integrityOk }
      else .otherStun

end UDPPort

open UDPPort

variable (rtc : Rtc) (iceParams : IceParameters)

/-- `send_stun_binding_response`, of a connection with a peer at the address. -/
def IceConnection.stunBindingResponse (address : SocketAddress) (stunMsg : StunMessage) :
    List (List UInt8) :=
  match stunMsg.getByteString STUN_ATTR_USERNAME with
  | none => []
  | some _ =>
    let response : StunMessage :=
      { type := STUN_BINDING_RESPONSE, transactionId := stunMsg.transactionId }
    let response := response.addAttribute (.xorAddress STUN_ATTR_XOR_MAPPED_ADDRESS address)
    let response := response.addMessageIntegrity rtc iceParams.icePwd
    [(response.addFingerprint rtc).write rtc]

/-- What `on_read_packet` of a connection sends besides. -/
def IceConnection.answers (remote : Candidate) (got : GotStun) : List (List UInt8) :=
  match got.outMsg with
  | none => []
  | some stunMsg =>
    if stunMsg.type = STUN_BINDING_REQUEST then
      if got.outUsername ≠ remote.username then
        [bindingErrorResponse rtc iceParams stunMsg STUN_ERROR_UNAUTHORIZED]
      else stunBindingResponse rtc iceParams remote.address stunMsg
    else []

/-- What `_on_unknown_address` sends. -/
def IceTransportChannel.unknownAnswers (addr : SocketAddress) (got : GotStun) :
    List (List UInt8) :=
  match got.outMsg with
  | none => []
  | some stunMsg =>
    if stunMsg.type = STUN_BINDING_REQUEST then
      match stunMsg.getUint32 STUN_ATTR_PRIORITY with
      | none => [bindingErrorResponse rtc iceParams stunMsg STUN_ERROR_BAD_REQUEST]
      | some _ => IceConnection.stunBindingResponse rtc iceParams addr stunMsg
    else []

/-- **A datagram arrives on a port**: the channel after it, and the datagrams
sent, with where they are sent. -/
def IceTransportChannel.onReadDatagram (ch : IceTransportChannel) (movingAverage : ℤ → ℤ → ℤ → ℤ)
    (portIndex : ℕ) (port : UDPPort) (addr : SocketAddress) (data : List UInt8) (id : ℕ) (now : ℤ) :
    IceTransportChannel × List (SocketAddress × List UInt8) :=
  let got := getStunMessage rtc iceParams data
  (ch.onReadPacket movingAverage portIndex port addr (packetOf rtc got) id now,
    match port.getConnection addr with
    | some conn =>
      let remote := (ch.heap conn).remoteCandidate
      (got.sent ++ IceConnection.answers rtc iceParams remote got).map (remote.address, ·)
    | none => (got.sent ++ unknownAnswers rtc iceParams addr got).map (addr, ·))

end Ice

end XrtcServer
