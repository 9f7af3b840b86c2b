import XrtcServer.Common.Keyed
import XrtcServer.Pc.Model.SessionDescription
import Mathlib.Logic.Function.Basic
/-!
# The transport controller

`TransportController` with the `IceAgent` under it, as far as the two
descriptions and the packets go: which transports there are, under which
names, and what they are given. Connectivity is in `Ice`; the handshake is
seen as the SRTP session of a transport being there or not.
-/

namespace XrtcServer

namespace Pc

open Base Common Ice

/-- What comes from outside while an offer is made: random strings of
base64 characters, the networks, and the port that the socket of a transport
on a network was bound to. -/
structure Surroundings where
  createRandomString : ℕ → String
  createRandomString_length : ∀ n, (createRandomString n).length = n
  createRandomString_chars : ∀ n, ∀ c ∈ (createRandomString n).toList,
    c.isAlphanum = true ∨ c = '+' ∨ c = '/'
  networks : List UInt32
  boundPort : String → UInt32 → Option UInt16

/-! ## The transports -/

/-- The part of an `IceTransportChannel` that descriptions set. -/
structure IceChannel where
  transportName : String
  iceParams : IceParameters := {}
  remoteIceParams : IceParameters := {}
  localCandidates : List Candidate := []

def RTP : ℕ := 1
def ICE_TYPE_PREFERENCE_HOST : UInt32 := 126
def LOCAL_PORT_TYPE : String := "host"

/-- `Candidate::get_priority`. -/
def getPriority (rtc : RtcText) (typePreference : UInt32) (networkAdapterPreference : ℤ)
    (relayPreference : ℤ) (ip : UInt32) (component : ℕ) : UInt32 :=
  let addrRef := rtc.ipAddressPrecedence ip + relayPreference
  let localPref := UInt32.ofInt (networkAdapterPreference * 2 ^ 8) ||| UInt32.ofInt addrRef
  typePreference <<< 24 ||| localPref <<< 8 ||| UInt32.ofInt (256 - component)

/-- The text of `compute_foundation`. -/
def computeFoundation (rtc : RtcText) (type protocol : String) (ip : UInt32) : String :=
  toString (rtc.computeCrc32 (toBytes (type ++ ipToString ip ++ protocol))).toNat

/-- `create_ice_candidate`, of a socket bound to a port. -/
def createIceCandidate (rtc : RtcText) (ip : UInt32) (port : UInt16) : Candidate where
  foundation := computeFoundation rtc LOCAL_PORT_TYPE "udp" ip
  component := RTP
  protocol := "udp"
  priority := getPriority rtc ICE_TYPE_PREFERENCE_HOST 0 0 ip RTP
  address := ⟨ip, port⟩
  type := LOCAL_PORT_TYPE

/-- `IceTransportChannel::gathering_candidate`: a channel without credentials
gathers nothing. -/
def IceChannel.gatheringCandidate (rtc : RtcText) (outside : Surroundings) (ch : IceChannel) :
    IceChannel :=
  if ch.iceParams.iceUfrag = "" ∨ ch.iceParams.icePwd = "" then ch
  else
    let gathered := outside.networks.filterMap fun ip =>
      (outside.boundPort ch.transportName ip).map (createIceCandidate rtc ip)
    { ch with localCandidates := ch.localCandidates ++ gathered }

/-- A channel signals its candidates where it could gather some. -/
def IceChannel.signalsCandidates (outside : Surroundings) (ch : IceChannel) : Bool :=
  ch.iceParams.iceUfrag ≠ "" && ch.iceParams.icePwd ≠ "" && outside.networks ≠ []

/-- `DtlsTransport`, without the TLS stream behind it. -/
structure DtlsTransport where
  transportName : String
  localCertificate : Option ℕ := none
  dtlsActive : Bool := false
  remoteFingerprintAlg : String := ""
  remoteFingerprintValue : List UInt8 := []

namespace DtlsTransport

variable (dtls : DtlsTransport)

/-- `set_local_certificate`: the certificate is set once. -/
def setLocalCertificate (certificate : Option ℕ) : DtlsTransport :=
  if dtls.dtlsActive ∨ certificate = none then dtls
  else { dtls with localCertificate := certificate, dtlsActive := true }

/-- `set_remote_fingerprint`. -/
def setRemoteFingerprint (digestAlg : String) (digest : List UInt8) : DtlsTransport :=
  if dtls.dtlsActive ∧ dtls.remoteFingerprintValue = digest then dtls
  else if digestAlg = "" then { dtls with dtlsActive := false }
  else if dtls.dtlsActive = false then dtls
  else { dtls with remoteFingerprintValue := digest, remoteFingerprintAlg := digestAlg }

end DtlsTransport

/-- `DtlsSrtpTransport`: whether `is_srtp_active`, and the packets that got
past that check, to be protected and sent. -/
structure DtlsSrtpTransport where
  transportName : String
  srtpActive : Bool := false
  rtpHanded : List (List UInt8) := []
  rtcpHanded : List (List UInt8) := []

namespace DtlsSrtpTransport

variable (srtp : DtlsSrtpTransport)

def sendRtp (data : List UInt8) : DtlsSrtpTransport :=
  if srtp.srtpActive then { srtp with rtpHanded := srtp.rtpHanded ++ [data] } else srtp

def sendRtcp (data : List UInt8) : DtlsSrtpTransport :=
  if srtp.srtpActive then { srtp with rtcpHanded := srtp.rtcpHanded ++ [data] } else srtp

end DtlsSrtpTransport

/-! ## The controller -/

/-- `TransportController`, with the channels of its `IceAgent`. -/
structure TransportController where
  localCertificate : Option ℕ := none
  channels : List IceChannel := []
  dtlsTransportByName : String → Option DtlsTransport := fun _ => none
  dtlsSrtpTransportByName : String → Option DtlsSrtpTransport := fun _ => none

/-- How `set_remote_sdp` is left where it does not return. -/
inductive Fault where
  /-- `std::out_of_range`, thrown by the line parser. -/
  | outOfRange
  /-- `set_remote_description` reads a fingerprint through a null pointer. -/
  | nullFingerprint
deriving DecidableEq

namespace TransportController

variable (tc : TransportController)

def setLocalCertificate (certificate : Option ℕ) : TransportController :=
  { tc with localCertificate := certificate }

/-- `IceAgent::get_channel`. -/
def getChannel (transportName : String) : Option IceChannel :=
  tc.channels.find? fun ch => ch.transportName = transportName

/-- `IceAgent::create_channel`. -/
def createChannel (transportName : String) : TransportController :=
  if (tc.getChannel transportName).isSome then tc
  else { tc with channels := tc.channels ++ [{ transportName := transportName }] }

/-- The channel that `get_channel` finds, where it finds one, changed. -/
def updateChannel (transportName : String) (f : IceChannel → IceChannel) : TransportController :=
  { tc with channels := updateFirst (fun ch => ch.transportName = transportName) f tc.channels }

/-- `IceAgent::set_ice_params`. -/
def setIceParams (transportName : String) (params : IceParameters) : TransportController :=
  tc.updateChannel transportName fun ch => { ch with iceParams := params }

/-- `IceAgent::set_remote_ice_params`. -/
def setRemoteIceParams (transportName : String) (params : IceParameters) : TransportController :=
  tc.updateChannel transportName fun ch => { ch with remoteIceParams := params }

/-- The transport of a name, new or as a call left it. -/
def setDtlsTransport (name : String) (dtls : DtlsTransport) : TransportController :=
  { tc with dtlsTransportByName := Function.update tc.dtlsTransportByName name (some dtls) }

def setDtlsSrtpTransport (name : String) (srtp : DtlsSrtpTransport) : TransportController :=
  { tc with dtlsSrtpTransportByName := Function.update tc.dtlsSrtpTransportByName name (some srtp) }

/-- `_add_dtls_transport`, which replaces the transport of that name. -/
def addDtlsTransport (dtls : DtlsTransport) : TransportController :=
  tc.setDtlsTransport dtls.transportName dtls

/-- `_add_dtls_srtp_transport`. -/
def addDtlsSrtpTransport (srtp : DtlsSrtpTransport) : TransportController :=
  tc.setDtlsSrtpTransport srtp.transportName srtp

/-- A section bundled with an earlier one has no transport of its own. -/
def bundledAway (desc : SessionDescription) (mid : String) : Bool :=
  desc.isBundle mid && mid ≠ desc.getFirstBundleMid

/-- `set_local_description`, of one section. -/
def createTransport (desc : SessionDescription) (tc : TransportController)
    (content : MediaContentDescription) : TransportController :=
  let mid := content.mid
  if bundledAway desc mid then tc
  else
    let tc := tc.createChannel mid
    let tc := match desc.getTransportInfo mid with
      | none => tc
      | some td => tc.setIceParams mid ⟨td.iceUfrag, td.icePwd⟩
    let dtls : DtlsTransport := { transportName := mid }
    let tc := tc.addDtlsTransport (dtls.setLocalCertificate tc.localCertificate)
    tc.addDtlsSrtpTransport { transportName := mid }

/-- `IceAgent::gathering_candidate`. -/
def gatheringCandidate (rtc : RtcText) (outside : Surroundings) : TransportController :=
  { tc with channels := tc.channels.map (IceChannel.gatheringCandidate rtc outside) }

def setLocalDescription (rtc : RtcText) (outside : Surroundings) (desc : SessionDescription) :
    TransportController :=
  (desc.contents.foldl (createTransport desc) tc).gatheringCandidate rtc outside

/-- `set_remote_description`, of one section. The fingerprint is read
through its pointer once there is a transport to give it to. -/
def applyContent (desc : SessionDescription) (tc : TransportController)
    (content : MediaContentDescription) : Except (Fault × TransportController) TransportController :=
  let mid := content.mid
  if bundledAway desc mid then .ok tc
  else
    match desc.getTransportInfo mid with
    | none => .ok tc
    | some td =>
      let tc := tc.setRemoteIceParams mid ⟨td.iceUfrag, td.icePwd⟩
      match tc.dtlsTransportByName mid, td.identityFingerprint with
      | none, _ => .ok tc
      | some _, none => .error (.nullFingerprint, tc)
      | some dtls, some fingerprint =>
        .ok (tc.setDtlsTransport mid
          (dtls.setRemoteFingerprint fingerprint.algorithm fingerprint.digest))

def setRemoteDescription (desc : SessionDescription) :
    Except (Fault × TransportController) TransportController :=
  desc.contents.foldlM (applyContent desc) tc

/-- `send_rtp` and `send_rtcp`, whose results no caller looks at. -/
def send (transportName : String) (send : DtlsSrtpTransport → DtlsSrtpTransport) :
    TransportController :=
  match tc.dtlsSrtpTransportByName transportName with
  | none => tc
  | some srtp => tc.setDtlsSrtpTransport transportName (send srtp)

def sendRtp (transportName : String) (data : List UInt8) : TransportController :=
  tc.send transportName (·.sendRtp data)

def sendRtcp (transportName : String) (data : List UInt8) : TransportController :=
  tc.send transportName (·.sendRtcp data)

end TransportController

end Pc

end XrtcServer
