import XrtcServer.Base.Model.RtcText
/-!
# The DTLS transport

`DtlsTransport` with the `DtlsSrtpTransport` connected to it, if there is
one. The TLS stream and libsrtp are parameters, seen through what is called
of them and what they answer; an adapter is its number in the order of
`Create`. Events of an adapter arrive one at a time: a handler has nothing
left to do but clear the cached ClientHello once it has handed a packet to
the adapter. What the transport controller makes of the signals is in
`ConnectionState`.
-/

namespace XrtcServer

namespace Pc

/-! ## Packets -/

def k_dtls_record_header_len : ℕ := 13
def k_dtls_handshake_value_offset : ℕ := 17
def k_min_rtp_packet_len : ℕ := 12
def k_min_rtcp_packet_len : ℕ := 4
def k_rtp_version : UInt8 := 2

/-- `is_dtls_packet`. -/
def isDtlsPacket (buf : List UInt8) : Bool :=
  if buf.length < k_dtls_record_header_len then false
  else 19 < buf.getD 0 0 && buf.getD 0 0 < 64

/-- `is_dtls_client_hello_packet`. -/
def isDtlsClientHelloPacket (buf : List UInt8) : Bool :=
  if isDtlsPacket buf = false then false
  else
    k_dtls_handshake_value_offset < buf.length && (buf.getD 0 0 = 22 && buf.getD 13 0 = 1)

/-- `is_rtp_packet`. -/
def isRtpPacket (buf : List UInt8) : Bool :=
  k_min_rtp_packet_len ≤ buf.length && buf.getD 0 0 &&& 0xC0 = 0x80

namespace Dtls

open Base

/-- The loop of `_handle_dtls_packet`, for as many records: the records
fill the packet. -/
def recordsFit : ℕ → List UInt8 → Bool
  | _, [] => true
  | 0, _ => false
  | n + 1, data =>
    if data.length < k_dtls_record_header_len then false
    else
      let recordLen := (data.getD 11 0).toNat <<< 8 ||| (data.getD 12 0).toNat
      if data.length < recordLen + k_dtls_record_header_len then false
      else recordsFit n (data.drop (k_dtls_record_header_len + recordLen))

/-- `payload_type_is_reserved_for_rtcp`. -/
def payloadTypeIsReservedForRtcp (payloadType : UInt8) : Bool :=
  64 ≤ payloadType && payloadType < 96

inductive RtpPacketType where
  | rtp | rtcp | unknown
deriving DecidableEq, Repr

/-- `infer_rtp_packet_type`. -/
def inferRtpPacketType (packet : List UInt8) : RtpPacketType :=
  let reserved := payloadTypeIsReservedForRtcp (packet.getD 1 0 &&& 0x7F)
  if k_min_rtp_packet_len ≤ packet.length && packet.getD 0 0 >>> 6 = k_rtp_version && !reserved then
    .rtp
  else if k_min_rtcp_packet_len ≤ packet.length && reserved then .rtcp
  else .unknown

/-! ## What is called from outside -/

inductive SSLPeerCertificateDigestError where
  | UNKNOWN_ALGORITHM | INVALID_LENGTH | VERIFICATION_FAILED
deriving DecidableEq, Repr

/-- What `SSLStreamAdapter`, the table of SRTP suites and libsrtp answer.
`startSSL` returns 0 where it succeeds, `setPeerCertificateDigest` no error. -/
structure Libraries where
  create : ℕ → Bool
  startSSL : ℕ → ℤ
  setPeerCertificateDigest : ℕ → String → List UInt8 → Option SSLPeerCertificateDigestError
  setDtlsSrtpCryptoSuites : ℕ → Bool
  getDtlsSrtpCryptoSuite : ℕ → Option ℤ
  exportKeyingMaterial : ℕ → String → ℕ → Option (List UInt8)
  getSrtpKeyAndSaltLengths : ℤ → Option (ℕ × ℕ)
  /-- `SrtpSession::_set_key`. -/
  setKey : ℤ → List UInt8 → Bool
  /-- `SrtpSession::_update_key`. -/
  updateKey : ℤ → List UInt8 → Bool

/-- Libraries that never fail: every association has the suite
`AES_CM_128_HMAC_SHA1_80`, and keys of its own. -/
def obliging : Libraries where
  create _ := true
  startSSL _ := 0
  setPeerCertificateDigest _ _ _ := none
  setDtlsSrtpCryptoSuites _ := true
  getDtlsSrtpCryptoSuite _ := some 1
  exportKeyingMaterial adapter _ length := some (List.replicate length (UInt8.ofNat adapter))
  getSrtpKeyAndSaltLengths cs := if cs = 1 then some (16, 14) else none
  setKey _ _ := true
  updateKey _ _ := true

/-- What an adapter is called with. -/
inductive SslCall where
  | setPeerCertificateDigest (adapter : ℕ) (digestAlg : String) (digest : List UInt8)
  | startSSL (adapter : ℕ)
  | onReceivedPacket (adapter : Option ℕ) (packet : List UInt8)
deriving DecidableEq, Repr

/-- `rtc::StreamResult`. -/
inductive StreamResult where
  | error | success | block | eos
deriving DecidableEq, Repr

/-! ## The SRTP sessions -/

/-- `SrtpSession`, with the key it was given. -/
structure SrtpSession where
  cs : ℤ
  key : List UInt8
deriving DecidableEq, Repr

/-- `DtlsSrtpTransport`, and the sessions that packets were protected or
unprotected with. -/
structure DtlsSrtpTransport where
  sendSession : Option SrtpSession := none
  recvSession : Option SrtpSession := none
  used : List SrtpSession := []
deriving DecidableEq, Repr

namespace DtlsSrtpTransport

variable (srtp : DtlsSrtpTransport)

/-- `reset_params`. -/
def resetParams : DtlsSrtpTransport := { srtp with sendSession := none, recvSession := none }

/-- `is_srtp_active`. -/
def isSrtpActive : Bool := srtp.recvSession.isSome && srtp.sendSession.isSome

/-- `set_rtp_params`. -/
def setRtpParams (lib : Libraries) (cs : ℤ) (sendKey recvKey : List UInt8) : DtlsSrtpTransport :=
  let set := if srtp.sendSession.isNone then lib.setKey else lib.updateKey
  if set cs sendKey = false then srtp.resetParams
  else if set cs recvKey = false then srtp.resetParams
  else { srtp with sendSession := some ⟨cs, sendKey⟩, recvSession := some ⟨cs, recvKey⟩ }

/-- A packet protected or unprotected by a session, where both are there. -/
def use (session : Option SrtpSession) : DtlsSrtpTransport :=
  if srtp.isSrtpActive then { srtp with used := srtp.used ++ session.toList } else srtp

/-- `send_rtp` and `send_rtcp`. -/
def send : DtlsSrtpTransport := srtp.use srtp.sendSession

/-- `_on_read_packet`. -/
def onReadPacket (packet : List UInt8) : DtlsSrtpTransport :=
  match inferRtpPacketType packet with
  | .unknown => srtp
  | .rtcp => srtp.use srtp.recvSession
  | .rtp => srtp.use srtp.recvSession

end DtlsSrtpTransport

/-! ## The transport -/

inductive DtlsTransportState where
  | new | connecting | connected | closed | failed
deriving DecidableEq, Repr

/-- `DtlsTransport`, with the two flags of the channel under it and the
calls its adapters got. An empty buffer is `[]`. -/
structure DtlsTransport where
  channelWritable : Bool := false
  channelReceiving : Bool := false
  dtlsState : DtlsTransportState := .new
  receiving : Bool := false
  writable : Bool := false
  dtls : Option ℕ := none
  downward : Option ℕ := none
  catchedClientHello : List UInt8 := []
  localCertificate : Option ℕ := none
  remoteFingerprintValue : List UInt8 := []
  remoteFingerprintAlg : String := ""
  dtlsActive : Bool := false
  /-- How often `Create` was called. -/
  created : ℕ := 0
  calls : List SslCall := []
  /-- The `DtlsSrtpTransport` connected to its signals. -/
  srtp : Option DtlsSrtpTransport := none
deriving DecidableEq, Repr

def k_dtls_srtp_exporter_label : String := "EXTRACTOR-dtls_srtp"

/-- The end of `_extract_params`: the suite of an adapter, and the server's
and the client's key of what it exports, each with its salt. -/
def extractKeys (lib : Libraries) (adapter : ℕ) : Option (ℤ × List UInt8 × List UInt8) := do
  let suite ← lib.getDtlsSrtpCryptoSuite adapter
  let (keyLen, saltLen) ← lib.getSrtpKeyAndSaltLengths suite
  let buffer ← lib.exportKeyingMaterial adapter k_dtls_srtp_exporter_label (2 * (keyLen + saltLen))
  let clientWriteKey := buffer.take keyLen ++ (buffer.drop (2 * keyLen)).take saltLen
  let serverWriteKey :=
    (buffer.drop keyLen).take keyLen ++ (buffer.drop (2 * keyLen + saltLen)).take saltLen
  pure (suite, serverWriteKey, clientWriteKey)

namespace DtlsTransport

variable (lib : Libraries) (t : DtlsTransport)

def call (c : SslCall) : DtlsTransport := { t with calls := t.calls ++ [c] }

/-- `_extract_params`, of an active transport. -/
def extractParams : Option (ℤ × List UInt8 × List UInt8) :=
  if t.dtlsActive = false then none
  else if t.dtlsState ≠ .connected then none
  else t.dtls.bind (extractKeys lib)

/-- `_maybe_setup_dtls_srtp`, with one transport for RTP and RTCP. -/
def maybeSetupDtlsSrtp (srtp : DtlsSrtpTransport) : DtlsSrtpTransport :=
  if srtp.isSrtpActive || !t.writable then srtp
  else
    match t.extractParams lib with
    | none => srtp
    | some (suite, sendKey, recvKey) => srtp.setRtpParams lib suite sendKey recvKey

/-- `DtlsSrtpTransport::_on_dtls_state`. -/
def onDtlsState (srtp : DtlsSrtpTransport) : DtlsSrtpTransport :=
  if t.dtlsState ≠ .connected then srtp.resetParams else t.maybeSetupDtlsSrtp lib srtp

/-- `DtlsSrtpTransport::set_dtls_transport`. -/
def connectSrtp (srtp : DtlsSrtpTransport) : DtlsTransport :=
  { t with srtp := some (t.maybeSetupDtlsSrtp lib srtp) }

/-- `_set_dtls_state`. -/
def setDtlsState (state : DtlsTransportState) : DtlsTransport :=
  if t.dtlsState = state then t
  else
    let t := { t with dtlsState := state }
    { t with srtp := t.srtp.map (t.onDtlsState lib) }

/-- `_set_writable_state`. -/
def setWritableState (writable : Bool) : DtlsTransport := { t with writable := writable }

/-- `_set_receiving`. -/
def setReceiving (receiving : Bool) : DtlsTransport := { t with receiving := receiving }

/-- `_handle_dtls_packet`, and whether it returned true. -/
def handleDtlsPacket (data : List UInt8) : DtlsTransport × Bool :=
  if recordsFit data.length data then (t.call (.onReceivedPacket t.downward data), true)
  else (t, false)

/-- The end of `_maybe_start_dtls`. -/
def replayClientHello : DtlsTransport :=
  if t.catchedClientHello = [] then t
  else
    let (t', ok) := t.handleDtlsPacket t.catchedClientHello
    let t' := if ok then t' else t'.setDtlsState lib .failed
    { t' with catchedClientHello := [] }

/-- `_maybe_start_dtls`. -/
def maybeStartDtls : DtlsTransport :=
  match t.dtls with
  | none => t
  | some adapter =>
    if t.channelWritable = false then t
    else
      let t := t.call (.startSSL adapter)
      if lib.startSSL adapter ≠ 0 then t.setDtlsState lib .failed
      else (t.setDtlsState lib .connecting).replayClientHello lib

/-- `SetPeerCertificateDigest` with the fingerprint that is known, and
whether the adapter took it. -/
def setDigest (adapter : ℕ) : DtlsTransport × Bool :=
  (t.call (.setPeerCertificateDigest adapter t.remoteFingerprintAlg t.remoteFingerprintValue),
    (lib.setPeerCertificateDigest adapter t.remoteFingerprintAlg t.remoteFingerprintValue).isNone)

/-- `Create`, in `_setup_dtls`. -/
def createAdapter : DtlsTransport :=
  { t with
    created := t.created + 1
    downward := some t.created
    dtls := if lib.create t.created then some t.created else none }

/-- A fingerprint that is known already, passed to a new adapter. -/
def offerDigest (adapter : ℕ) : DtlsTransport × Bool :=
  if t.remoteFingerprintValue = [] then (t, true) else t.setDigest lib adapter

/-- `_setup_dtls` from where there is an adapter. -/
def configureAdapter (adapter : ℕ) : DtlsTransport × Bool :=
  let (t, ok) := t.offerDigest lib adapter
  if ok = false then (t, false)
  else if lib.setDtlsSrtpCryptoSuites adapter = false then (t, false)
  else (t.maybeStartDtls lib, true)

/-- `_setup_dtls`, and whether it returned true. -/
def setupDtls : DtlsTransport × Bool :=
  if lib.create t.created = false then (t.createAdapter lib, false)
  else (t.createAdapter lib).configureAdapter lib t.created

/-- `set_local_certificate`. -/
def setLocalCertificate (certificate : Option ℕ) : DtlsTransport :=
  if t.dtlsActive then t
  else
    match certificate with
    | none => t
    | some certificate => { t with localCertificate := some certificate, dtlsActive := true }

/-- `set_remote_fingerprint` from where the fingerprint is known to be new. -/
def applyFingerprint (isFingerprintChange : Bool) : DtlsTransport :=
  match t.dtls, isFingerprintChange with
  | some adapter, false =>
    let (t, ok) := t.setDigest lib adapter
    if ok then t else t.setDtlsState lib .failed
  | some _, true =>
    let t := ({ t with dtls := none }.setDtlsState lib .new).setWritableState false
    let (t, ok) := t.setupDtls lib
    if ok then t else t.setDtlsState lib .failed
  | none, _ =>
    let (t, ok) := t.setupDtls lib
    if ok then t else t.setDtlsState lib .failed

/-- `set_remote_fingerprint`. -/
def setRemoteFingerprint (digestAlg : String) (digest : List UInt8) : DtlsTransport :=
  if t.dtlsActive && t.remoteFingerprintValue = digest then t
  else if digestAlg = "" then { t with dtlsActive := false }
  else if t.dtlsActive = false then t
  else
    { t with remoteFingerprintValue := digest, remoteFingerprintAlg := digestAlg }.applyFingerprint
      lib (t.remoteFingerprintAlg ≠ "")

/-- `_on_writable_state`, once the channel's flag has changed. -/
def onWritableState : DtlsTransport :=
  if t.dtlsActive = false then t.setWritableState t.channelWritable
  else
    match t.dtlsState with
    | .new => t.maybeStartDtls lib
    | .connected => t.setWritableState t.channelWritable
    | _ => t

/-- `_on_receiving_state`. -/
def onReceivingState : DtlsTransport := t.setReceiving t.channelReceiving

/-- `_on_read_packet`. -/
def onReadPacket (buf : List UInt8) : DtlsTransport :=
  match t.dtlsState with
  | .new =>
    if isDtlsClientHelloPacket buf then
      let t := { t with catchedClientHello := buf }
      if t.dtls.isNone && t.localCertificate.isSome then (t.setupDtls lib).1 else t
    else t
  | .connecting | .connected =>
    if isDtlsPacket buf then (t.handleDtlsPacket buf).1
    else if t.dtlsState ≠ .connected then t
    else if isRtpPacket buf = false then t
    else { t with srtp := t.srtp.map (·.onReadPacket buf) }
  | _ => t

/-- The loop of `_on_dtls_event` over the results of `Read`. -/
def readDtls : List StreamResult → DtlsTransport
  | .success :: results => readDtls results
  | .eos :: _ | .error :: _ => (t.setWritableState false).setDtlsState lib .closed
  | _ => t

/-- `_on_dtls_event`, for a mask of `SE_OPEN`, `SE_READ` and `SE_CLOSE`. -/
def onDtlsEvent (seOpen seRead seClose : Bool) (results : List StreamResult) (error : ℤ) :
    DtlsTransport :=
  let t := if seOpen then (t.setWritableState true).setDtlsState lib .connected else t
  let t := if seRead then t.readDtls lib results else t
  if seClose then
    (t.setWritableState false).setDtlsState lib (if error = 0 then .closed else .failed)
  else t

end DtlsTransport

/-! ## What can happen to it -/

/-- A fingerprint as the remote description has it. -/
structure RemoteFingerprint extends SSLFingerprint where
  algorithm_ne : algorithm ≠ ""
  digest_ne : digest ≠ []

inductive Event where
  | localCertificate (certificate : Option ℕ)
  | remoteFingerprint (fingerprint : RemoteFingerprint)
  /-- The channel signals that it became writable or stopped being. -/
  | iceWritable (writable : Bool)
  | iceReceiving (receiving : Bool)
  | icePacket (buf : List UInt8)
  /-- The adapter signals. -/
  | dtlsEvent (seOpen seRead seClose : Bool) (results : List StreamResult) (error : ℤ)
  /-- An RTP or RTCP packet is to be sent. -/
  | send

/-- One event, handled. The channel signals changes only. -/
def handle (lib : Libraries) (t : DtlsTransport) : Event → DtlsTransport
  | .localCertificate certificate => t.setLocalCertificate certificate
  | .remoteFingerprint fingerprint =>
    t.setRemoteFingerprint lib fingerprint.algorithm fingerprint.digest
  | .iceWritable writable =>
    if writable = t.channelWritable then t
    else { t with channelWritable := writable }.onWritableState lib
  | .iceReceiving receiving =>
    if receiving = t.channelReceiving then t
    else { t with channelReceiving := receiving }.onReceivingState
  | .icePacket buf => t.onReadPacket lib buf
  | .dtlsEvent seOpen seRead seClose results error =>
    t.onDtlsEvent lib seOpen seRead seClose results error
  | .send => { t with srtp := t.srtp.map (·.send) }

/-- A new transport over a channel, connected to a new `DtlsSrtpTransport`. -/
def start (lib : Libraries) (channelWritable channelReceiving : Bool) : DtlsTransport :=
  DtlsTransport.connectSrtp lib
    { channelWritable := channelWritable, channelReceiving := channelReceiving } {}

/-- One event, where it can happen: only an adapter that is there signals. -/
def step (lib : Libraries) (t : DtlsTransport) (e : Event) : Option DtlsTransport :=
  match e, t.dtls with
  | .dtlsEvent .., none => none
  | e, _ => some (handle lib t e)

end Dtls

end Pc

end XrtcServer
