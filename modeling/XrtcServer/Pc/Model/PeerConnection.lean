import XrtcServer.Pc.Model.RemoteSdp
import XrtcServer.Pc.Model.TransportController
/-!
# The peer connection

`PeerConnection` over its transport controller, and `ops`, what the stream
layer calls on it. The timer of `destroy` and the signals handed on to the
stream are left out.
-/

namespace XrtcServer

namespace Pc

open Base Common Ice XrtcServer.Stream

structure PeerConnection where
  certificate : Option ℕ := none
  localDesc : Option SessionDescription := none
  remoteDesc : Option SessionDescription := none
  transportController : TransportController := {}
  audioSource : List StreamParams := []
  videoSource : List StreamParams := []

def ICE_UFRAG_LENGTH : ℕ := 4
def ICE_PWD_LENGTH : ℕ := 24

/-- `IceCredentials::create_random_ice_credentials`. -/
def createRandomIceCredentials (outside : Surroundings) : IceParameters :=
  ⟨outside.createRandomString ICE_UFRAG_LENGTH, outside.createRandomString ICE_PWD_LENGTH⟩

def getDirection (send recv : Bool) : RtpDirection :=
  if send && recv then .sendRecv
  else if send && !recv then .sendOnly
  else if !send && recv then .recvOnly
  else .inactive

namespace PeerConnection

variable (rtc : RtcText) (outside : Surroundings) (pc : PeerConnection)

def init (certificate : Option ℕ) : PeerConnection :=
  { pc with
    certificate := certificate
    transportController := pc.transportController.setLocalCertificate certificate }

def addAudioSource (source : List StreamParams) : PeerConnection :=
  { pc with audioSource := source }

def addVideoSource (source : List StreamParams) : PeerConnection :=
  { pc with videoSource := source }

/-! ## The offer -/

/-- One of the two sections of an offer: `content` is new, and `source` is
what is sent of that type. -/
def addSection (iceParams : IceParameters) (content : MediaContentDescription)
    (source : List StreamParams) (send recv : Bool) (options : RTCOfferAnswerOptions)
    (desc : SessionDescription) : SessionDescription :=
  if recv || send then
    let content := { content with
      direction := getDirection send recv
      rtcpMux := options.useRtpMux }
    let content := if send then source.foldl .addStream content else content
    (desc.addContent content).addTransportInfo rtc content.mid iceParams pc.certificate
  else desc

/-- The group of all sections. -/
def addBundle (options : RTCOfferAnswerOptions) (desc : SessionDescription) : SessionDescription :=
  if options.useRtpMux then
    let group : ContentGroup := { semantics := "BUNDLE" }
    let group := group.addContentNames (desc.contents.map (·.mid))
    if h : group.contentNames = [] then desc else desc.addGroup ⟨group, h⟩
  else desc

/-- The description that `create_offer` hands to the transports. -/
def offerDescription (options : RTCOfferAnswerOptions) : SessionDescription :=
  let iceParams := createRandomIceCredentials outside
  let desc : SessionDescription := { sdpType := .offer }
  let desc := pc.addSection rtc iceParams audioContentDescription pc.audioSource options.sendAudio
    options.recvAudio options desc
  let desc := pc.addSection rtc iceParams videoContentDescription pc.videoSource options.sendVideo
    options.recvVideo options desc
  addBundle options desc

/-- `_on_candidate_allocate_done`, of the local description. -/
def onCandidateAllocateDone (transportName : String) (candidates : List Candidate)
    (desc : SessionDescription) : SessionDescription :=
  let contents := updateFirst (fun content => transportName = content.mid)
    (fun content => content.addCandidates candidates) desc.contents
  { desc with contents := contents }

/-- The signals that come up while the channels gather. -/
def gathered (tc : TransportController) (desc : SessionDescription) : SessionDescription :=
  (tc.channels.filter (IceChannel.signalsCandidates outside)).foldl
    (fun desc ch => onCandidateAllocateDone ch.transportName ch.localCandidates desc) desc

/-- `create_offer`. -/
def createOffer (options : RTCOfferAnswerOptions) : PeerConnection × String :=
  if options.dtlsOn ∧ pc.certificate = none then (pc, "")
  else
    let desc := pc.offerDescription rtc outside options
    let tc := pc.transportController.setLocalDescription rtc outside desc
    let desc := gathered outside tc desc
    ({ pc with localDesc := some desc, transportController := tc }, desc.toString rtc)

/-! ## The answer -/

/-- `set_remote_sdp`: what it returns, or how it is left without returning. -/
def setRemoteSdp (sdp : String) : PeerConnection × Except Fault ℤ :=
  let lines := sdpLines rtc sdp
  if lines = [] then (pc, .ok (-1))
  else
    match SdpParse.parseLines rtc {} lines with
    | .error (.refused, desc) => ({ pc with remoteDesc := some desc }, .ok (-1))
    | .error (.outOfRange, desc) => ({ pc with remoteDesc := some desc }, .error .outOfRange)
    | .ok st =>
      let desc := st.finish
      match pc.transportController.setRemoteDescription desc with
      | .error (fault, tc) =>
        ({ pc with remoteDesc := some desc, transportController := tc }, .error fault)
      | .ok tc => ({ pc with remoteDesc := some desc, transportController := tc }, .ok 0)

/-- `remote_desc()->get_content(mid)->streams()`. -/
def remoteStreams (mid : String) : Option (List StreamParams) :=
  pc.remoteDesc.bind fun desc => (desc.getContent mid).map (·.sendStreams)

/-! ## The packets -/

/-- The transport is named here, whatever sections there are. -/
def sendRtp (data : List UInt8) : PeerConnection :=
  { pc with transportController := pc.transportController.sendRtp "audio" data }

def sendRtcp (data : List UInt8) : PeerConnection :=
  { pc with transportController := pc.transportController.sendRtcp "audio" data }

end PeerConnection

/-- What the stream layer calls. A call that does not return leaves nothing
to look at: the worker thread ends with it. -/
def ops (rtc : RtcText) (outside : Surroundings) : PeerConnectionOps PeerConnection where
  make := {}
  init := .init
  createOffer := PeerConnection.createOffer rtc outside
  setRemoteSdp := fun pc sdp =>
    match pc.setRemoteSdp rtc sdp with
    | (pc, .ok ret) => (pc, ret)
    | (pc, .error _) => (pc, -1)
  remoteStreams := PeerConnection.remoteStreams
  addAudioSource := .addAudioSource
  addVideoSource := .addVideoSource

end Pc

end XrtcServer
