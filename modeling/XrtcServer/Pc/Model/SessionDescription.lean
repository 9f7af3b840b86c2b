import XrtcServer.Base.Model.RtcText
import XrtcServer.Ice.Model.Connection
import XrtcServer.Stream.Model.Manager
/-!
# Session descriptions

`SessionDescription` and what it is made of, with its text. A
`shared_ptr` to a content is the content: the one object that is added
twice is two equal ones here. A description holds no empty group, so the
first name of a group can be read. A `stringstream` is the list of the
lines written to it, each without the `\r\n` it ends with.
-/

namespace XrtcServer

namespace Pc

open Base Ice XrtcServer.Stream

/-! ## Contents -/

inductive SdpType where
  | offer
  | answer
deriving DecidableEq

inductive MediaType where
  | audio
  | video
deriving DecidableEq

/-- `mid()` of either subclass. -/
def MediaType.mid : MediaType → String
  | .audio => "audio"
  | .video => "video"

inductive RtpDirection where
  | sendRecv
  | sendOnly
  | recvOnly
  | inactive
deriving DecidableEq

structure FeedBackParam where
  id : String
  param : String := ""
deriving DecidableEq

/-- `CodecInfo`. The parameters are a map, in the order of its keys; the
channels are those of an `AudioCodecInfo`. -/
structure CodecInfo where
  id : ℕ
  name : String
  clockrate : ℕ
  channels : ℕ := 0
  feedbackParam : List FeedBackParam
  codecParam : List (String × String)
deriving DecidableEq

/-- What is used of a gathered `Candidate`. -/
structure Candidate where
  foundation : String
  component : ℕ
  protocol : String
  priority : UInt32
  address : SocketAddress
  type : String
deriving DecidableEq

structure MediaContentDescription where
  type : MediaType
  codecs : List CodecInfo
  direction : RtpDirection := .inactive
  rtcpMux : Bool := true
  candidates : List Candidate := []
  sendStreams : List StreamParams := []
deriving DecidableEq

/-- The constructor of `AudioContentDescription`. -/
def audioContentDescription : MediaContentDescription where
  type := .audio
  codecs := [{
    id := 111, name := "opus", clockrate := 48000, channels := 2
    feedbackParam := [⟨"transport-cc", ""⟩]
    codecParam := [("minptime", "10"), ("useinbandfec", "1")] }]

/-- The constructor of `VideoContentDescription`. -/
def videoContentDescription : MediaContentDescription where
  type := .video
  codecs := [
    { id := 96, name := "H264", clockrate := 90000
      feedbackParam := [⟨"goog-remb", ""⟩, ⟨"transport-cc", ""⟩, ⟨"ccm", "fir"⟩, ⟨"nack", ""⟩,
        ⟨"nack", "pli"⟩]
      codecParam := [("level-asymmetry-allowed", "1"), ("packetization-mode", "1"),
        ("profile-level-id", "42e01f")] },
    { id := 97, name := "rtx", clockrate := 90000
      feedbackParam := []
      codecParam := [("apt", toString 96)] }]

namespace MediaContentDescription

variable (content : MediaContentDescription)

def mid : String := content.type.mid

def addStream (track : StreamParams) : MediaContentDescription :=
  { content with sendStreams := content.sendStreams ++ [track] }

/-- `add_candidates`, which replaces what was there. -/
def addCandidates (candidates : List Candidate) : MediaContentDescription :=
  { content with candidates := candidates }

end MediaContentDescription

/-! ## Groups and transports -/

structure ContentGroup where
  semantics : String
  contentNames : List String := []
deriving DecidableEq

namespace ContentGroup

def hasContentName (group : ContentGroup) (contentName : String) : Bool :=
  group.contentNames.contains contentName

def addContentName (group : ContentGroup) (contentName : String) : ContentGroup :=
  if group.hasContentName contentName then group
  else { group with contentNames := group.contentNames ++ [contentName] }

/-- A loop of `add_content_name`. -/
def addContentNames (group : ContentGroup) (names : List String) : ContentGroup :=
  names.foldl addContentName group

end ContentGroup

inductive ConnectionRole where
  | none
  | active
  | passive
  | actpass
  | holdconn
deriving DecidableEq

structure TransportDescription where
  mid : String := ""
  iceUfrag : String := ""
  icePwd : String := ""
  identityFingerprint : Option SSLFingerprint := .none
  connectionRole : ConnectionRole := .none
deriving DecidableEq

/-! ## Descriptions -/

structure SessionDescription where
  sdpType : SdpType
  contents : List MediaContentDescription := []
  contentGroups : List { group : ContentGroup // group.contentNames ≠ [] } := []
  transportInfos : List TransportDescription := []
deriving DecidableEq

namespace SessionDescription

variable (desc : SessionDescription)

def getContent (mid : String) : Option MediaContentDescription :=
  desc.contents.find? fun content => mid = content.mid

def addContent (content : MediaContentDescription) : SessionDescription :=
  { desc with contents := desc.contents ++ [content] }

def addGroup (group : { group : ContentGroup // group.contentNames ≠ [] }) : SessionDescription :=
  { desc with contentGroups := desc.contentGroups ++ [group] }

def getGroupByName (name : String) : List { group : ContentGroup // group.contentNames ≠ [] } :=
  desc.contentGroups.filter fun group => group.val.semantics = name

/-- `add_transport_info` of a description made elsewhere. -/
def addTransportDescription (td : TransportDescription) : SessionDescription :=
  { desc with transportInfos := desc.transportInfos ++ [td] }

/-- `add_transport_info` of a section's credentials: nothing is added where
the certificate gives no fingerprint. -/
def addTransportInfo (rtc : RtcText) (mid : String) (iceParam : IceParameters)
    (certificate : Option ℕ) : SessionDescription :=
  let tdesc : TransportDescription := {
    mid := mid, iceUfrag := iceParam.iceUfrag, icePwd := iceParam.icePwd
    connectionRole := if desc.sdpType = .offer then .actpass else .active }
  match certificate with
  | none => desc.addTransportDescription tdesc
  | some certificate =>
    match rtc.createFromCertificate certificate with
    | none => desc
    | some fingerprint =>
      desc.addTransportDescription { tdesc with identityFingerprint := some fingerprint }

def getTransportInfo (mid : String) : Option TransportDescription :=
  desc.transportInfos.find? fun tdesc => tdesc.mid = mid

def isBundle (mid : String) : Bool :=
  (desc.getGroupByName "BUNDLE").any fun group => group.val.contentNames.contains mid

def getFirstBundleMid : String :=
  match desc.getGroupByName "BUNDLE" with
  | [] => ""
  | group :: _ => group.val.contentNames.head group.property

end SessionDescription

/-! ## The text -/

def connectionRoleToString : ConnectionRole → String
  | .active => "active"
  | .passive => "passive"
  | .actpass => "actpass"
  | .holdconn => "holdconn"
  | .none => "none"

/-- `IPAddress::ToString` of an IPv4 address. -/
def ipToString (ip : UInt32) : String :=
  toString (ip >>> 24).toNat ++ "." ++ toString (ip >>> 16 &&& 0xff).toNat ++ "." ++
    toString (ip >>> 8 &&& 0xff).toNat ++ "." ++ toString (ip &&& 0xff).toNat

def addRtcpFbLine (codec : CodecInfo) : List String :=
  codec.feedbackParam.map fun param =>
    "a=rtcp-fb:" ++ toString codec.id ++ " " ++ param.id ++
      (if param.param = "" then "" else " " ++ param.param)

def addFmtpLine (codec : CodecInfo) : List String :=
  if codec.codecParam = [] then []
  else
    let data := codec.codecParam.map fun param => param.1 ++ "=" ++ param.2
    ["a=fmtp:" ++ toString codec.id ++ " " ++ ";".intercalate data]

def buildRtpMap (content : MediaContentDescription) : List String :=
  content.codecs.flatMap fun codec =>
    ("a=rtpmap:" ++ toString codec.id ++ " " ++ codec.name ++ "/" ++ toString codec.clockrate ++
      (if content.type = .audio then "/" ++ toString codec.channels else "")) ::
    (addRtcpFbLine codec ++ addFmtpLine codec)

def buildRtpDirection (content : MediaContentDescription) : String :=
  match content.direction with
  | .sendRecv => "a=sendrecv"
  | .recvOnly => "a=recvonly"
  | .sendOnly => "a=sendonly"
  | .inactive => "a=inactive"

def buildCandidate (content : MediaContentDescription) : List String :=
  content.candidates.map fun c =>
    "a=candidate:" ++ c.foundation ++ " " ++ toString c.component ++ " " ++ c.protocol ++ " " ++
      toString c.priority.toNat ++ " " ++ ipToString c.address.ip ++ " " ++
      toString c.address.port.toNat ++ " typ " ++ c.type

def addSsrcLine (ssrc : UInt32) (attr value : String) : String :=
  "a=ssrc:" ++ toString ssrc.toNat ++ " " ++ attr ++ ":" ++ value

/-- The lines of one `a=ssrc-group`, of a group that is not empty. -/
def addSsrcGroupLine (group : SsrcGroup) : List String :=
  if group.ssrcs = [] then []
  else
    ["a=ssrc-group:" ++ group.semantics ++
      String.join (group.ssrcs.map fun ssrc => " " ++ toString ssrc.toNat)]

/-- The lines of one track. -/
def addTrackLines (track : StreamParams) : List String :=
  let msid := track.streamId ++ " " ++ track.id
  track.ssrcGroups.flatMap addSsrcGroupLine ++
    track.ssrcs.flatMap fun ssrc => [addSsrcLine ssrc "cname" track.cname,
      addSsrcLine ssrc "msid" msid, addSsrcLine ssrc "mslabel" track.streamId,
      addSsrcLine ssrc "label" track.id]

def buildSsrc (content : MediaContentDescription) : List String :=
  content.sendStreams.flatMap addTrackLines

/-- The lines of a transport: `a=setup` stands where there is a fingerprint. -/
def buildTransport (rtc : RtcText) (td : TransportDescription) : List String :=
  ["a=ice-ufrag:" ++ td.iceUfrag, "a=ice-pwd:" ++ td.icePwd] ++
    match td.identityFingerprint with
    | none => []
    | some fingerprint =>
      ["a=fingerprint:" ++ fingerprint.algorithm ++ " " ++ rtc.getRfc4572Fingerprint fingerprint,
        "a=setup:" ++ connectionRoleToString td.connectionRole]

namespace SessionDescription

variable (desc : SessionDescription)

/-- The lines of one media section. -/
def contentLines (rtc : RtcText) (content : MediaContentDescription) : List String :=
  let fmt := String.join (content.codecs.map fun codec => " " ++ ToString.toString codec.id)
  ["m=" ++ content.mid ++ " 9 UDP/TLS/RTP/SAVPF" ++ fmt, "c=IN IP4 0.0.0.0",
    "a=rtcp:9 IN IP4 0.0.0.0"] ++
  buildCandidate content ++
  (match desc.getTransportInfo content.mid with
    | none => []
    | some td => buildTransport rtc td) ++
  ["a=mid:" ++ content.mid, buildRtpDirection content] ++
  (if content.rtcpMux then ["a=rtcp-mux"] else []) ++
  ["a=extmap:12 http://www.webrtc.org/experiments/rtp-hdrext/abs-capture-time"] ++
  buildRtpMap content ++ buildSsrc content

/-- The lines before the first media section. -/
def sessionLines : List String :=
  let groups := desc.getGroupByName "BUNDLE"
  ["v=0", "o=- 0 2 IN IP4 127.0.0.0", "s=-", "t=0 0"] ++
  (if groups = [] then []
    else ["a=group:BUNDLE" ++
      String.join ((groups.flatMap (·.val.contentNames)).map fun name => " " ++ name)]) ++
  ["a=msid-semantic: WMS"]

def lines (rtc : RtcText) : List String :=
  desc.sessionLines ++ desc.contents.flatMap (desc.contentLines rtc)

def toString (rtc : RtcText) : String :=
  String.join ((desc.lines rtc).map fun line => line ++ "\r\n")

end SessionDescription

end Pc

end XrtcServer
