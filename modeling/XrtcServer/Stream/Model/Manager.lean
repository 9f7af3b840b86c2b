import XrtcServer.Common.Run
import Mathlib.Logic.Function.Basic
/-!
# Streams and the stream manager

`RtcStream` (with `PushStream` and `PullStream`) and `RtcStreamManager`
as the code of `src/stream` has them. A stream object is known by its
identity, the number of the `new` that made it; `streams` holds the
objects not yet deleted, and `table` the two maps `_push_streams` and
`_pull_streams`, by the type of stream they hold. What the stream layer
uses of `PeerConnection` is a parameter, `PeerConnectionOps`.
-/

namespace XrtcServer

namespace Stream

/-- `enum class PeerConnectionState`. -/
inductive PeerConnectionState
  | new | connecting | connected | disconnected | failed | closed
  deriving DecidableEq, Repr

/-- `enum class RtcStreamType`. -/
inductive RtcStreamType
  | push | pull
  deriving DecidableEq, Repr

/-- `struct SsrcGroup`. -/
structure SsrcGroup where
  semantics : String
  ssrcs : List UInt32
  deriving DecidableEq, Repr

/-- `struct StreamParams`: one track, with all its SSRCs. -/
structure StreamParams where
  id : String
  ssrcs : List UInt32
  ssrcGroups : List SsrcGroup
  cname : String
  streamId : String
  deriving DecidableEq, Repr

/-- `struct RTCOfferAnswerOptions`, with the source's defaults. -/
structure RTCOfferAnswerOptions where
  sendAudio : Bool := true
  sendVideo : Bool := true
  recvAudio : Bool := true
  recvVideo : Bool := true
  useRtpMux : Bool := true
  useRtcpMux : Bool := true
  dtlsOn : Bool := true
  deriving DecidableEq, Repr

/-- What the stream layer calls on a `PeerConnection`. A certificate is a
pointer, `none` where it is null. -/
structure PeerConnectionOps (PC : Type) where
  /-- `new PeerConnection(el, allocator)`. -/
  make : PC
  init : PC → Option ℕ → PC
  createOffer : PC → RTCOfferAnswerOptions → PC × String
  setRemoteSdp : PC → String → PC × Int
  /-- `remote_desc()->get_content(mid)->streams()`, where both are there. -/
  remoteStreams : PC → String → Option (List StreamParams)
  addAudioSource : PC → List StreamParams → PC
  addVideoSource : PC → List StreamParams → PC

/-- The one-shot timer behind `_ice_timeout_watcher`. -/
inductive IceTimer
  | none | armed | expired
  deriving DecidableEq, Repr

/-- `RtcStream`, with the type its subclass answers. -/
structure RtcStream (PC : Type) where
  streamType : RtcStreamType
  uid : ℕ
  streamName : String
  audio : Bool
  video : Bool
  logId : ℕ
  pc : PC
  state : PeerConnectionState := .new
  iceTimeout : IceTimer := .none

variable {PC : Type} (ops : PeerConnectionOps PC)

namespace RtcStream

/-- `RtcStream::start`. -/
def start (s : RtcStream PC) (certificate : Option ℕ) : RtcStream PC :=
  { s with iceTimeout := .armed, pc := ops.init s.pc certificate }

/-- The options `PushStream::create_offer` and `PullStream::create_offer`
fill in: the server receives what is pushed and sends what is pulled. -/
def offerOptions (s : RtcStream PC) : RTCOfferAnswerOptions :=
  match s.streamType with
  | .push => { recvAudio := s.audio, recvVideo := s.video, sendAudio := false, sendVideo := false }
  | .pull => { recvAudio := false, recvVideo := false, sendAudio := s.audio, sendVideo := s.video }

/-- `create_offer` of either subclass. -/
def createOffer (s : RtcStream PC) : RtcStream PC × String :=
  let (pc, offer) := ops.createOffer s.pc s.offerOptions
  ({ s with pc := pc }, offer)

/-- `PushStream::_get_source`: the vector is left as it was, empty, where
there is no remote description or no such section in it. -/
def getSource (s : RtcStream PC) (mid : String) : List StreamParams :=
  (ops.remoteStreams s.pc mid).getD []

def getAudioSource (s : RtcStream PC) : List StreamParams := getSource ops s "audio"

def getVideoSource (s : RtcStream PC) : List StreamParams := getSource ops s "video"

/-- `PullStream::add_audio_source` and `add_video_source`, one after the
other. -/
def addSources (s : RtcStream PC) (audio video : List StreamParams) : RtcStream PC :=
  { s with pc := ops.addVideoSource (ops.addAudioSource s.pc audio) video }

/-- `RtcStream::set_remote_sdp`. -/
def setRemoteSdp (s : RtcStream PC) (sdp : String) : RtcStream PC × Int :=
  let (pc, ret) := ops.setRemoteSdp s.pc sdp
  ({ s with pc := pc }, ret)

end RtcStream

/-- `RtcStreamManager`, with the stream objects it has made. -/
structure RtcStreamManager (PC : Type) where
  /-- The stream objects made and not yet deleted. -/
  streams : ℕ → Option (RtcStream PC)
  /-- The identity the next `new` gives. -/
  next : ℕ
  /-- `_push_streams` at `.push`, `_pull_streams` at `.pull`. -/
  table : RtcStreamType → String → Option ℕ

namespace RtcStreamManager

/-- A manager that has made no stream. -/
def init : RtcStreamManager PC := ⟨fun _ => none, 0, fun _ _ => none⟩

variable (m : RtcStreamManager PC)

/-- A map lookup followed by the pointer it holds. -/
def findStream (t : RtcStreamType) (streamName : String) : Option (ℕ × RtcStream PC) :=
  (m.table t streamName).bind fun id => (m.streams id).map fun s => (id, s)

def findPushStream (streamName : String) : Option (ℕ × RtcStream PC) :=
  m.findStream .push streamName

def findPullStream (streamName : String) : Option (ℕ × RtcStream PC) :=
  m.findStream .pull streamName

/-- The assignment `_push_streams[stream_name] = stream`, or its twin. -/
def setEntry (t : RtcStreamType) (streamName : String) (entry : Option ℕ) :
    RtcStreamManager PC :=
  let entries := Function.update (m.table t) streamName entry
  { m with table := Function.update m.table t entries }

/-- A stream object replaced by what a call made of it, or deleted. -/
def setStream (id : ℕ) (s : Option (RtcStream PC)) : RtcStreamManager PC :=
  { m with streams := Function.update m.streams id s }

/-- `_remove_push_stream(uid, stream_name)` and its twin: locate by name,
check the owner, erase the entry and delete the object. -/
def removeStream (t : RtcStreamType) (uid : ℕ) (streamName : String) : RtcStreamManager PC :=
  match m.findStream t streamName with
  | some (id, s) =>
    if uid = s.uid then (m.setEntry t streamName none).setStream id none else m
  | none => m

def removePushStream (uid : ℕ) (streamName : String) : RtcStreamManager PC :=
  m.removeStream .push uid streamName

def removePullStream (uid : ℕ) (streamName : String) : RtcStreamManager PC :=
  m.removeStream .pull uid streamName

/-- `new`: the object gets the next identity. -/
def allocStream (s : RtcStream PC) : RtcStreamManager PC :=
  { m.setStream m.next s with next := m.next + 1 }

/-- A new stream object and its entry, which replaces what the map had. -/
def addStream (s : RtcStream PC) : RtcStreamManager PC :=
  (m.allocStream s).setEntry s.streamType s.streamName (some m.next)

/-- `create_push_stream`: the return code and the offer. -/
def createPushStream (uid : ℕ) (streamName : String) (audio video : Bool) (logId : ℕ)
    (certificate : Option ℕ) : RtcStreamManager PC × Int × String :=
  let stream : RtcStream PC := ⟨.push, uid, streamName, audio, video, logId, ops.make, .new, .none⟩
  let (stream, offer) := RtcStream.createOffer ops (stream.start ops certificate)
  (m.addStream stream, 0, offer)

/-- `create_pull_stream`: the push stream must be there, and a pull stream
of the same name is removed first where the caller owns it. -/
def createPullStream (uid : ℕ) (streamName : String) (audio video : Bool) (logId : ℕ)
    (certificate : Option ℕ) : RtcStreamManager PC × Int × String :=
  match m.findPushStream streamName with
  | none => (m, -1, "")
  | some (_, pushStream) =>
    let audioSource := pushStream.getAudioSource ops
    let videoSource := pushStream.getVideoSource ops
    let m := m.removePullStream uid streamName
    let stream : RtcStream PC :=
      ⟨.pull, uid, streamName, audio, video, logId, ops.make, .new, .none⟩
    let stream := stream.addSources ops audioSource videoSource
    let (stream, offer) := RtcStream.createOffer ops (stream.start ops certificate)
    (m.addStream stream, 0, offer)

def stopPush (uid : ℕ) (streamName : String) : RtcStreamManager PC × Int :=
  (m.removePushStream uid streamName, 0)

def stopPull (uid : ℕ) (streamName : String) : RtcStreamManager PC × Int :=
  (m.removePullStream uid streamName, 0)

/-- Either branch of `set_answer`. What `set_remote_sdp` returns is not
looked at. -/
def answerStream (t : RtcStreamType) (uid : ℕ) (streamName answer : String) :
    RtcStreamManager PC × Int :=
  match m.findStream t streamName with
  | none => (m, -1)
  | some (id, s) =>
    if uid ≠ s.uid then (m, -1) else (m.setStream id (some (s.setRemoteSdp ops answer).1), 0)

/-- `set_answer`: anything but `"push"` means the pull stream. -/
def setAnswer (uid : ℕ) (streamName answer streamType : String) : RtcStreamManager PC × Int :=
  if streamType = "push" then m.answerStream ops .push uid streamName answer
  else m.answerStream ops .pull uid streamName answer

/-- `on_connection_state`, called by the stream object itself. -/
def onConnectionState (s : RtcStream PC) (state : PeerConnectionState) : RtcStreamManager PC :=
  if state = .failed then m.removeStream s.streamType s.uid s.streamName else m

/-- `on_stream_exception`. -/
def onStreamException (s : RtcStream PC) : RtcStreamManager PC :=
  m.removeStream s.streamType s.uid s.streamName

/-- `RtcStream::_on_connection_state` of a live stream: an unchanged state
is dropped, and a final one cancels the timeout. -/
def streamConnectionState (id : ℕ) (s : RtcStream PC) (state : PeerConnectionState) :
    RtcStreamManager PC :=
  if s.state = state then m
  else
    let timer := if state = .connected ∨ state = .failed then IceTimer.none else s.iceTimeout
    let s := { s with state := state, iceTimeout := timer }
    (m.setStream id (some s)).onConnectionState s state

/-- `ice_timeout_cb`: the one-shot timer has fired, and a stream that is
not connected is given up. -/
def iceTimeoutCb (id : ℕ) (s : RtcStream PC) : RtcStreamManager PC :=
  let s := { s with iceTimeout := .expired }
  let m := m.setStream id (some s)
  if s.state ≠ .connected then m.onStreamException s else m

end RtcStreamManager

/-- What can happen to a manager: a request of the worker, or a callback
of a stream it made. -/
inductive Event
  | createPushStream (uid : ℕ) (streamName : String) (audio video : Bool) (logId : ℕ)
      (certificate : Option ℕ)
  | createPullStream (uid : ℕ) (streamName : String) (audio video : Bool) (logId : ℕ)
      (certificate : Option ℕ)
  | stopPush (uid : ℕ) (streamName : String)
  | stopPull (uid : ℕ) (streamName : String)
  | setAnswer (uid : ℕ) (streamName answer streamType : String)
  /-- The stream's `PeerConnection` signals a state. -/
  | connectionState (id : ℕ) (state : PeerConnectionState)
  /-- The stream's timeout fires. -/
  | iceTimeout (id : ℕ)

/-- **One step of a manager.** Only a live stream calls back, and its
timer fires only while it is armed. -/
def step (m : RtcStreamManager PC) : Event → Option (RtcStreamManager PC)
  | .createPushStream uid name audio video logId cert =>
    some (m.createPushStream ops uid name audio video logId cert).1
  | .createPullStream uid name audio video logId cert =>
    some (m.createPullStream ops uid name audio video logId cert).1
  | .stopPush uid name => some (m.stopPush uid name).1
  | .stopPull uid name => some (m.stopPull uid name).1
  | .setAnswer uid name answer streamType => some (m.setAnswer ops uid name answer streamType).1
  | .connectionState id state => (m.streams id).map fun s => m.streamConnectionState id s state
  | .iceTimeout id => (m.streams id).bind fun s =>
    if s.iceTimeout = .armed then some (m.iceTimeoutCb id s) else none

end Stream

end XrtcServer
