import XrtcServer.Common.Keyed
import XrtcServer.Pc.Model.SessionDescription
/-!
# Reading a remote SDP

The line parser of `PeerConnection::set_remote_sdp` and the functions it
calls. A parse either goes on or stops: with the `-1` of the caller, or
with the exception of a `substr` that starts past the end. Where it stops,
the remote description keeps what the lines so far have added to it.
-/

namespace XrtcServer

namespace Pc

open Base Common XrtcServer.Stream

/-- Why the line parser stops. -/
inductive Stop where
  /-- `-1` is returned. -/
  | refused
  /-- `std::out_of_range` is thrown. -/
  | outOfRange
deriving DecidableEq

/-- `line.find(key) != npos`. -/
def found (line key : String) : Bool := decide (key.toList <:+: line.toList)

/-- `s.substr(pos)`. -/
def substr (s : String) (pos : ℕ) : Except Stop String :=
  if pos ≤ s.length then .ok (String.ofList (s.toList.drop pos)) else .error .outOfRange

/-- `std::transform` by `tolower`. -/
def toLower (s : String) : String := String.ofList (s.toList.map Char.toLower)

structure SsrcInfo where
  ssrcId : UInt32
  cname : String := ""
  streamId : String := ""
  trackId : String := ""
deriving DecidableEq

/-! ## The parsers of a line -/

section Lines

variable (rtc : RtcText)

def getAttribute (line : String) : String :=
  match rtc.tokenize line ':' with
  | [_, value] => value
  | _ => ""

def parseFingerprint (td : TransportDescription) (line : String) :
    Except Stop TransportDescription :=
  match rtc.tokenize line ' ' with
  | [item, content] => do
    let alg ← substr item 14
    match rtc.createUniqueFromRfc4572 (toLower alg) content with
    | none => .error .refused
    | some fingerprint => .ok { td with identityFingerprint := some fingerprint }
  | _ => .error .refused

/-- `parse_transport_info`; its last branch is `parseFingerprint`. -/
def parseTransportInfo (td : TransportDescription) (line : String) :
    Except Stop TransportDescription :=
  if found line "a=ice-ufrag" then
    if getAttribute rtc line = "" then .error .refused
    else .ok { td with iceUfrag := getAttribute rtc line }
  else if found line "a=ice-pwd" then
    if getAttribute rtc line = "" then .error .refused
    else .ok { td with icePwd := getAttribute rtc line }
  else if found line "a=fingerprint" then parseFingerprint rtc td line
  else .ok td

/-- What an attribute of an SSRC sets. Any other than these two is left out. -/
def SsrcInfo.set (attr value : String) (info : SsrcInfo) : SsrcInfo :=
  if attr = "cname" then { info with cname := value }
  else if attr = "msid" then
    match rtc.split value ' ' with
    | [streamId] => { info with streamId := streamId }
    | [streamId, trackId] => { info with streamId := streamId, trackId := trackId }
    | _ => info
  else info

/-- An `msid` has one field or two. -/
def isMsid (value : String) : Bool :=
  1 ≤ (rtc.split value ' ').length && (rtc.split value ' ').length ≤ 2

def parseSsrcInfo (infos : List SsrcInfo) (line : String) : Except Stop (List SsrcInfo) :=
  if found line "a=ssrc:" then do
    match rtc.tokenizeFirst (← substr line 2) ' ' with
    | none => .error .refused
    | some (field1, field2) =>
      match rtc.fromString (← substr field1 5), rtc.tokenizeFirst field2 ':' with
      | some ssrcId, some (attr, value) =>
        if attr = "msid" ∧ isMsid rtc value = false then .error .refused
        else .ok (upsert SsrcInfo.ssrcId { ssrcId := ssrcId } (SsrcInfo.set rtc attr value) infos)
      | _, _ => .error .refused
  else .ok infos

/-- `parse_ssrc_group_info`: `none` is `-1`. The key it has found makes the
line long enough for its `substr`. -/
def parseSsrcGroupInfo (groups : List SsrcGroup) (line : String) : Option (List SsrcGroup) :=
  if found line "a=ssrc-group:" then
    match rtc.split (String.ofList (line.toList.drop 2)) ' ' with
    | field :: id :: ids =>
      let semantics := getAttribute rtc field
      if semantics = "" then none
      else ((id :: ids).mapM rtc.fromString).map fun ssrcs => groups ++ [⟨semantics, ssrcs⟩]
    | _ => none
  else some groups

end Lines

/-! ## The tracks -/

/-- `create_track_from_ssrc_info`, of one SSRC. -/
def addSsrcInfo (tracks : List StreamParams) (info : SsrcInfo) : List StreamParams :=
  upsert StreamParams.id ⟨info.trackId, [], [], "", ""⟩
    (fun track => { track with
      cname := info.cname, streamId := info.streamId, ssrcs := track.ssrcs ++ [info.ssrcId] })
    tracks

def createTrackFromSsrcInfo (infos : List SsrcInfo) : List StreamParams :=
  infos.foldl addSsrcInfo []

/-- A group goes to the tracks that have its first SSRC. -/
def addSsrcGroup (tracks : List StreamParams) (group : SsrcGroup) : List StreamParams :=
  match group.ssrcs with
  | [] => tracks
  | ssrc :: _ => tracks.map fun track =>
    if ssrc ∈ track.ssrcs then { track with ssrcGroups := track.ssrcGroups ++ [group] } else track

/-! ## The lines of an SDP -/

/-- What `set_remote_sdp` has gathered after some lines. -/
structure SdpParse where
  remoteDesc : SessionDescription := { sdpType := .answer }
  mediaType : String := ""
  audioTd : TransportDescription := {}
  videoTd : TransportDescription := {}
  audioSsrcInfo : List SsrcInfo := []
  videoSsrcInfo : List SsrcInfo := []
  videoSsrcGroups : List SsrcGroup := []

theorem ContentGroup.addContentName_ne_nil (group : ContentGroup) (name : String) :
    (group.addContentName name).contentNames ≠ [] := by
  unfold ContentGroup.addContentName ContentGroup.hasContentName
  split
  · rename_i h
    exact List.ne_nil_of_mem (List.contains_iff_mem.1 h)
  · exact List.append_ne_nil_of_right_ne_nil _ (List.cons_ne_nil _ _)

/-- A group of at least one name. -/
theorem ContentGroup.addContentNames_ne_nil {group : ContentGroup} {names : List String}
    (h : group.contentNames ≠ [] ∨ names ≠ []) : (group.addContentNames names).contentNames ≠ [] := by
  induction names generalizing group with
  | nil => simpa [addContentNames] using h
  | cons name names ih => exact ih (.inl (group.addContentName_ne_nil name))

/-- The group of an `a=group:BUNDLE` line, where it names a section. -/
def bundleGroup (rtc : RtcText) (line : String) :
    Option { group : ContentGroup // group.contentNames ≠ [] } :=
  match rtc.split line ' ' with
  | _ :: name :: names =>
    let group : ContentGroup := { semantics := "BUNDLE" }
    some ⟨group.addContentNames (name :: names),
      ContentGroup.addContentNames_ne_nil (.inr (List.cons_ne_nil name names))⟩
  | _ => none

namespace SdpParse

variable (rtc : RtcText) (st : SdpParse)

/-- The branch of an `a=group:BUNDLE` line. -/
def parseBundle (line : String) : SdpParse :=
  match bundleGroup rtc line with
  | none => st
  | some group => { st with remoteDesc := st.remoteDesc.addGroup group }

/-- The branch of an `m=` line. -/
def parseMedia (line : String) : Except Stop SdpParse :=
  match rtc.split line ' ' with
  | item :: _ :: _ :: _ => do
    let mediaType ← substr item 2
    if mediaType = "audio" then
      .ok { st with
        mediaType := mediaType
        remoteDesc := st.remoteDesc.addContent audioContentDescription
        audioTd := { st.audioTd with mid := "audio" } }
    else if mediaType = "video" then
      .ok { st with
        mediaType := mediaType
        remoteDesc := st.remoteDesc.addContent videoContentDescription
        videoTd := { st.videoTd with mid := "video" } }
    else .ok { st with mediaType := mediaType }
  | _ => .error .refused

/-- What a line says of the description as a whole. -/
def parseHeader (line : String) : Except Stop SdpParse :=
  if found line "a=group:BUNDLE" then .ok (st.parseBundle rtc line)
  else if found line "m=" then st.parseMedia rtc line
  else .ok st

/-- What a line says of the section it stands in. -/
def parseSection (line : String) : Except Stop SdpParse :=
  if st.mediaType = "audio" then do
    let td ← parseTransportInfo rtc st.audioTd line
    let infos ← parseSsrcInfo rtc st.audioSsrcInfo line
    .ok { st with audioTd := td, audioSsrcInfo := infos }
  else if st.mediaType = "video" then do
    let td ← parseTransportInfo rtc st.videoTd line
    -- what `parse_ssrc_group_info` returns is not looked at
    let groups := (parseSsrcGroupInfo rtc st.videoSsrcGroups line).getD st.videoSsrcGroups
    let infos ← parseSsrcInfo rtc st.videoSsrcInfo line
    .ok { st with videoTd := td, videoSsrcGroups := groups, videoSsrcInfo := infos }
  else .ok st

/-- **One pass of the loop over the lines.** A parse that stops keeps the
description it had built. -/
def parseLine (line : String) : Except (Stop × SessionDescription) SdpParse :=
  match st.parseHeader rtc line with
  | .error stop => .error (stop, st.remoteDesc)
  | .ok st =>
    match st.parseSection rtc line with
    | .error stop => .error (stop, st.remoteDesc)
    | .ok st => .ok st

def parseLines (lines : List String) : Except (Stop × SessionDescription) SdpParse :=
  lines.foldlM (parseLine rtc) st

def audioTracks : List StreamParams := createTrackFromSsrcInfo st.audioSsrcInfo

def videoTracks : List StreamParams :=
  if st.videoSsrcInfo = [] then []
  else st.videoSsrcGroups.foldl addSsrcGroup (createTrackFromSsrcInfo st.videoSsrcInfo)

/-- The tracks of a type given to the content of that type. -/
def withTracks (type : MediaType) (tracks : List StreamParams) (content : MediaContentDescription) :
    MediaContentDescription :=
  if content.type = type then tracks.foldl .addStream content else content

/-- The description after the loop: the tracks go to the two contents, and
both transport descriptions are added, of whichever sections there are. -/
def finish : SessionDescription :=
  let contents := st.remoteDesc.contents.map fun content =>
    withTracks .video st.videoTracks (withTracks .audio st.audioTracks content)
  let desc := { st.remoteDesc with contents := contents }
  (desc.addTransportDescription st.audioTd).addTransportDescription st.videoTd

end SdpParse

/-- The fields of the text, without the `\r` where the text ends its lines
with `\r\n`. -/
def sdpLines (rtc : RtcText) (sdp : String) : List String :=
  let fields := rtc.tokenize sdp '\n'
  if found sdp "\r\n" then fields.map fun field => String.ofList field.toList.dropLast else fields

end Pc

end XrtcServer
