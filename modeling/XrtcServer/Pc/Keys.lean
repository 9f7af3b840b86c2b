import XrtcServer.Pc.Finishes
/-!
# The keys of a line

The loop of `set_remote_sdp` makes four tests on a line: is it a header, does
it set the transport of its section, a group of SSRCs, or an SSRC. Each test
takes the line for the first of its keys that it recognises (`readLine`). With
`found` for the recogniser this is `parseLine` (`parseLine_eq`).
-/

namespace XrtcServer

namespace Pc

open Base Common XrtcServer.Stream

/-- What a line can be taken for. -/
inductive Key where
  | bundle
  | media
  | iceUfrag
  | icePwd
  | fingerprint
  | ssrcGroup
  | ssrc
deriving DecidableEq

def Key.text : Key → String
  | .bundle => "a=group:BUNDLE"
  | .media => "m="
  | .iceUfrag => "a=ice-ufrag"
  | .icePwd => "a=ice-pwd"
  | .fingerprint => "a=fingerprint"
  | .ssrcGroup => "a=ssrc-group:"
  | .ssrc => "a=ssrc:"

/-! ## The tests on a line -/

/-- The keys of each test, in the order they are looked for, where the line
stands in the section `media`. -/
def headerKeys (_media : String) : List Key := [.bundle, .media]

def transportKeys (media : String) : List Key :=
  if media = "audio" ∨ media = "video" then [.iceUfrag, .icePwd, .fingerprint] else []

def groupKeys (media : String) : List Key := if media = "video" then [.ssrcGroup] else []

def ssrcKeys (media : String) : List Key :=
  if media = "audio" ∨ media = "video" then [.ssrc] else []

def tests : List (String → List Key) := [headerKeys, transportKeys, groupKeys, ssrcKeys]

section Read

variable (is : String → String → Bool) (rtc : RtcText)

/-- A line that is taken for a key of the transport. -/
def transportAs (line : String) (td : TransportDescription) :
    Key → Except Stop TransportDescription
  | .iceUfrag =>
    if getAttribute rtc line = "" then .error .refused
    else .ok { td with iceUfrag := getAttribute rtc line }
  | .icePwd =>
    if getAttribute rtc line = "" then .error .refused
    else .ok { td with icePwd := getAttribute rtc line }
  | .fingerprint => parseFingerprint rtc td line
  | _ => .ok td

/-- The transport of the section that is read. -/
def SdpParse.updateTd (st : SdpParse)
    (f : TransportDescription → Except Stop TransportDescription) : Except Stop SdpParse :=
  if st.mediaType = "audio" then (f st.audioTd).map fun td => { st with audioTd := td }
  else if st.mediaType = "video" then (f st.videoTd).map fun td => { st with videoTd := td }
  else .ok st

/-- The SSRCs of the section that is read. -/
def SdpParse.updateInfos (st : SdpParse)
    (f : List SsrcInfo → Except Stop (List SsrcInfo)) : Except Stop SdpParse :=
  if st.mediaType = "audio" then
    (f st.audioSsrcInfo).map fun infos => { st with audioSsrcInfo := infos }
  else if st.mediaType = "video" then
    (f st.videoSsrcInfo).map fun infos => { st with videoSsrcInfo := infos }
  else .ok st

/-- **What is done with a line** that is taken for a key. -/
def SdpParse.readAsKey (line : String) (st : SdpParse) : Key → Except Stop SdpParse
  | .bundle => .ok (st.parseBundle rtc line)
  | .media => st.parseMedia rtc line
  | .ssrcGroup => .ok { st with videoSsrcGroups := st.groupsAfter rtc line }
  | .ssrc => st.updateInfos fun infos => parseSsrcInfo rtc infos line
  | key => st.updateTd fun td => transportAs rtc line td key

/-- What a test takes the line for. -/
def takenFor (line : String) (keys : List Key) : Option Key :=
  keys.find? fun key => is line key.text

def SdpParse.readTaken (line : String) (st : SdpParse) : Option Key → Except Stop SdpParse
  | none => .ok st
  | some key => st.readAsKey rtc line key

/-- **The tests on a line**: what each takes it for, and the parse they leave. -/
def readLine (line : String) : List (String → List Key) → SdpParse →
    List (Option Key) × Except (Stop × SessionDescription) SdpParse
  | [], st => ([], .ok st)
  | keys :: tests, st =>
    let taken := takenFor is line (keys st.mediaType)
    match st.readTaken rtc line taken with
    | .error stop => ([taken], .error (stop, st.remoteDesc))
    | .ok st => (taken :: (readLine line tests st).1, (readLine line tests st).2)

end Read

variable {rtc : RtcText} {line : String} {st st' : SdpParse}

/-! ## The line parser, by tests -/

theorem parseHeader_eq : st.parseHeader rtc line =
    st.readTaken rtc line (takenFor found line (headerKeys st.mediaType)) := by
  simp only [SdpParse.parseHeader, takenFor, headerKeys, List.find?_cons, List.find?_nil, Key.text]
  cases found line "a=group:BUNDLE" with
  | true => rfl
  | false => cases found line "m=" <;> rfl

theorem parseTransportInfo_eq (td : TransportDescription) : parseTransportInfo rtc td line =
    match takenFor found line [.iceUfrag, .icePwd, .fingerprint] with
    | none => .ok td
    | some key => transportAs rtc line td key := by
  simp only [parseTransportInfo, takenFor, List.find?_cons, List.find?_nil, Key.text]
  cases found line "a=ice-ufrag" with
  | true => rfl
  | false =>
    cases found line "a=ice-pwd" with
    | true => rfl
    | false => cases found line "a=fingerprint" <;> rfl

theorem readAsKey_transport {key : Key} (h : key ∈ [Key.iceUfrag, .icePwd, .fingerprint])
    (st : SdpParse) :
    st.readAsKey rtc line key = st.updateTd fun td => transportAs rtc line td key := by
  simp only [List.mem_cons, List.not_mem_nil, or_false] at h
  rcases h with rfl | rfl | rfl <;> rfl

/-- The test on the transport of a section. -/
theorem updateTd_eq (hin : st.mediaType = "audio" ∨ st.mediaType = "video") :
    (st.updateTd fun td => parseTransportInfo rtc td line) =
      st.readTaken rtc line (takenFor found line (transportKeys st.mediaType)) := by
  rw [transportKeys, if_pos hin]
  simp only [parseTransportInfo_eq]
  cases htaken : takenFor found line [.iceUfrag, .icePwd, .fingerprint] with
  | none =>
    unfold SdpParse.updateTd
    split <;> [rfl; split <;> rfl]
  | some key => exact (readAsKey_transport (List.mem_of_find?_eq_some htaken) st).symm

theorem updateInfos_eq (rtc : RtcText) (line : String) (st : SdpParse)
    (hin : st.mediaType = "audio" ∨ st.mediaType = "video") :
    (st.updateInfos fun infos => parseSsrcInfo rtc infos line) =
      st.readTaken rtc line (takenFor found line (ssrcKeys st.mediaType)) := by
  rw [ssrcKeys, if_pos hin]
  simp only [takenFor, List.find?_cons, List.find?_nil, Key.text]
  cases h : found line "a=ssrc:" with
  | true => rfl
  | false =>
    simp only [SdpParse.updateInfos, parseSsrcInfo, h, Bool.false_eq_true, if_false]
    split <;> [rfl; split <;> rfl]

theorem groupsAfter_eq (rtc : RtcText) (line : String) (st : SdpParse)
    (h : st.mediaType = "video") :
    Except.ok { st with videoSsrcGroups := st.groupsAfter rtc line } =
      st.readTaken rtc line (takenFor found line (groupKeys st.mediaType)) := by
  rw [groupKeys, if_pos h]
  simp only [takenFor, List.find?_cons, List.find?_nil, Key.text]
  cases h : found line "a=ssrc-group:" with
  | true => rfl
  | false =>
    simp only [SdpParse.groupsAfter, parseSsrcGroupInfo, h, Bool.false_eq_true, if_false,
      Option.getD_some]
    rfl

/-- **The line in its section** is read by the last three tests. -/
theorem parseSection_eq (st : SdpParse) : st.parseSection rtc line =
    (st.readTaken rtc line (takenFor found line (transportKeys st.mediaType))).bind fun st =>
    (st.readTaken rtc line (takenFor found line (groupKeys st.mediaType))).bind fun st =>
    st.readTaken rtc line (takenFor found line (ssrcKeys st.mediaType)) := by
  by_cases hin : st.mediaType = "audio" ∨ st.mediaType = "video"
  · rw [← updateTd_eq hin]
    rcases hin with haudio | hvideo
    · -- there is no test on the groups of an audio section
      simp only [SdpParse.parseSection, SdpParse.updateTd, if_pos haudio]
      cases parseTransportInfo rtc st.audioTd line with
      | error stop => rfl
      | ok td =>
        have hgroups : groupKeys st.mediaType = [] := by
          rw [haudio]
          rfl
        have hinfos := updateInfos_eq rtc line { st with audioTd := td } (.inl haudio)
        simp only [Except.map, bind, Except.bind, hgroups, takenFor, List.find?_nil,
          SdpParse.readTaken] at hinfos ⊢
        rw [← hinfos, SdpParse.updateInfos, if_pos haudio]
        rfl
    · have haudio : ¬ st.mediaType = "audio" := by
        rw [hvideo]
        decide
      simp only [SdpParse.parseSection, SdpParse.updateTd, if_neg haudio, if_pos hvideo]
      cases parseTransportInfo rtc st.videoTd line with
      | error stop => rfl
      | ok td =>
        have hgroups := groupsAfter_eq rtc line { st with videoTd := td } hvideo
        have hinfos := updateInfos_eq rtc line { st with
          videoTd := td
          videoSsrcGroups := SdpParse.groupsAfter rtc line { st with videoTd := td } } (.inr hvideo)
        simp only [Except.map, bind, Except.bind] at hgroups hinfos ⊢
        rw [← hgroups]
        dsimp only
        rw [← hinfos, SdpParse.updateInfos, if_neg haudio, if_pos hvideo]
        rfl
  · -- outside the two sections there are no tests
    have hneither := not_or.1 hin
    have htransport : transportKeys st.mediaType = [] := if_neg hin
    have hgroup : groupKeys st.mediaType = [] := if_neg hneither.2
    have hssrc : ssrcKeys st.mediaType = [] := if_neg hin
    rw [htransport, SdpParse.parseSection, if_neg hneither.1, if_neg hneither.2]
    change _ = (st.readTaken rtc line (takenFor found line (groupKeys st.mediaType))).bind _
    rw [hgroup]
    change _ = st.readTaken rtc line (takenFor found line (ssrcKeys st.mediaType))
    rw [hssrc]
    rfl

/-! ## What a test leaves as it was -/

theorem ok_of_map {α β : Type} {x : Except Stop α} {f : α → β} {b : β} (h : x.map f = .ok b) :
    ∃ a, x = .ok a ∧ f a = b := by
  cases x with
  | error stop => cases h
  | ok a => exact ⟨a, rfl, Except.ok.inj h⟩

/-- One part of the section that is read, of whatever kind, is updated. -/
theorem part_keeps {α : Type} {f : α → Except Stop α} {audio video : α}
    {putAudio putVideo : α → SdpParse}
    (h : (if st.mediaType = "audio" then (f audio).map putAudio
      else if st.mediaType = "video" then (f video).map putVideo else .ok st) = .ok st')
    (haudio : ∀ a, (putAudio a).mediaType = st.mediaType ∧ (putAudio a).remoteDesc = st.remoteDesc)
    (hvideo : ∀ a,
      (putVideo a).mediaType = st.mediaType ∧ (putVideo a).remoteDesc = st.remoteDesc) :
    st'.mediaType = st.mediaType ∧ st'.remoteDesc = st.remoteDesc := by
  split at h
  · obtain ⟨a, -, rfl⟩ := ok_of_map h
    exact haudio a
  · split at h
    · obtain ⟨a, -, rfl⟩ := ok_of_map h
      exact hvideo a
    · obtain rfl := Except.ok.inj h
      exact ⟨rfl, rfl⟩

theorem updateTd_keeps {f : TransportDescription → Except Stop TransportDescription}
    (h : st.updateTd f = .ok st') :
    st'.mediaType = st.mediaType ∧ st'.remoteDesc = st.remoteDesc :=
  part_keeps h (fun _ => ⟨rfl, rfl⟩) fun _ => ⟨rfl, rfl⟩

theorem updateInfos_keeps {f : List SsrcInfo → Except Stop (List SsrcInfo)}
    (h : st.updateInfos f = .ok st') :
    st'.mediaType = st.mediaType ∧ st'.remoteDesc = st.remoteDesc :=
  part_keeps h (fun _ => ⟨rfl, rfl⟩) fun _ => ⟨rfl, rfl⟩

/-- **A test that is not on the header** leaves the section and the
description as they were. -/
theorem readAsKey_keeps {key : Key} (hbundle : key ≠ .bundle) (hmedia : key ≠ .media)
    (h : st.readAsKey rtc line key = .ok st') :
    st'.mediaType = st.mediaType ∧ st'.remoteDesc = st.remoteDesc := by
  cases key with
  | bundle => exact absurd rfl hbundle
  | media => exact absurd rfl hmedia
  | iceUfrag => exact updateTd_keeps (f := fun td => transportAs rtc line td .iceUfrag) h
  | icePwd => exact updateTd_keeps (f := fun td => transportAs rtc line td .icePwd) h
  | fingerprint => exact updateTd_keeps (f := fun td => transportAs rtc line td .fingerprint) h
  | ssrcGroup =>
    obtain rfl := Except.ok.inj h
    exact ⟨rfl, rfl⟩
  | ssrc => exact updateInfos_keeps (f := fun infos => parseSsrcInfo rtc infos line) h

theorem readTaken_keeps {keys : List Key} {is : String → String → Bool}
    (hkeys : .bundle ∉ keys ∧ .media ∉ keys)
    (h : st.readTaken rtc line (takenFor is line keys) = .ok st') :
    st'.mediaType = st.mediaType ∧ st'.remoteDesc = st.remoteDesc := by
  cases htaken : takenFor is line keys with
  | none =>
    rw [htaken] at h
    obtain rfl := Except.ok.inj h
    exact ⟨rfl, rfl⟩
  | some key =>
    rw [htaken] at h
    have hmem := List.mem_of_find?_eq_some htaken
    refine readAsKey_keeps ?_ ?_ h
    · rintro rfl
      exact hkeys.1 hmem
    · rintro rfl
      exact hkeys.2 hmem

theorem headerless_transportKeys (media : String) :
    .bundle ∉ transportKeys media ∧ .media ∉ transportKeys media := by
  unfold transportKeys
  split <;> decide

theorem headerless_groupKeys (media : String) :
    .bundle ∉ groupKeys media ∧ .media ∉ groupKeys media := by
  unfold groupKeys
  split <;> decide

/-- **A line is read by the four tests.** -/
theorem parseLine_eq (st : SdpParse) :
    st.parseLine rtc line = (readLine found rtc line tests st).2 := by
  simp only [SdpParse.parseLine, parseHeader_eq, tests, readLine]
  cases st.readTaken rtc line (takenFor found line (headerKeys st.mediaType)) with
  | error stop => rfl
  | ok st =>
    dsimp only
    rw [parseSection_eq]
    cases htd : st.readTaken rtc line (takenFor found line (transportKeys st.mediaType)) with
    | error stop => rfl
    | ok st₁ =>
      have hkeep₁ := (readTaken_keeps (headerless_transportKeys _) htd).2
      simp only [Except.bind]
      cases hgroup : st₁.readTaken rtc line (takenFor found line (groupKeys st₁.mediaType)) with
      | error stop => simp only [hkeep₁]
      | ok st₂ =>
        have hkeep₂ := (readTaken_keeps (headerless_groupKeys _) hgroup).2
        dsimp only
        cases st₂.readTaken rtc line (takenFor found line (ssrcKeys st₂.mediaType)) with
        | error stop => simp only [hkeep₂, hkeep₁]
        | ok st₃ => rfl

/-! ## A line without keys -/

/-- **A line without a key says nothing.** -/
theorem parseLine_of_keyless (h : ∀ key : Key, found line key.text = false) (st : SdpParse) :
    st.parseLine rtc line = .ok st := by
  have hnone : ∀ keys, takenFor found line keys = none := by
    intro keys
    exact List.find?_eq_none.2 fun key _ => by simp [h key]
  simp only [parseLine_eq, tests, readLine, hnone, SdpParse.readTaken]

end Pc

end XrtcServer
