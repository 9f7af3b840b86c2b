import XrtcServer.Pc.PullOffer
/-!
# The tracks that are passed through

The tracks of an answer are handed to a pull offer, printed there, and read
again by whoever reads the offer. They come back as they were exactly where
all of them are harmless (`passedThrough_iff`): an answer is taken whose
fields, printed behind `a=ssrc:`, have a key of the line parser in them.
-/

namespace XrtcServer

namespace Pc

open Base Common Ice XrtcServer.Stream

variable {rtc : RtcText} {outside : Surroundings} {media : String} {lines head more : List String}
variable {audioHead videoHead session : List String} {type other : MediaType}
variable {tracks audio video : List StreamParams}

/-! ## A text of two sections -/

/-- **Up to its tracks a section is taken**, and whatever comes before it. -/
theorem taken_section (hhead : ∀ line ∈ head, Quiet rtc line) :
    Taken rtc media (mediaLine type :: head ++ more) ↔ Taken rtc type.mid more := by
  obtain ⟨hshort, hrefused, hsection⟩ := opens_mediaLine rtc type media
  obtain ⟨htaken, hafter, -⟩ := stays_lines type type.mid fun line hline =>
    And.intro (hhead line hline).stays (hhead line hline).silent.fits
  rw [List.cons_append, Taken, hsection, taken_append, hafter]
  tauto

/-- Its lines are read in it. -/
theorem sectionLines_section (hhead : ∀ line ∈ head, Quiet rtc line) :
    sectionLines rtc other media (mediaLine type :: head ++ more) =
      (if type.mid = other.mid then mediaLine type :: head else []) ++
        sectionLines rtc other type.mid more := by
  obtain ⟨-, -, hsection⟩ := opens_mediaLine rtc type media
  obtain ⟨-, hafter, hlines⟩ := stays_lines other type.mid fun line hline =>
    And.intro (hhead line hline).stays (hhead line hline).silent.fits
  rw [List.cons_append, sectionLines, hsection, sectionLines_append, hafter, hlines]
  split <;> rfl

/-- Lines before the first section open none, and are not looked at. -/
theorem taken_session (rtc : RtcText) (type : MediaType)
    (hsession : ∀ line ∈ session, isMedia line = false) :
    Taken rtc "" session ∧ mediaAfter rtc "" session = "" ∧
      sectionLines rtc type "" session = [] := by
  have hout : ¬ InSection "" := by
    unfold InSection
    decide
  have hne : ¬ "" = type.mid := by cases type <;> decide
  induction session with
  | nil => exact ⟨trivial, rfl, rfl⟩
  | cons line session ih =>
    obtain ⟨hline, hrest⟩ := List.forall_mem_cons.1 hsession
    have hnot : ¬ isMedia line = true := by simp [hline]
    have hsection : sectionAt rtc "" line = "" := if_neg hnot
    obtain ⟨htaken, hafter, hlines⟩ := ih hrest
    refine ⟨⟨?_, ?_, by rwa [hsection]⟩, ?_, ?_⟩
    · rintro (h | ⟨-, hin, -⟩)
      · exact hnot h.1
      · exact hout (hsection ▸ hin)
    · rintro (h | ⟨-, hin, -⟩)
      · exact hnot h.1
      · exact hout (hsection ▸ hin)
    · rw [mediaAfter, List.foldl_cons, hsection]
      exact hafter
    · rw [sectionLines, hsection, if_neg hne, hlines]

/-- The lines of tracks are in the section they stand in, or in none of the two. -/
theorem sectionLines_addTrackLines (rtc : RtcText) (h : Readable tracks)
    (hother : type.mid ≠ other.mid) :
    sectionLines rtc other type.mid (tracks.flatMap addTrackLines) = [] := by
  have htrack : ∀ line ∈ tracks.flatMap addTrackLines, TrackLine rtc line := by
    intro line hline
    rw [flatMap_addTrackLines h] at hline
    obtain ⟨item, hitem, hline⟩ := List.mem_flatMap.1 hline
    exact (itemLines_fit (readItem_of_mem h hitem).1 line hline).2
  exact (trackLines_off htrack hother).1

/-- **What is read of a text of the two sections.** -/
theorem twoSections (hsession : ∀ line ∈ session, isMedia line = false)
    (haudioHead : ∀ line ∈ audioHead, Quiet rtc line)
    (hvideoHead : ∀ line ∈ videoHead, Quiet rtc line) (haudio : Readable audio)
    (hvideo : Readable video)
    (hlines : lines = session ++ (mediaLine .audio :: audioHead ++ (audio.flatMap addTrackLines ++
      (mediaLine .video :: videoHead ++ video.flatMap addTrackLines)))) :
    (Taken rtc "" lines ↔ Taken rtc MediaType.audio.mid (audio.flatMap addTrackLines) ∧
      Taken rtc MediaType.video.mid (video.flatMap addTrackLines)) ∧
    sectionLines rtc .audio "" lines = mediaLine .audio :: audioHead ++
      sectionLines rtc .audio MediaType.audio.mid (audio.flatMap addTrackLines) ∧
    sectionLines rtc .video "" lines = mediaLine .video :: videoHead ++
      sectionLines rtc .video MediaType.video.mid (video.flatMap addTrackLines) := by
  have hapart : MediaType.audio.mid ≠ MediaType.video.mid := by decide
  obtain ⟨hout, hafter, hnoAudio⟩ := taken_session rtc .audio hsession
  obtain ⟨-, -, hnoVideo⟩ := taken_session rtc .video hsession
  -- neither comes back among the tracks of the other
  have hfarAudio := sectionLines_addTrackLines rtc hvideo hapart.symm
  have hfarVideo := sectionLines_addTrackLines rtc haudio hapart
  subst hlines
  generalize audio.flatMap addTrackLines = audioLines at *
  generalize video.flatMap addTrackLines = videoLines at *
  refine ⟨?_, ?_, ?_⟩
  · rw [taken_append, hafter, taken_section haudioHead, taken_append, taken_section hvideoHead]
    exact and_iff_right hout
  · rw [sectionLines_append, hafter, hnoAudio, sectionLines_section haudioHead,
      sectionLines_append, sectionLines_section hvideoHead, hfarAudio, if_pos rfl,
      if_neg hapart.symm, List.nil_append, List.append_nil, List.append_nil]
  · rw [sectionLines_append, hafter, hnoVideo, sectionLines_section haudioHead,
      sectionLines_append, sectionLines_section hvideoHead, hfarVideo, if_pos rfl,
      if_neg hapart, List.nil_append, List.nil_append, List.nil_append]

/-! ## The pull offer -/

/-- The options of a pull stream of both media. -/
def pullOptions : RTCOfferAnswerOptions := { recvAudio := false, recvVideo := false }

/-- **The text of a pull offer of both media is read as these lines.** -/
theorem sdpLines_pullOffer (rtc : RtcText) (outside : Surroundings) (certificate : ℕ)
    (haudio : Readable audio) (hvideo : Readable video) : ∃ session audioHead videoHead,
    sdpLines rtc ((started (some certificate) audio video).createOffer rtc outside pullOptions).2 =
      session ++ (mediaLine .audio :: audioHead ++ (audio.flatMap addTrackLines ++
        (mediaLine .video :: videoHead ++ video.flatMap addTrackLines))) ∧
    (∀ line ∈ session, isMedia line = false) ∧ (∀ line ∈ audioHead, Quiet rtc line) ∧
    ∀ line ∈ videoHead, Quiet rtc line := by
  obtain ⟨desc, hlines, hkept, hsession, hprinted⟩ :=
    sdpLines_sendOffer rtc outside certificate true true haudio hvideo
  obtain ⟨a, more, hcontents, ha, hmore⟩ := List.map_eq_cons_iff.1 hkept
  obtain ⟨v, rest, rfl, hv, hrest⟩ := List.map_eq_cons_iff.1 hmore
  obtain rfl := List.map_eq_nil_iff.1 hrest
  have hatype : a.type = .audio := congrArg (·.type) ha
  have hvtype : v.type = .video := congrArg (·.type) hv
  have hastreams : a.sendStreams = audio := congrArg (·.sendStreams) ha
  have hvstreams : v.sendStreams = video := congrArg (·.sendStreams) hv
  obtain ⟨audioHead, haudioLines, haudioHead⟩ :=
    contentLines_eq desc a (hprinted a (by rw [hcontents]; exact List.mem_cons_self)).2
  obtain ⟨videoHead, hvideoLines, hvideoHead⟩ := contentLines_eq desc v
    (hprinted v (by rw [hcontents]; exact List.mem_cons_of_mem _ List.mem_cons_self)).2
  rw [hatype, hastreams] at haudioLines
  rw [hvtype, hvstreams] at hvideoLines
  refine ⟨desc.sessionLines, audioHead, videoHead, ?_, fun line h => (hsession line h).media,
    haudioHead, hvideoHead⟩
  refine hlines.trans ?_
  rw [SessionDescription.lines, hcontents, List.flatMap_cons, List.flatMap_cons, haudioLines,
    hvideoLines, List.flatMap_nil, List.append_nil, List.append_assoc (_ :: audioHead)]

/-! ## The tracks that come back -/

/-- **A pull offer of the tracks is read as these tracks**: none is lost,
moved, merged or changed. -/
def PassedThrough (rtc : RtcText) (outside : Surroundings) (certificate : ℕ)
    (audio video : List StreamParams) : Prop :=
  ∃ st, SdpParse.parseLines rtc {} (sdpLines rtc
      ((started (some certificate) audio video).createOffer rtc outside pullOptions).2) = .ok st ∧
    st.audioTracks = audio ∧ st.videoTracks = video

/-- Tracks as they are read come back where all of them are harmless. -/
theorem passedThrough_of_readable (rtc : RtcText) (outside : Surroundings) (certificate : ℕ)
    (haudio : Readable audio) (hvideo : Readable video)
    (hgroups : ∀ track ∈ audio, track.ssrcGroups = []) :
    PassedThrough rtc outside certificate audio video ↔
      ∀ track ∈ audio ++ video, HarmlessTrack track := by
  obtain ⟨session, audioHead, videoHead, hlines, hsession, haudioHead, hvideoHead⟩ :=
    sdpLines_pullOffer rtc outside certificate haudio hvideo
  obtain ⟨htaken, haudioLines, hvideoLines⟩ :=
    twoSections hsession haudioHead hvideoHead haudio hvideo hlines
  have hsilent : ∀ type head, (∀ line ∈ head, Quiet rtc line) →
      ∀ line ∈ mediaLine type :: head, Silent line := fun type head hhead =>
    List.forall_mem_cons.2 ⟨silent_mediaLine type, fun line hline => (hhead line hline).silent⟩
  have hbackAudio := readBack_iff rtc .audio (hsilent .audio _ haudioHead) haudio
    fun _ => hgroups
  have hbackVideo := readBack_iff rtc .video (hsilent .video _ hvideoHead) hvideo
    fun h => by cases h
  rw [PassedThrough, tracks_read, htaken, haudioLines, hvideoLines, List.forall_mem_append,
    ← hbackAudio, ← hbackVideo]
  exact and_and_and_comm

/-- **Tracks pass through exactly where all are harmless**, whatever answer
they were read from. -/
theorem passedThrough_iff (rtc : RtcText) (outside : Surroundings) (certificate : ℕ)
    (pc pc' : PeerConnection) (sdp : String) (h : pc.setRemoteSdp rtc sdp = (pc', .ok 0)) :
    PassedThrough rtc outside certificate ((pc'.remoteStreams "audio").getD [])
        ((pc'.remoteStreams "video").getD []) ↔
      ∀ track ∈ (pc'.remoteStreams "audio").getD [] ++ (pc'.remoteStreams "video").getD [],
        HarmlessTrack track := by
  obtain ⟨haudio, hgroups⟩ := readable_remoteStreams h .audio
  obtain ⟨hvideo, -⟩ := readable_remoteStreams h .video
  exact passedThrough_of_readable rtc outside certificate haudio hvideo (hgroups rfl)

/-- The tracks that an answer to `offering` leaves. -/
def tracksAfter (sdp : String) : Except Fault ℤ × List StreamParams × List StreamParams :=
  let (pc, ret) := offering.setRemoteSdp blankText sdp
  (ret, (pc.remoteStreams "audio").getD [], (pc.remoteStreams "video").getD [])

theorem of_tracksAfter {sdp : String} (h : tracksAfter sdp = (.ok 0, audio, video)) :
    ∃ pc', offering.setRemoteSdp blankText sdp = (pc', .ok 0) ∧
      (pc'.remoteStreams "audio").getD [] = audio ∧ (pc'.remoteStreams "video").getD [] = video := by
  obtain ⟨hret, htracks⟩ := Prod.mk.inj h
  obtain ⟨haudio, hvideo⟩ := Prod.mk.inj htracks
  exact ⟨_, Prod.ext rfl hret, haudio, hvideo⟩

/-- An answer with one track. -/
theorem passedThrough_iff_track :
    PassedThrough blankText blankSurroundings 1 [⟨"t", [1], [], "c", "s"⟩] [] := by
  have hafter : tracksAfter
      "m=audio 9 x\na=fingerprint:sha-1 00\na=ssrc:1 cname:c\na=ssrc:1 msid:s t" =
        (.ok 0, [⟨"t", [1], [], "c", "s"⟩], []) := by decide +kernel
  obtain ⟨pc', hok, haudio, hvideo⟩ := of_tracksAfter hafter
  have hiff := passedThrough_iff blankText blankSurroundings 1 offering pc' _ hok
  rw [haudio, hvideo] at hiff
  refine hiff.2 fun track htrack => ?_
  obtain rfl := List.mem_singleton.1 htrack
  exact ⟨by decide, by decide, by decide, fun _ hgroup => absurd hgroup List.not_mem_nil⟩

/-- A stream and a track named after keys of the line parser are read from an
answer, and not from the offer that they are printed in. -/
theorem keys_not_passedThrough : ∃ pc',
    offering.setRemoteSdp blankText
      "m=audio 9 x\na=fingerprint:sha-1 00\na=ssrc:1 msid:a=group:BUNDLE m=x" = (pc', .ok 0) ∧
    ¬ PassedThrough blankText blankSurroundings 1 ((pc'.remoteStreams "audio").getD [])
      ((pc'.remoteStreams "video").getD []) := by
  have hafter : tracksAfter
      "m=audio 9 x\na=fingerprint:sha-1 00\na=ssrc:1 msid:a=group:BUNDLE m=x" =
        (.ok 0, [⟨"m=x", [1], [], "", "a=group:BUNDLE"⟩], []) := by decide +kernel
  obtain ⟨pc', hok, haudio, hvideo⟩ := of_tracksAfter hafter
  refine ⟨pc', hok, fun hpassed => ?_⟩
  obtain ⟨hread, hgroups⟩ := readable_remoteStreams hok .audio
  obtain ⟨hread', -⟩ := readable_remoteStreams hok .video
  have hall := (passedThrough_of_readable _ _ _ hread hread' (hgroups rfl)).1 hpassed
  have hmem : (⟨"m=x", [1], [], "", "a=group:BUNDLE"⟩ : StreamParams) ∈
      (pc'.remoteStreams "audio").getD [] ++ (pc'.remoteStreams "video").getD [] := by
    rw [haudio]
    exact List.mem_append_left _ (List.mem_singleton.2 rfl)
  exact absurd (hall _ hmem).id (by decide)

end Pc

end XrtcServer
