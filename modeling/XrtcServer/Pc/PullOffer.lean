import XrtcServer.Pc.Printed
/-!
# The text of a pull offer

An offer to a puller has a section for each medium that is sent, with the
tracks it was given. Its text is read as these lines (`sdpLines_sendOffer`):
the transports add credentials and candidates to it, which are quiet, and no
line of it has an end of line inside.
-/

namespace XrtcServer

namespace Pc

open Base Common Ice XrtcServer.Stream

variable {rtc : RtcText} {outside : Surroundings} {line : String} {mids : List String}
variable {tracks audio video : List StreamParams} {sendAudio sendVideo : Bool}
variable {certificate : ℕ} {desc : SessionDescription} {tc : TransportController}

/-! ## What the channels gather -/

/-- The candidates of the channels were gathered here. -/
def Hosts (rtc : RtcText) (tc : TransportController) : Prop :=
  ∀ candidates ∈ tc.channels.map (·.localCandidates), ∀ c ∈ candidates, Gathered rtc c

theorem hosts_createChannel (h : Hosts rtc tc) (name : String) :
    Hosts rtc (tc.createChannel name) := by
  unfold TransportController.createChannel
  split
  · exact h
  · intro candidates hcandidates
    rw [List.map_append, List.mem_append] at hcandidates
    rcases hcandidates with hold | hnew
    · exact h candidates hold
    · obtain rfl := List.mem_singleton.1 hnew
      exact fun _ hc => absurd hc List.not_mem_nil

theorem hosts_setIceParams (h : Hosts rtc tc) (name : String) (params : IceParameters) :
    Hosts rtc (tc.setIceParams name params) := by
  have hsame : (tc.setIceParams name params).channels.map (·.localCandidates) =
      tc.channels.map (·.localCandidates) := map_updateFirst fun _ => rfl
  intro candidates hcandidates
  rw [hsame] at hcandidates
  exact h candidates hcandidates

theorem hosts_createTransport (h : Hosts rtc tc) (content : MediaContentDescription) :
    Hosts rtc (TransportController.createTransport desc tc content) := by
  unfold TransportController.createTransport
  dsimp only
  split
  · exact h
  · split
    · exact hosts_createChannel h _
    · exact hosts_setIceParams (hosts_createChannel h _) _ _

/-- **What the channels of a new offer gather.** -/
theorem hosts_setLocalDescription (h : Hosts rtc tc) :
    Hosts rtc (tc.setLocalDescription rtc outside desc) := by
  have hcreated : ∀ contents : List MediaContentDescription,
      Hosts rtc (contents.foldl (TransportController.createTransport desc) tc) := by
    intro contents
    induction contents generalizing tc with
    | nil => exact h
    | cons content contents ih => exact ih (hosts_createTransport h content)
  intro candidates hcandidates c hc
  obtain ⟨ch, hch, rfl⟩ := List.mem_map.1 hcandidates
  obtain ⟨old, hold, rfl⟩ := List.mem_map.1 hch
  have hkept := hcreated desc.contents _ (List.mem_map_of_mem hold)
  unfold IceChannel.gatheringCandidate at hc
  split at hc
  · exact hkept c hc
  · rcases List.mem_append.1 hc with hc | hc
    · exact hkept c hc
    · obtain ⟨ip, -, hport⟩ := List.mem_filterMap.1 hc
      obtain ⟨port, -, rfl⟩ := Option.map_eq_some_iff.1 hport
      exact ⟨ip, port, rfl⟩

/-- A content but for its candidates. -/
def ungathered (content : MediaContentDescription) : MediaContentDescription :=
  { content with candidates := [] }

/-- **The candidates of a description** come from the channels, and change
nothing else in it. -/
theorem gathered_eq (outside : Surroundings) (h : Hosts rtc tc) (hnone : ∀ content ∈ desc.contents,
    ∀ c ∈ content.candidates, Gathered rtc c) :
    ∃ contents, PeerConnection.gathered outside tc desc = { desc with contents := contents } ∧
      contents.map ungathered = desc.contents.map ungathered ∧
      ∀ content ∈ contents, ∀ c ∈ content.candidates, Gathered rtc c := by
  have hchannels : ∀ ch ∈ tc.channels.filter (IceChannel.signalsCandidates outside),
      ∀ c ∈ ch.localCandidates, Gathered rtc c := fun ch hch =>
    h _ (List.mem_map_of_mem (List.mem_of_mem_filter hch))
  unfold PeerConnection.gathered
  generalize tc.channels.filter (IceChannel.signalsCandidates outside) = channels at hchannels ⊢
  induction channels generalizing desc with
  | nil => exact ⟨desc.contents, rfl, rfl, hnone⟩
  | cons ch channels ih =>
    obtain ⟨hfirst, hrest⟩ := List.forall_mem_cons.1 hchannels
    have hmem : ∀ content ∈ (PeerConnection.onCandidateAllocateDone ch.transportName
        ch.localCandidates desc).contents, ∀ c ∈ content.candidates, Gathered rtc c := by
      intro content hcontent
      rcases mem_updateFirst hcontent with hold | ⟨old, -, rfl⟩
      · exact hnone content hold
      · exact hfirst
    obtain ⟨contents, heq, hmap, hall⟩ := ih hmem hrest
    refine ⟨contents, heq, hmap.trans ?_, hall⟩
    exact map_updateFirst fun _ => rfl

/-- The credentials of an offer. -/
def Issued (rtc : RtcText) (outside : Surroundings) (certificate : ℕ) (td : TransportDescription) :
    Prop :=
  td.iceUfrag = outside.createRandomString ICE_UFRAG_LENGTH ∧
    td.icePwd = outside.createRandomString ICE_PWD_LENGTH ∧
    ∀ fingerprint ∈ td.identityFingerprint,
      rtc.createFromCertificate certificate = some fingerprint

theorem issued_addSection {pc : PeerConnection} {content : MediaContentDescription}
    {source : List StreamParams} {send recv : Bool} {options : RTCOfferAnswerOptions}
    (hpc : pc.certificate = some certificate)
    (hold : ∀ td ∈ desc.transportInfos, Issued rtc outside certificate td) :
    ∀ td ∈ (pc.addSection rtc (createRandomIceCredentials outside) content source send recv options
      desc).transportInfos, Issued rtc outside certificate td := by
  intro td htd
  unfold PeerConnection.addSection SessionDescription.addTransportInfo at htd
  rw [hpc] at htd
  split at htd
  · dsimp only at htd
    split at htd
    · exact hold td htd
    · rename_i fingerprint hcert
      rcases List.mem_append.1 htd with htd | htd
      · exact hold td htd
      · obtain rfl := List.mem_singleton.1 htd
        refine ⟨rfl, rfl, fun fingerprint' heq => ?_⟩
        obtain rfl := Option.some.inj heq
        exact hcert
  · exact hold td htd

/-! ## The description -/

/-- The options of a pull stream. -/
def sendOptions (sendAudio sendVideo : Bool) : RTCOfferAnswerOptions :=
  { recvAudio := false, recvVideo := false, sendAudio := sendAudio, sendVideo := sendVideo }

/-- A section that sends tracks. -/
def sentContent (type : MediaType) (tracks : List StreamParams) : MediaContentDescription :=
  { newContent type with direction := .sendOnly, sendStreams := tracks }

/-- The sections of a pull offer. -/
def sentContents (sendAudio sendVideo : Bool) (audio video : List StreamParams) :
    List MediaContentDescription :=
  (if sendAudio then [sentContent .audio audio] else []) ++
    if sendVideo then [sentContent .video video] else []

/-- The line opens a section, for who looks at its first letters. -/
def opensSection (line : String) : Bool := ['m', '='].isPrefixOf line.toList

/-- A line before the first section. -/
structure SessionLine (line : String) : Prop where
  media : isMedia line = false
  newline : '\n' ∉ line.toList
  opens : opensSection line = false

/-- The lines before the sections, of an offer that bundles them. -/
def bundleLines (mids : List String) : List String :=
  ["v=0", "o=- 0 2 IN IP4 127.0.0.0", "s=-", "t=0 0"] ++
    (if mids = [] then [] else ["a=group:BUNDLE" ++ String.join (mids.map fun mid => " " ++ mid)]) ++
      ["a=msid-semantic: WMS"]

/-- The lists of sections an offer can have. -/
def sectionLists : List (List String) := [[], ["audio"], ["video"], ["audio", "video"]]

theorem sessionLine_bundleLines (h : mids ∈ sectionLists) :
    ∀ line ∈ bundleLines mids, SessionLine line := by
  have hall : ∀ mids ∈ sectionLists, ∀ line ∈ bundleLines mids,
      isMedia line = false ∧ '\n' ∉ line.toList ∧ opensSection line = false := by
    decide +kernel
  intro line hline
  obtain ⟨hmedia, hnewline, hopens⟩ := hall mids h line hline
  exact ⟨hmedia, hnewline, hopens⟩

/-- **The lines before the sections.** -/
theorem sessionLines_addBundle (hgroups : desc.contentGroups = [])
    (hmids : desc.contents.map (·.mid) = mids) (hlist : mids ∈ sectionLists) :
    (PeerConnection.addBundle (sendOptions sendAudio sendVideo) desc).sessionLines =
      bundleLines mids := by
  have hnames : ∀ mids ∈ sectionLists,
      ContentGroup.addContentNames { semantics := "BUNDLE" } mids = ⟨"BUNDLE", mids⟩ := by decide
  have hgroup : ∀ group : { group : ContentGroup // group.contentNames ≠ [] },
      group.val = ⟨"BUNDLE", mids⟩ → (desc.addGroup group).sessionLines = bundleLines mids := by
    rintro ⟨group, hne⟩ hval
    obtain rfl : group = ⟨"BUNDLE", mids⟩ := hval
    have hne' : mids ≠ [] := hne
    rw [SessionDescription.sessionLines, SessionDescription.getGroupByName,
      SessionDescription.addGroup, hgroups, bundleLines, if_neg hne']
    simp
  have hmux : (sendOptions sendAudio sendVideo).useRtpMux = true := rfl
  unfold PeerConnection.addBundle
  rw [if_pos hmux]
  dsimp only
  split
  · rename_i hnil
    rw [hmids, hnames mids hlist] at hnil
    obtain rfl : mids = [] := hnil
    rw [SessionDescription.sessionLines, SessionDescription.getGroupByName, hgroups]
    rfl
  · refine hgroup _ ?_
    show ContentGroup.addContentNames _ (desc.contents.map (·.mid)) = _
    rw [hmids]
    exact hnames mids hlist

theorem addBundle_transportInfos :
    (PeerConnection.addBundle (sendOptions sendAudio sendVideo) desc).transportInfos =
      desc.transportInfos := by
  unfold PeerConnection.addBundle
  split
  · dsimp only
    split <;> rfl
  · rfl

/-- **The description of a pull offer**, before its candidates. -/
theorem offerDescription_send (rtc : RtcText) (outside : Surroundings) (certificate : ℕ)
    (sendAudio sendVideo : Bool) (audio video : List StreamParams) : ∃ desc,
    (started (some certificate) audio video).offerDescription rtc outside
      (sendOptions sendAudio sendVideo) = desc ∧
    desc.contents = sentContents sendAudio sendVideo audio video ∧
    (∀ line ∈ desc.sessionLines, SessionLine line) ∧
    ∀ td ∈ desc.transportInfos, Issued rtc outside certificate td := by
  refine ⟨_, rfl, ?_, ?_, ?_⟩
  · have haudio : (started (some certificate) audio video).audioSource = audio := rfl
    have hvideo : (started (some certificate) audio video).videoSource = video := rfl
    rw [PeerConnection.offerDescription, addBundle_contents]
    cases sendAudio <;> cases sendVideo <;>
      simp [PeerConnection.addSection, sendOptions, sentContents, haudio, hvideo, getDirection,
        SessionDescription.addContent, addStreams_eq, sentContent, newContent,
        audioContentDescription, videoContentDescription]
  · have hmids := offerDescription_mids rtc outside (started (some certificate) audio video)
      (sendOptions sendAudio sendVideo)
    have hlist : offeredMids (sendOptions sendAudio sendVideo) ∈ sectionLists := by
      cases sendAudio <;> cases sendVideo <;> decide
    rw [PeerConnection.offerDescription, addBundle_contents] at hmids
    rw [PeerConnection.offerDescription, sessionLines_addBundle _ hmids hlist]
    · exact sessionLine_bundleLines hlist
    · rw [addSection_contentGroups, addSection_contentGroups]
  · rw [PeerConnection.offerDescription, addBundle_transportInfos]
    exact issued_addSection rfl (issued_addSection rfl fun td htd => absurd htd List.not_mem_nil)

/-! ## The text of the offer -/

/-- A random string has none of the characters that lines are cut at. -/
theorem createRandomString_word (outside : Surroundings) {n : ℕ} (hn : n ≠ 0) :
    outside.createRandomString n ≠ "" ∧
      ∀ c ∈ [':', '=', '\n'], c ∉ (outside.createRandomString n).toList := by
  have hout : ∀ c ∈ [':', '=', '\n'], ¬ (c.isAlphanum = true ∨ c = '+' ∨ c = '/') :=
    forall_mem_of_all (by decide)
  constructor
  · intro hempty
    have hlength := outside.createRandomString_length n
    rw [hempty] at hlength
    exact hn hlength.symm
  · exact fun c hc hmem => hout c hc (outside.createRandomString_chars n c hmem)

/-- No line of a track has an end of line in it. -/
theorem newline_addTrackLines (rtc : RtcText) (h : Readable tracks) :
    ∀ line ∈ tracks.flatMap addTrackLines, '\n' ∉ line.toList := by
  have hssrc : ∀ ssrc attr value, attr ∈ ssrcAttrs → '\n' ∉ value.toList →
      '\n' ∉ (addSsrcLine ssrc attr value).toList := by
    intro ssrc attr value hattr hvalue
    have hdigits : '\n' ∉ ssrcDigits ssrc := notMem_ssrcDigits (by decide)
    have hfree : ∀ attr ∈ ssrcAttrs, '\n' ∉ attr.toList := by decide
    have hattr := hfree attr hattr
    rw [toList_addSsrcLine]
    simp [hdigits, hattr, hvalue]
  intro line hline
  rw [flatMap_addTrackLines h] at hline
  obtain ⟨⟨track, group | ssrc⟩, hitem, hline⟩ := List.mem_flatMap.1 hline
  · obtain rfl := List.mem_singleton.1 hline
    have hgroup : ReadGroup group := (readItem_of_mem h hitem).1
    have hssrcs : '\n' ∉ (group.ssrcs.map ssrcDigits).flatMap (' ' :: ·) :=
      notMem_ssrcs (by decide) (by decide)
    have hnewline := hgroup.newline
    rw [toList_groupLine]
    simp [hnewline, hssrcs]
  · have htrack : ReadTrack track := (readItem_of_mem h hitem).1
    simp only [itemLines, ssrcLines, List.mem_cons, List.not_mem_nil, or_false] at hline
    rcases hline with rfl | rfl | rfl | rfl
    · exact hssrc _ _ _ (by decide) htrack.cname.newline
    · exact hssrc _ _ _ (by decide) (msid_read rtc htrack).1.newline
    · exact hssrc _ _ _ (by decide) htrack.streamId.newline
    · exact hssrc _ _ _ (by decide) htrack.id.newline

/-- No line that is printed of a section has an end of line in it. -/
theorem newline_contentLines {content : MediaContentDescription} {type : MediaType}
    (h : PrintedSection rtc type content (desc.getTransportInfo type.mid))
    (hread : Readable content.sendStreams) :
    ∀ line ∈ desc.contentLines rtc content, '\n' ∉ line.toList := by
  have hmedia : ∀ type, '\n' ∉ (mediaLine type).toList := by
    intro type
    cases type <;> decide +kernel
  obtain ⟨head, hlines, hquiet⟩ := contentLines_eq desc content h
  intro line hline
  rw [hlines, List.cons_append, List.mem_cons, List.mem_append] at hline
  rcases hline with rfl | hline | hline
  · exact hmedia type
  · exact (hquiet line hline).newline
  · exact newline_addTrackLines rtc hread line hline

/-- **The text of a pull offer is read as the lines of its description**: the
sections that are sent, as an offer prints them. -/
theorem sdpLines_sendOffer (rtc : RtcText) (outside : Surroundings) (certificate : ℕ)
    (sendAudio sendVideo : Bool) (haudio : Readable audio) (hvideo : Readable video) : ∃ desc,
    sdpLines rtc ((started (some certificate) audio video).createOffer rtc outside
      (sendOptions sendAudio sendVideo)).2 = SessionDescription.lines desc rtc ∧
    desc.contents.map ungathered = sentContents sendAudio sendVideo audio video ∧
    (∀ line ∈ desc.sessionLines, SessionLine line) ∧
    ∀ content ∈ desc.contents, Readable content.sendStreams ∧
      PrintedSection rtc content.type content (desc.getTransportInfo content.type.mid) := by
  obtain ⟨desc, hdesc, hcontents, hsession, hissued⟩ :=
    offerDescription_send rtc outside certificate sendAudio sendVideo audio video
  have hmade : ¬ ((sendOptions sendAudio sendVideo).dtlsOn = true ∧
      (started (some certificate) audio video).certificate = none) := by
    rintro ⟨-, hnone⟩
    cases hnone
  have hhosts : Hosts rtc
      ((started (some certificate) audio video).transportController.setLocalDescription rtc outside
        desc) :=
    hosts_setLocalDescription fun _ h => absurd h List.not_mem_nil
  -- a section that is sent, but for the candidates
  have hsent : ∀ content ∈ sentContents sendAudio sendVideo audio video,
      content.codecs = (newContent content.type).codecs ∧ content.candidates = [] ∧
        Readable content.sendStreams := by
    intro content hcontent
    rcases List.mem_append.1 hcontent with hcontent | hcontent
    · split at hcontent
      · obtain rfl := List.mem_singleton.1 hcontent
        exact ⟨rfl, rfl, haudio⟩
      · cases hcontent
    · split at hcontent
      · obtain rfl := List.mem_singleton.1 hcontent
        exact ⟨rfl, rfl, hvideo⟩
      · cases hcontent
  have hnone : ∀ content ∈ desc.contents, ∀ c ∈ content.candidates, Gathered rtc c := by
    intro content hcontent c hc
    rw [hcontents] at hcontent
    rw [(hsent content hcontent).2.1] at hc
    cases hc
  obtain ⟨contents, hgathered, hkept, hcandidates⟩ := gathered_eq outside hhosts hnone
  have hsame : contents.map ungathered = sentContents sendAudio sendVideo audio video := by
    rw [hkept, hcontents]
    refine (List.map_congr_left fun content hcontent => ?_).trans (List.map_id _)
    rw [ungathered, ← (hsent content hcontent).2.1]
    rfl
  have htransport : ∀ mid, ∀ td ∈ SessionDescription.getTransportInfo
      { desc with contents := contents } mid, ∀ line ∈ buildTransport rtc td, Quiet rtc line := by
    intro mid td htd
    obtain ⟨hufrag, hpwd, hfingerprint⟩ := hissued td (List.mem_of_find?_eq_some htd)
    refine quiet_buildTransport ?_ ?_ fun fingerprint h => ⟨certificate, hfingerprint fingerprint h⟩
    · rw [hufrag]
      exact createRandomString_word outside (by decide)
    · rw [hpwd]
      exact createRandomString_word outside (by decide)
  have hprinted : ∀ content ∈ contents, Readable content.sendStreams ∧
      PrintedSection rtc content.type content
        (SessionDescription.getTransportInfo { desc with contents := contents } content.type.mid) := by
    intro content hcontent
    obtain ⟨hcodecs, -, hread⟩ := hsent _ (hsame ▸ List.mem_map_of_mem hcontent)
    exact ⟨hread, rfl, hcodecs, hcandidates content hcontent, htransport _⟩
  refine ⟨{ desc with contents := contents }, ?_, hsame, hsession, hprinted⟩
  rw [PeerConnection.createOffer, if_neg hmade, hdesc]
  show sdpLines rtc (SessionDescription.toString
    (PeerConnection.gathered outside _ desc) rtc) = _
  rw [hgathered, SessionDescription.toString, sdpLines_join]
  intro line hline
  rcases List.mem_append.1 hline with hline | hline
  · exact (hsession line hline).newline
  · obtain ⟨content, hcontent, hline⟩ := List.mem_flatMap.1 hline
    obtain ⟨hread, hsection⟩ := hprinted content hcontent
    exact newline_contentLines hsection hread line hline

end Pc

end XrtcServer
