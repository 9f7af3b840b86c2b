import XrtcServer.Pc.PullOffer
/-!
# What an offer announces

A puller reads the offer section by section: a line that begins with `m=`
opens one, and the `a=ssrc` lines in it say which SSRCs will come. A pull
offer announces those of the tracks it was given, for each medium that is
sent (`announcedSsrcs_sendOffer`).
-/

namespace XrtcServer

namespace Pc

open Base Common Ice XrtcServer.Stream

/-! ## How an offer is read -/

/-- The line opens the section of a type. -/
def opensType (type : MediaType) (line : String) : Bool :=
  ("m=" ++ type.mid ++ " ").toList.isPrefixOf line.toList

/-- The lines of a section, behind the one that opens it. -/
def sectionBody (type : MediaType) (lines : List String) : List String :=
  ((lines.dropWhile fun line => !opensType type line).drop 1).takeWhile fun line =>
    !opensSection line

/-- **The SSRCs that an offer announces for a medium**, in their order. An
`a=ssrc` line is read as the server reads those of an answer. -/
def announcedSsrcs (rtc : RtcText) (type : MediaType) (offer : String) : List UInt32 :=
  ((sectionBody type (sdpLines rtc offer)).foldl (readSsrc rtc) []).map (·.ssrcId)

variable {rtc : RtcText} {outside : Surroundings} {line : String} {session lines : List String}
variable {type other : MediaType} {tracks audio video : List StreamParams}

/-! ## Sections -/

theorem opensType_mediaLine : opensType type (mediaLine other) = decide (other = type) := by
  cases type <;> cases other <;> decide +kernel

theorem opensSection_mediaLine (type : MediaType) : opensSection (mediaLine type) = true := by
  cases type <;> decide +kernel

theorem opensType_of_not_opens (type : MediaType) (h : opensSection line = false) :
    opensType type line = false := by
  have hstarts : ['m', '='] <+: ("m=" ++ type.mid ++ " ").toList := by
    cases type <;> decide
  rw [opensSection, ← Bool.not_eq_true, List.isPrefixOf_iff_prefix] at h
  rw [opensType, ← Bool.not_eq_true, List.isPrefixOf_iff_prefix]
  exact fun hline => h (hstarts.trans hline)

/-- Lines that open no section are passed over. -/
theorem dropWhile_closed (type : MediaType) (h : ∀ line ∈ session, opensSection line = false) :
    (session ++ lines).dropWhile (fun line => !opensType type line) =
      lines.dropWhile fun line => !opensType type line := by
  refine List.dropWhile_append_of_pos fun line hline => ?_
  rw [opensType_of_not_opens type (h line hline)]
  rfl

/-- **A text of sections is read section by section.** -/
theorem sectionBody_sections (type : MediaType) {sections : List (MediaType × List String)}
    (hsession : ∀ line ∈ session, opensSection line = false)
    (hbody : ∀ s ∈ sections, ∀ line ∈ s.2, opensSection line = false) :
    sectionBody type (session ++ sections.flatMap fun s => mediaLine s.1 :: s.2) =
      ((sections.find? fun s => s.1 = type).map (·.2)).getD [] := by
  rw [sectionBody, dropWhile_closed type hsession]
  induction sections with
  | nil => rfl
  | cons s sections ih =>
    obtain ⟨hfirst, hrest⟩ := List.forall_mem_cons.1 hbody
    rw [List.flatMap_cons, List.cons_append, List.dropWhile_cons, opensType_mediaLine,
      List.find?_cons]
    by_cases htype : s.1 = type
    · -- the section ends where the next one is opened
      have hnext : (sections.flatMap fun s => mediaLine s.1 :: s.2).takeWhile
          (fun line => !opensSection line) = [] := by
        cases sections with
        | nil => rfl
        | cons next sections =>
          rw [List.flatMap_cons, List.cons_append, List.takeWhile_cons, opensSection_mediaLine]
          rfl
      have hopened : decide (s.1 = type) = true := decide_eq_true htype
      simp only [hopened, Bool.not_true, Bool.false_eq_true, if_false, List.drop_one, List.tail_cons,
        Option.map_some, Option.getD_some]
      rw [List.takeWhile_append_of_pos fun line hline => by rw [hfirst line hline]; rfl, hnext,
        List.append_nil]
    · have hclosed : decide (s.1 = type) = false := decide_eq_false htype
      simp only [hclosed, Bool.not_false, if_true]
      rw [dropWhile_closed type hfirst]
      exact ih hrest

/-! ## What is printed of a section -/

/-- A line that begins with another letter opens no section. -/
theorem not_opensSection {c : Char} {rest : List Char} (h : line.toList = c :: rest)
    (hc : 'm' ≠ c) : opensSection line = false := by
  rw [opensSection, ← Bool.not_eq_true, List.isPrefixOf_iff_prefix, h]
  exact fun hstarts => hc (List.cons_prefix_cons.1 hstarts).1

/-- Nor does an attribute. -/
theorem not_opens_attribute {text : String} {rest : List Char} (h : text.toList = 'a' :: rest)
    (more : String) : opensSection (text ++ more) = false := by
  have hmore : (text ++ more).toList = 'a' :: (rest ++ more.toList) := by
    rw [String.toList_append, h, List.cons_append]
  exact not_opensSection hmore (by decide)

theorem not_opens_buildTransport (rtc : RtcText) (td : TransportDescription) :
    ∀ line ∈ buildTransport rtc td, opensSection line = false := by
  intro line hline
  rw [buildTransport] at hline
  rcases List.mem_append.1 hline with hline | hline
  · rcases List.mem_pair.1 hline with rfl | rfl
    · exact not_opens_attribute rfl _
    · exact not_opens_attribute rfl _
  · split at hline
    · cases hline
    · rcases List.mem_pair.1 hline with rfl | rfl
      · rw [String.append_assoc, String.append_assoc]
        exact not_opens_attribute rfl _
      · exact not_opens_attribute rfl _

theorem not_opens_buildRtpMap (content : MediaContentDescription) :
    ∀ line ∈ buildRtpMap content, opensSection line = false := by
  intro line hline
  obtain ⟨codec, -, hline⟩ := List.mem_flatMap.1 hline
  rcases List.mem_cons.1 hline with rfl | hline
  · simp only [String.append_assoc]
    exact not_opens_attribute rfl _
  · rcases List.mem_append.1 hline with hline | hline
    · obtain ⟨param, -, rfl⟩ := List.mem_map.1 hline
      simp only [String.append_assoc]
      exact not_opens_attribute rfl _
    · unfold addFmtpLine at hline
      split at hline
      · cases hline
      · obtain rfl := List.mem_singleton.1 hline
        simp only [String.append_assoc]
        exact not_opens_attribute rfl _

theorem not_opens_addTrackLines (track : StreamParams) :
    ∀ line ∈ addTrackLines track, opensSection line = false := by
  have hssrc : ∀ ssrc attr value, opensSection (addSsrcLine ssrc attr value) = false := by
    intro ssrc attr value
    unfold addSsrcLine
    simp only [String.append_assoc]
    exact not_opens_attribute rfl _
  intro line hline
  rw [addTrackLines] at hline
  rcases List.mem_append.1 hline with hline | hline
  · obtain ⟨group, -, hline⟩ := List.mem_flatMap.1 hline
    unfold addSsrcGroupLine at hline
    split at hline
    · cases hline
    · obtain rfl := List.mem_singleton.1 hline
      rw [String.append_assoc]
      exact not_opens_attribute rfl _
  · obtain ⟨ssrc, -, hline⟩ := List.mem_flatMap.1 hline
    simp only [List.mem_cons, List.not_mem_nil, or_false] at hline
    rcases hline with rfl | rfl | rfl | rfl
    · exact hssrc _ _ _
    · exact hssrc _ _ _
    · exact hssrc _ _ _
    · exact hssrc _ _ _

/-- **What is printed of a section opens no other.** -/
theorem not_opens_contentLines (rtc : RtcText) (desc : SessionDescription)
    (content : MediaContentDescription) :
    ∀ line ∈ (desc.contentLines rtc content).tail, opensSection line = false := by
  intro line hline
  rw [SessionDescription.contentLines] at hline
  simp only [List.append_assoc, List.cons_append, List.tail_cons, List.nil_append, List.mem_cons,
    List.mem_append] at hline
  rcases hline with rfl | rfl | hline | hline | rfl | rfl | hline | rfl | hline | hline
  · decide
  · decide
  · obtain ⟨c, -, rfl⟩ := List.mem_map.1 hline
    simp only [String.append_assoc]
    exact not_opens_attribute rfl _
  · split at hline
    · cases hline
    · exact not_opens_buildTransport rtc _ line hline
  · exact not_opens_attribute rfl _
  · unfold buildRtpDirection
    split <;> decide
  · split at hline
    · obtain rfl := List.mem_singleton.1 hline
      decide
    · cases hline
  · decide +kernel
  · exact not_opens_buildRtpMap content line hline
  · obtain ⟨track, -, hline⟩ := List.mem_flatMap.1 hline
    exact not_opens_addTrackLines track line hline

/-! ## What a pull offer announces -/

/-- The tracks that are sent of a type. -/
def sentTracks (sendAudio sendVideo : Bool) (audio video : List StreamParams) :
    MediaType → List StreamParams
  | .audio => if sendAudio then audio else []
  | .video => if sendVideo then video else []

/-- The SSRCs of a printed section are those of its tracks. -/
theorem ssrcs_contentLines {desc : SessionDescription} {content : MediaContentDescription}
    (h : PrintedSection rtc type content (desc.getTransportInfo type.mid))
    (hread : Readable content.sendStreams) :
    desc.contentLines rtc content = mediaLine type :: (desc.contentLines rtc content).tail ∧
      ((desc.contentLines rtc content).tail.foldl (readSsrc rtc) []).map SsrcInfo.ssrcId =
        content.sendStreams.flatMap (·.ssrcs) := by
  obtain ⟨head, hlines, hquiet⟩ := contentLines_eq desc content h
  have hsilent : ∀ line ∈ head, Silent line := fun line hline => (hquiet line hline).silent
  have hnodup : (([] ++ (content.sendStreams.flatMap trackItems).flatMap itemInfos).map
      SsrcInfo.ssrcId).Nodup := by
    rw [List.nil_append, flatMap_itemInfos, map_trackInfos]
    exact hread.ssrcs
  rw [hlines]
  refine ⟨rfl, ?_⟩
  rw [List.cons_append, List.tail_cons, List.foldl_append, foldl_readSsrc_silent hsilent,
    flatMap_addTrackLines hread, readSsrc_items (fun _ hitem => (readItem_of_mem hread hitem).1)
    hnodup, List.nil_append, flatMap_itemInfos, map_trackInfos]

/-- **A pull offer announces the SSRCs of the tracks that are sent**, for each
medium. -/
theorem announcedSsrcs_sendOffer (rtc : RtcText) (outside : Surroundings) (certificate : ℕ)
    (sendAudio sendVideo : Bool) (haudio : Readable audio) (hvideo : Readable video)
    (type : MediaType) :
    announcedSsrcs rtc type ((started (some certificate) audio video).createOffer rtc outside
      (sendOptions sendAudio sendVideo)).2 =
      (sentTracks sendAudio sendVideo audio video type).flatMap (·.ssrcs) := by
  obtain ⟨desc, htext, hkept, hsession, hprinted⟩ :=
    sdpLines_sendOffer rtc outside certificate sendAudio sendVideo haudio hvideo
  have hssrcs : ∀ content ∈ desc.contents, _ := fun content hcontent =>
    ssrcs_contentLines (hprinted content hcontent).2 (hprinted content hcontent).1
  have hlines : desc.lines rtc = desc.sessionLines ++ (desc.contents.map fun content =>
      (content.type, (desc.contentLines rtc content).tail)).flatMap fun s => mediaLine s.1 :: s.2 := by
    rw [SessionDescription.lines, List.flatMap_map]
    exact congrArg _ (List.flatMap_congr fun content hcontent => (hssrcs content hcontent).1)
  have hbody : ∀ s ∈ desc.contents.map fun content =>
      (content.type, (desc.contentLines rtc content).tail), ∀ line ∈ s.2,
        opensSection line = false := by
    intro s hs
    obtain ⟨content, -, rfl⟩ := List.mem_map.1 hs
    exact not_opens_contentLines rtc desc content
  -- the section read is the one that was sent, but for its candidates
  have hsent : sentTracks sendAudio sendVideo audio video type =
      ((desc.contents.find? fun content => content.type = type).map (·.sendStreams)).getD [] := by
    have hfound : (sentContents sendAudio sendVideo audio video).find?
        (fun content => content.type = type) =
          (desc.contents.find? fun content => content.type = type).map ungathered := by
      rw [← hkept, List.find?_map]
      rfl
    have hof : sentTracks sendAudio sendVideo audio video type =
        (((sentContents sendAudio sendVideo audio video).find?
          fun content => content.type = type).map (·.sendStreams)).getD [] := by
      cases type <;> cases sendAudio <;> cases sendVideo <;> rfl
    rw [hof, hfound, Option.map_map]
    rfl
  rw [announcedSsrcs, htext, hlines,
    sectionBody_sections type (fun line hline => (hsession line hline).opens) hbody,
    List.find?_map, hsent]
  have hp : ((fun s : MediaType × List String => decide (s.1 = type)) ∘ fun content =>
      (content.type, (desc.contentLines rtc content).tail)) =
        fun content : MediaContentDescription => decide (content.type = type) := rfl
  rw [hp]
  cases hfind : desc.contents.find? fun content => content.type = type with
  | none => rfl
  | some content => exact (hssrcs content (List.mem_of_find?_eq_some hfind)).2

end Pc

end XrtcServer
