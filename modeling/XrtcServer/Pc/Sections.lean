import XrtcServer.Pc.Finishes
/-!
# What the lines of a section add up to

Where no line stops the parse, the SSRCs and the groups of a section are
what its own lines say, one after the other, and the tracks are made of
these (`tracks_read`). A text of several parts is read part by part.
-/

namespace XrtcServer

namespace Pc

open Base Common XrtcServer.Stream

section Readers

variable (rtc : RtcText)

/-- The SSRCs after a line that is taken. -/
def readSsrc (infos : List SsrcInfo) (line : String) : List SsrcInfo :=
  match parseSsrcInfo rtc infos line with
  | .ok infos => infos
  | .error _ => infos

/-- The groups after a line. -/
def readGroup (groups : List SsrcGroup) (line : String) : List SsrcGroup :=
  (parseSsrcGroupInfo rtc groups line).getD groups

/-- The tracks that the lines of a section make. Only video has groups. -/
def tracksOf (type : MediaType) (lines : List String) : List StreamParams :=
  let tracks := createTrackFromSsrcInfo (lines.foldl (readSsrc rtc) [])
  match type with
  | .audio => tracks
  | .video => (lines.foldl (readGroup rtc) []).foldl addSsrcGroup tracks

/-- The section behind some lines. -/
def mediaAfter (media : String) (lines : List String) : String := lines.foldl (sectionAt rtc) media

end Readers

variable {rtc : RtcText} {line media : String} {lines more : List String} {st st' : SdpParse}
variable {type : MediaType} {audio video : List StreamParams}

/-! ## One line -/

/-- A computation that comes to an end has come to one at its first step. -/
theorem exists_of_bind_ok {ε α β : Type} {x : Except ε α} {f : α → Except ε β} {b : β}
    (h : (x >>= f) = .ok b) : ∃ a, x = .ok a ∧ f a = .ok b := by
  cases x with
  | error e => cases h
  | ok a => exact ⟨a, rfl, h⟩

/-- A header says nothing of SSRCs. -/
theorem parseHeader_ssrcs (h : st.parseHeader rtc line = .ok st') :
    (∀ type, st'.infosOf type = st.infosOf type) ∧ st'.videoSsrcGroups = st.videoSsrcGroups := by
  unfold SdpParse.parseHeader at h
  split at h
  · obtain rfl := Except.ok.inj h
    unfold SdpParse.parseBundle
    split
    · exact ⟨fun _ => rfl, rfl⟩
    · exact ⟨fun type => by cases type <;> rfl, rfl⟩
  · split at h
    · unfold SdpParse.parseMedia at h
      split at h
      · obtain ⟨mediaType, -, h⟩ := exists_of_bind_ok h
        split at h
        · obtain rfl := Except.ok.inj h
          exact ⟨fun type => by cases type <;> rfl, rfl⟩
        · split at h
          · obtain rfl := Except.ok.inj h
            exact ⟨fun type => by cases type <;> rfl, rfl⟩
          · obtain rfl := Except.ok.inj h
            exact ⟨fun type => by cases type <;> rfl, rfl⟩
      · cases h
    · obtain rfl := Except.ok.inj h
      exact ⟨fun _ => rfl, rfl⟩

/-- **What a line says of the SSRCs**, in the section it stands in or opens. -/
theorem parseLine_ssrcs (h : st.parseLine rtc line = .ok st') :
    st'.mediaType = sectionAt rtc st.mediaType line ∧
    (∀ type, st'.infosOf type = if sectionAt rtc st.mediaType line = type.mid then
      readSsrc rtc (st.infosOf type) line else st.infosOf type) ∧
    st'.videoSsrcGroups = if sectionAt rtc st.mediaType line = MediaType.video.mid then
      readGroup rtc st.videoSsrcGroups line else st.videoSsrcGroups := by
  have hmedia : st'.mediaType = sectionAt rtc st.mediaType line := by
    rcases parseLine_cases rtc line st with ⟨-, _, h'⟩ | ⟨-, _, h'⟩ | ⟨-, -, st₁, h', hread⟩
    · cases h.symm.trans h'
    · cases h.symm.trans h'
    · obtain rfl := Except.ok.inj (h.symm.trans h')
      exact hread.mediaType
  refine ⟨hmedia, ?_⟩
  rw [← hmedia]
  unfold SdpParse.parseLine at h
  cases hhead : st.parseHeader rtc line with
  | error stop =>
    rw [hhead] at h
    cases h
  | ok st₁ =>
    obtain ⟨hinfos, hgroups⟩ := parseHeader_ssrcs hhead
    rw [hhead] at h
    dsimp only at h
    rw [← hgroups]
    by_cases hin : InSection st₁.mediaType
    · obtain ⟨type, hmid⟩ := inSection_iff.1 hin
      rw [parseSection_of_mid hmid] at h
      cases hread : sectionLine rtc (st₁.tdOf type) (st₁.infosOf type) line with
      | error stop =>
        rw [hread] at h
        cases h
      | ok p =>
        obtain ⟨td, infos⟩ := p
        rw [hread] at h
        obtain rfl := Except.ok.inj h
        obtain ⟨td', -, hread⟩ := exists_of_bind_ok hread
        obtain ⟨infos', hssrc, hread⟩ := exists_of_bind_ok hread
        obtain ⟨-, rfl⟩ := Prod.mk.inj (Except.ok.inj hread)
        have hvalue : readSsrc rtc (st₁.infosOf type) line = infos' := by
          rw [readSsrc, hssrc]
        rw [readAs_mediaType, hmid]
        constructor
        · intro type'
          rw [← hinfos type']
          by_cases heq : type.mid = type'.mid
          · obtain rfl := mid_injective heq
            rw [if_pos rfl, hvalue]
            cases type <;> rfl
          · rw [if_neg heq]
            cases type <;> cases type' <;> first | rfl | exact absurd rfl heq
        · cases type with
          | audio => exact (if_neg (by decide)).symm
          | video => exact (if_pos rfl).symm
    · have hnot : ∀ type : MediaType, ¬ st₁.mediaType = type.mid := fun type h =>
        hin (inSection_iff.2 ⟨type, h⟩)
      rw [parseSection_of_not hin] at h
      obtain rfl := Except.ok.inj h
      exact ⟨fun type => by rw [if_neg (hnot type), hinfos], (if_neg (hnot .video)).symm⟩

/-! ## The lines -/

theorem sectionLines_append : sectionLines rtc type media (lines ++ more) =
    sectionLines rtc type media lines ++
      sectionLines rtc type (mediaAfter rtc media lines) more := by
  induction lines generalizing media with
  | nil => rfl
  | cons line lines ih =>
    rw [List.cons_append, sectionLines, sectionLines, ih, mediaAfter, mediaAfter, List.foldl_cons]
    split <;> rfl

theorem taken_append : Taken rtc media (lines ++ more) ↔
    Taken rtc media lines ∧ Taken rtc (mediaAfter rtc media lines) more := by
  induction lines generalizing media with
  | nil => simp [Taken, mediaAfter]
  | cons line lines ih =>
    rw [List.cons_append, Taken, Taken, ih, mediaAfter, mediaAfter, List.foldl_cons]
    tauto

/-- **What the lines say of the SSRCs**, section by section. -/
theorem parseLines_ssrcs (h : st.parseLines rtc lines = .ok st') :
    (∀ type, st'.infosOf type =
      (sectionLines rtc type st.mediaType lines).foldl (readSsrc rtc) (st.infosOf type)) ∧
    st'.videoSsrcGroups =
      (sectionLines rtc .video st.mediaType lines).foldl (readGroup rtc) st.videoSsrcGroups := by
  induction lines generalizing st with
  | nil =>
    obtain rfl := Except.ok.inj h
    exact ⟨fun _ => rfl, rfl⟩
  | cons line lines ih =>
    rw [SdpParse.parseLines, List.foldlM_cons] at h
    obtain ⟨st₁, hfirst, hrest⟩ := exists_of_bind_ok h
    obtain ⟨hmedia, hinfos, hgroups⟩ := parseLine_ssrcs hfirst
    obtain ⟨hinfos', hgroups'⟩ := ih hrest
    rw [hmedia] at hinfos' hgroups'
    constructor
    · intro type
      rw [hinfos', hinfos, sectionLines]
      split <;> rfl
    · rw [hgroups', hgroups, sectionLines]
      split <;> rfl

/-- No groups make no tracks. -/
theorem foldl_addSsrcGroup_nil (groups : List SsrcGroup) : groups.foldl addSsrcGroup [] = [] := by
  induction groups with
  | nil => rfl
  | cons group groups ih =>
    rw [List.foldl_cons]
    refine Eq.trans ?_ ih
    unfold addSsrcGroup
    split <;> rfl

/-- **The tracks of a text that is taken** are those its sections make. -/
theorem tracks_of_parseLines (h : SdpParse.parseLines rtc {} lines = .ok st) :
    st.audioTracks = tracksOf rtc .audio (sectionLines rtc .audio "" lines) ∧
      st.videoTracks = tracksOf rtc .video (sectionLines rtc .video "" lines) := by
  obtain ⟨hinfos, hgroups⟩ := parseLines_ssrcs h
  have haudio : st.audioSsrcInfo =
      (sectionLines rtc .audio "" lines).foldl (readSsrc rtc) [] := hinfos .audio
  have hvideo : st.videoSsrcInfo =
      (sectionLines rtc .video "" lines).foldl (readSsrc rtc) [] := hinfos .video
  have hgroups' : st.videoSsrcGroups =
      (sectionLines rtc .video "" lines).foldl (readGroup rtc) [] := hgroups
  refine ⟨by rw [SdpParse.audioTracks, haudio]; rfl, ?_⟩
  rw [SdpParse.videoTracks, tracksOf, ← hvideo, ← hgroups']
  split
  · rename_i hnil
    rw [hnil]
    exact (foldl_addSsrcGroup_nil _).symm
  · rfl

/-- **When a text is read as the given tracks.** -/
theorem tracks_read (rtc : RtcText) (lines : List String) (audio video : List StreamParams) :
    (∃ st, SdpParse.parseLines rtc {} lines = .ok st ∧ st.audioTracks = audio ∧
      st.videoTracks = video) ↔
    Taken rtc "" lines ∧ tracksOf rtc .audio (sectionLines rtc .audio "" lines) = audio ∧
      tracksOf rtc .video (sectionLines rtc .video "" lines) = video := by
  constructor
  · rintro ⟨st, h, rfl, rfl⟩
    obtain ⟨haudio, hvideo⟩ := tracks_of_parseLines h
    rcases parseLines_cases rtc lines {} with ⟨-, _, h'⟩ | ⟨-, -, _, h'⟩ | ⟨-, htaken, -⟩
    · cases h.symm.trans h'
    · cases h.symm.trans h'
    · exact ⟨htaken, haudio.symm, hvideo.symm⟩
  · rintro ⟨htaken, rfl, rfl⟩
    rcases parseLines_cases rtc lines {} with ⟨hcut, -⟩ | ⟨-, hnot, -⟩ | ⟨-, -, st, h, -⟩
    · exact absurd hcut (not_cutsShort_of_taken htaken)
    · exact absurd htaken hnot
    · exact ⟨st, h, tracks_of_parseLines h⟩

end Pc

end XrtcServer
