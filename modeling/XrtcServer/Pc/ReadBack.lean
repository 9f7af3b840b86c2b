import Mathlib.Data.List.Pairwise
import XrtcServer.Pc.Tracks
/-!
# Tracks that are printed and read

The lines of a track come in items, one for each of its groups and one for
each of its SSRCs. In a section an item is read as it was printed where it
is harmless, and where it is not the parse stops, or leaves the section with
the SSRC half read. So the tracks are read as they were printed exactly
where all are harmless (`readBack_iff`).
-/

namespace XrtcServer

namespace Pc

open Base Common XrtcServer.Stream

/-! ## Lines of a section -/

section Lines

variable {rtc : RtcText} {line media : String} {lines : List String} {type : MediaType}
variable {infos infos' : List SsrcInfo}

/-- The line says of an SSRC what can be read. -/
def Fits (rtc : RtcText) (line : String) : Prop := ¬ ShortSsrc rtc line ∧ ¬ RefusedSsrc rtc line

theorem fits_of_ok (h : parseSsrcInfo rtc infos line = .ok infos') : Fits rtc line := by
  rcases parseSsrcInfo_cases rtc line infos with ⟨-, h'⟩ | ⟨-, h'⟩ | ⟨hs, hr, -⟩
  · cases h.symm.trans h'
  · cases h.symm.trans h'
  · exact ⟨hs, hr⟩

/-- A line that stays in its section is taken there. -/
theorem Stays.taken (h : Stays rtc line) (hfits : Fits rtc line) (media : String) :
    ¬ Short rtc media line ∧ ¬ Refused rtc media line ∧ sectionAt rtc media line = media := by
  obtain ⟨hmedia, htransport, hshort⟩ := h
  have hnot : ¬ isMedia line = true := by simp [hmedia]
  refine ⟨?_, ?_, if_neg hnot⟩
  · rintro (h | ⟨-, -, h | ⟨-, h⟩⟩)
    · exact hnot h.1
    · exact hshort h
    · exact hfits.1 h
  · rintro (h | ⟨-, -, h | ⟨-, h⟩⟩)
    · exact hnot h.1
    · exact htransport h
    · exact hfits.2 h

/-- **A line that is taken in its section stays in it**, or it opens another. -/
theorem isMedia_of_not_stays (hin : InSection media) (h : ¬ Stays rtc line)
    (hshort : ¬ Short rtc media line) (hrefused : ¬ Refused rtc media line) :
    isMedia line = true := by
  by_contra hmedia
  have hsection : sectionAt rtc media line = media := if_neg hmedia
  refine h ⟨by simpa using hmedia, fun htransport => hrefused ?_, fun hfp => hshort ?_⟩
  · exact .inr ⟨fun h => hmedia h.1, hsection.symm ▸ hin, .inl htransport⟩
  · exact .inr ⟨fun h => hmedia h.1, hsection.symm ▸ hin, .inl hfp⟩

theorem stays_lines (type : MediaType) (media : String)
    (h : ∀ line ∈ lines, Stays rtc line ∧ Fits rtc line) :
    Taken rtc media lines ∧ mediaAfter rtc media lines = media ∧
      sectionLines rtc type media lines = if media = type.mid then lines else [] := by
  induction lines with
  | nil => exact ⟨trivial, rfl, by simp [sectionLines]⟩
  | cons line lines ih =>
    obtain ⟨hstays, hfits⟩ := h line List.mem_cons_self
    obtain ⟨hs, hr, hsection⟩ := hstays.taken hfits media
    obtain ⟨htaken, hafter, hlines⟩ := ih fun line hmem => h line (List.mem_cons_of_mem _ hmem)
    refine ⟨⟨hs, hr, hsection.symm ▸ htaken⟩, ?_, ?_⟩
    · rw [mediaAfter, List.foldl_cons, hsection]
      exact hafter
    · rw [sectionLines, hsection, hlines]
      split <;> rfl

/-- A line of a track: where it opens a section, it is none of the two. -/
def TrackLine (rtc : RtcText) (line : String) : Prop :=
  (behind (firstWord rtc line) 2).toList.head? = some 's'

theorem TrackLine.ne_mid (h : TrackLine rtc line) (type : MediaType) :
    behind (firstWord rtc line) 2 ≠ type.mid := by
  intro heq
  rw [TrackLine, heq] at h
  cases type <;> exact absurd h (by decide)

theorem TrackLine.sectionAt_ne (h : TrackLine rtc line) (hmedia : media ≠ type.mid) :
    sectionAt rtc media line ≠ type.mid := by
  unfold sectionAt
  split
  · exact h.ne_mid type
  · exact hmedia

/-- **Lines of tracks do not come back to a section.** -/
theorem trackLines_off (h : ∀ line ∈ lines, TrackLine rtc line) (hmedia : media ≠ type.mid) :
    sectionLines rtc type media lines = [] ∧ mediaAfter rtc media lines ≠ type.mid := by
  induction lines generalizing media with
  | nil => exact ⟨rfl, hmedia⟩
  | cons line lines ih =>
    have hnext := (h line List.mem_cons_self).sectionAt_ne hmedia
    obtain ⟨hnone, hafter⟩ := ih (fun line hmem => h line (List.mem_cons_of_mem _ hmem)) hnext
    rw [sectionLines, if_neg hnext, mediaAfter, List.foldl_cons]
    exact ⟨hnone, hafter⟩

/-- **Lines of tracks that are taken in a section** all stay, or stay up to one
that opens another. -/
theorem stays_or_leaves (hlines : ∀ line ∈ lines, Fits rtc line ∧ TrackLine rtc line)
    (htaken : Taken rtc type.mid lines) : (∀ line ∈ lines, Stays rtc line) ∨
    ∃ before line after, lines = before ++ line :: after ∧ (∀ line ∈ before, Stays rtc line) ∧
      ¬ Stays rtc line ∧ isMedia line = true ∧ ¬ Refused rtc type.mid line ∧
      sectionLines rtc type type.mid lines = before ∧ mediaAfter rtc type.mid lines ≠ type.mid := by
  induction lines with
  | nil => exact .inl fun _ h => absurd h List.not_mem_nil
  | cons line lines ih =>
    obtain ⟨hs, hr, hrest⟩ := htaken
    obtain ⟨hfits, htrack⟩ := hlines line List.mem_cons_self
    have hlines' := fun line hmem => hlines line (List.mem_cons_of_mem _ hmem)
    by_cases hstays : Stays rtc line
    · obtain ⟨-, -, hsection⟩ := hstays.taken hfits type.mid
      rw [hsection] at hrest
      rcases ih hlines' hrest with hall | ⟨before, bad, after, rfl, hbefore, hbad, hmedia, htaken',
        hread, hleft⟩
      · exact .inl (List.forall_mem_cons.2 ⟨hstays, hall⟩)
      · refine .inr ⟨line :: before, bad, after, rfl, List.forall_mem_cons.2 ⟨hstays, hbefore⟩,
          hbad, hmedia, htaken', ?_, ?_⟩
        · rw [sectionLines, hsection, hread, if_pos rfl]
        · rw [mediaAfter, List.foldl_cons, hsection]
          exact hleft
    · have hmedia := isMedia_of_not_stays (inSection_iff.2 ⟨type, rfl⟩) hstays hs hr
      have hnext : sectionAt rtc type.mid line ≠ type.mid := by
        rw [sectionAt, if_pos hmedia]
        exact htrack.ne_mid type
      obtain ⟨hnone, hleft⟩ := trackLines_off (fun line hmem => (hlines' line hmem).2) hnext
      refine .inr ⟨[], line, lines, rfl, fun _ h => absurd h List.not_mem_nil, hstays, hmedia, hr,
        ?_, ?_⟩
      · rw [sectionLines, if_neg hnext, hnone]
      · rw [mediaAfter, List.foldl_cons]
        exact hleft

end Lines

/-! ## The items of a track -/

/-- What a track prints of one of its groups, or of one of its SSRCs. -/
abbrev Item := StreamParams × (SsrcGroup ⊕ UInt32)

/-- The lines of an SSRC. -/
def ssrcLines (track : StreamParams) (ssrc : UInt32) : List String :=
  [addSsrcLine ssrc "cname" track.cname, addSsrcLine ssrc "msid" (track.streamId ++ " " ++ track.id),
    addSsrcLine ssrc "mslabel" track.streamId, addSsrcLine ssrc "label" track.id]

def itemLines : Item → List String
  | (_, .inl group) => [groupLine group]
  | (track, .inr ssrc) => ssrcLines track ssrc

def trackItems (track : StreamParams) : List Item :=
  track.ssrcGroups.map (fun group => (track, .inl group)) ++
    track.ssrcs.map (fun ssrc => (track, .inr ssrc))

/-- What is read of an item. -/
def itemInfos : Item → List SsrcInfo
  | (_, .inl _) => []
  | (track, .inr ssrc) => [⟨ssrc, track.cname, track.streamId, track.id⟩]

def itemGroups : Item → List SsrcGroup
  | (_, .inl group) => [group]
  | (_, .inr _) => []

/-- An item of a track as one is read. -/
def ReadItem : Item → Prop
  | (_, .inl group) => ReadGroup group
  | (track, .inr _) => ReadTrack track

def HarmlessItem : Item → Prop
  | (_, .inl group) => HarmlessSemantics group.semantics
  | (track, .inr _) =>
    HarmlessText track.cname ∧ HarmlessText track.streamId ∧ HarmlessText track.id

variable {rtc : RtcText} {media attr value key : String} {type : MediaType} {infos : List SsrcInfo}
variable {groups : List SsrcGroup} {tracks : List StreamParams} {track : StreamParams}
variable {group : SsrcGroup} {ssrc : UInt32} {item : Item} {items : List Item}

/-- A field behind a colon is read as it is printed. -/
theorem ReadField.dropWhile (h : ReadField value) :
    String.ofList (value.toList.dropWhile (· == ':')) = value := by
  have hkept : value.toList.dropWhile (· == ':') = value.toList := by
    cases htext : value.toList with
    | nil => rfl
    | cons c text =>
      have hc : c ≠ ':' := by
        rintro rfl
        exact h.colon (by rw [htext]; rfl)
      simp [hc]
  rw [hkept, String.ofList_toList]

/-- The value of an `msid`, and its two fields. -/
theorem msid_read (rtc : RtcText) (h : ReadTrack track) : ReadField (track.streamId ++ " " ++ track.id) ∧
    rtc.split (track.streamId ++ " " ++ track.id) ' ' = [track.streamId, track.id] := by
  have htext : (track.streamId ++ " " ++ track.id).toList =
      track.streamId.toList ++ ' ' :: track.id.toList := by
    simp
  refine ⟨⟨?_, ?_⟩, ?_⟩
  · rw [htext, List.mem_append, List.mem_cons]
    rintro (hc | hc | hc)
    · exact h.streamId.newline hc
    · exact absurd hc (by decide)
    · exact h.id.newline hc
  · rw [htext]
    cases hstream : track.streamId.toList with
    | nil => simp
    | cons c text =>
      have hcolon := h.streamId.colon
      rw [hstream] at hcolon
      exact hcolon
  · rw [rtc.split_eq, htext, splitOn_eq_pair.2 ⟨rfl, h.streamWord.blank, h.id.blank⟩]
    simp

theorem isMsid_track (h : ReadTrack track) :
    isMsid rtc (track.streamId ++ " " ++ track.id) = true := by
  rw [isMsid, (msid_read rtc h).2]
  rfl

/-- **What an attribute of a track's SSRC does.** -/
theorem readSsrc_addSsrcLine (hattr : attr ∈ ssrcAttrs) (infos : List SsrcInfo)
    (hmsid : attr = "msid" → isMsid rtc (String.ofList (value.toList.dropWhile (· == ':'))) = true) :
    Fits rtc (addSsrcLine ssrc attr value) ∧
    readSsrc rtc infos (addSsrcLine ssrc attr value) =
      upsert SsrcInfo.ssrcId { ssrcId := ssrc }
        (SsrcInfo.set rtc attr (String.ofList (value.toList.dropWhile (· == ':')))) infos := by
  have hok : parseSsrcInfo rtc infos (addSsrcLine ssrc attr value) = _ :=
    parseSsrcInfo_addSsrcLine hattr infos hmsid
  exact ⟨fits_of_ok hok, by rw [readSsrc, hok]⟩

/-- The lines of an item fit, and are lines of a track. -/
theorem itemLines_fit (h : ReadItem item) :
    ∀ line ∈ itemLines item, Fits rtc line ∧ TrackLine rtc line := by
  obtain ⟨track, group | ssrc⟩ := item
  · intro line hline
    obtain rfl := List.mem_singleton.1 hline
    have hok : parseSsrcInfo rtc [] (groupLine group) = .ok [] := by
      rw [parseSsrcInfo, found_ssrc_groupLine h.named]
      rfl
    refine ⟨fits_of_ok hok, ?_⟩
    rw [TrackLine, firstWord, rtc.split_eq, splitOn_groupLine h.named, List.map_cons,
      List.headD_cons, behind, String.toList_ofList, String.toList_ofList]
    rfl
  · have htrack : ∀ attr value, TrackLine rtc (addSsrcLine ssrc attr value) := by
      intro attr value
      have hfree : ' ' ∉ "a=ssrc:".toList ++ ssrcDigits ssrc := by
        have hdigits : ' ' ∉ ssrcDigits ssrc := notMem_ssrcDigits (by decide)
        rw [List.mem_append, not_or]
        exact ⟨by decide, hdigits⟩
      rw [TrackLine, firstWord, rtc.split_eq, toList_addSsrcLine,
        List.splitOn_append_cons_self_of_not_mem hfree, List.map_cons, List.headD_cons, behind,
        String.toList_ofList, String.toList_ofList]
      rfl
    have hmsid : isMsid rtc (String.ofList
        ((track.streamId ++ " " ++ track.id).toList.dropWhile (· == ':'))) = true := by
      rw [(msid_read rtc h).1.dropWhile]
      exact isMsid_track h
    intro line hline
    simp only [itemLines, ssrcLines, List.mem_cons, List.not_mem_nil, or_false] at hline
    rcases hline with rfl | rfl | rfl | rfl
    · exact ⟨(readSsrc_addSsrcLine (by decide) [] fun h => absurd h (by decide)).1, htrack _ _⟩
    · exact ⟨(readSsrc_addSsrcLine (by decide) [] fun _ => hmsid).1, htrack _ _⟩
    · exact ⟨(readSsrc_addSsrcLine (by decide) [] fun h => absurd h (by decide)).1, htrack _ _⟩
    · exact ⟨(readSsrc_addSsrcLine (by decide) [] fun h => absurd h (by decide)).1, htrack _ _⟩

/-- The first line of an SSRC adds it. -/
theorem readSsrc_cname (h : ReadTrack track) (hnew : ssrc ∉ infos.map (·.ssrcId)) :
    readSsrc rtc infos (addSsrcLine ssrc "cname" track.cname) =
      infos ++ [{ ssrcId := ssrc, cname := track.cname }] := by
  rw [(readSsrc_addSsrcLine (by decide) infos fun h => absurd h (by decide)).2, h.cname.dropWhile,
    upsert_of_notMem hnew]
  rfl

/-- The others change it. -/
theorem upsert_last {f : SsrcInfo → SsrcInfo} {cname streamId trackId : String}
    (hnew : ssrc ∉ infos.map (·.ssrcId)) :
    upsert SsrcInfo.ssrcId { ssrcId := ssrc } f (infos ++ [⟨ssrc, cname, streamId, trackId⟩]) =
      infos ++ [f ⟨ssrc, cname, streamId, trackId⟩] := by
  refine (upsert_append hnew).trans ?_
  rw [upsert, if_pos rfl]

/-- **An item is read as it was printed**, where its SSRC is new. -/
theorem readSsrc_itemLines (h : ReadItem item)
    (hnew : ∀ info ∈ itemInfos item, info.ssrcId ∉ infos.map (·.ssrcId)) :
    (itemLines item).foldl (readSsrc rtc) infos = infos ++ itemInfos item := by
  obtain ⟨track, group | ssrc⟩ := item
  · rw [itemLines, List.foldl_cons, readSsrc_groupLine h.named, itemInfos, List.append_nil]
    rfl
  · have hssrc : ssrc ∉ infos.map (·.ssrcId) := hnew _ (List.mem_singleton.2 rfl)
    have htrack : ReadTrack track := h
    obtain ⟨hmsid, hsplit⟩ := msid_read rtc htrack
    have hset : SsrcInfo.set rtc "msid" (track.streamId ++ " " ++ track.id)
        { ssrcId := ssrc, cname := track.cname } =
          ⟨ssrc, track.cname, track.streamId, track.id⟩ := by
      simp [SsrcInfo.set, hsplit]
    have hother : ∀ attr value info, attr ≠ "cname" → attr ≠ "msid" →
        SsrcInfo.set rtc attr value info = info := by
      intro attr value info hcname hmsid
      rw [SsrcInfo.set, if_neg hcname, if_neg hmsid]
    have hmsidOk : isMsid rtc (String.ofList
        ((track.streamId ++ " " ++ track.id).toList.dropWhile (· == ':'))) = true := by
      rw [hmsid.dropWhile]
      exact isMsid_track htrack
    rw [itemLines, ssrcLines, List.foldl_cons, readSsrc_cname htrack hssrc, List.foldl_cons,
      (readSsrc_addSsrcLine (by decide) _ fun _ => hmsidOk).2, hmsid.dropWhile,
      upsert_last hssrc, hset, List.foldl_cons,
      (readSsrc_addSsrcLine (by decide) _ fun h => absurd h (by decide)).2,
      upsert_last hssrc, hother _ _ _ (by decide) (by decide), List.foldl_cons,
      (readSsrc_addSsrcLine (by decide) _ fun h => absurd h (by decide)).2,
      upsert_last hssrc, hother _ _ _ (by decide) (by decide)]
    rfl

theorem readGroup_itemLines (h : ReadItem item) :
    (itemLines item).foldl (readGroup rtc) groups = groups ++ itemGroups item := by
  obtain ⟨track, group | ssrc⟩ := item
  · exact readGroup_groupLine h.named groups
  · simp only [itemLines, ssrcLines, List.foldl_cons, List.foldl_nil, itemGroups, List.append_nil]
    rw [readGroup_addSsrcLine (by decide), readGroup_addSsrcLine (by decide),
      readGroup_addSsrcLine (by decide), readGroup_addSsrcLine (by decide)]

/-! ## Harmless items, and others -/

/-- A key is found in one of the fields of an `msid`. -/
theorem found_msid (hkey : IsKey key) : found (track.streamId ++ " " ++ track.id) key = true ↔
    found track.streamId key = true ∨ found track.id key = true := by
  have htext : (track.streamId ++ " " ++ track.id).toList =
      track.streamId.toList ++ ' ' :: track.id.toList := by
    simp
  have hblank : ' ' ∉ key.toList := by
    rcases hkey with ⟨hblank, -⟩ | ⟨hblank, -⟩
    · exact hblank
    · exact hblank
  simp only [found, decide_eq_true_eq]
  rw [htext, infix_append_cons_iff hblank]

/-- Fields that are harmless are so together. -/
theorem harmless_msid (hstream : HarmlessText track.streamId) (hid : HarmlessText track.id) :
    HarmlessText (track.streamId ++ " " ++ track.id) := by
  refine ⟨?_, ?_, fun hmedia => ?_⟩
  · rintro (h | h)
    · rcases (found_msid isKey_ufrag).1 h with h | h
      · exact hstream.1 (.inl h)
      · exact hid.1 (.inl h)
    · rcases (found_msid isKey_pwd).1 h with h | h
      · exact hstream.1 (.inr h)
      · exact hid.1 (.inr h)
  · by_contra hkey
    rcases (found_msid isKey_fingerprint).1 (by simpa using hkey) with h | h
    · rw [hstream.2.1] at h
      cases h
    · rw [hid.2.1] at h
      cases h
  · rcases (found_msid isKey_media).1 hmedia with h | h
    · exact (found_msid isKey_bundle).2 (.inl (hstream.2.2 h))
    · exact (found_msid isKey_bundle).2 (.inr (hid.2.2 h))

/-- **A harmless item stays in its section.** -/
theorem stays_itemLines (h : ReadItem item) (hharmless : HarmlessItem item) :
    ∀ line ∈ itemLines item, Stays rtc line := by
  obtain ⟨track, group | ssrc⟩ := item
  · intro line hline
    obtain rfl := List.mem_singleton.1 hline
    exact (stays_groupLine h.named).2 hharmless
  · obtain ⟨hcname, hstream, hid⟩ := hharmless
    intro line hline
    simp only [itemLines, ssrcLines, List.mem_cons, List.not_mem_nil, or_false] at hline
    rcases hline with rfl | rfl | rfl | rfl
    · exact (stays_addSsrcLine (by decide)).2 hcname
    · exact (stays_addSsrcLine (by decide)).2 (harmless_msid hstream hid)
    · exact (stays_addSsrcLine (by decide)).2 hstream
    · exact (stays_addSsrcLine (by decide)).2 hid

/-- The line of an attribute of one word cannot open a section. -/
theorem refused_addSsrcLine (hattr : attr ∈ ssrcAttrs) (hvalue : ' ' ∉ value.toList)
    (hmedia : isMedia (addSsrcLine ssrc attr value) = true) :
    Refused rtc media (addSsrcLine ssrc attr value) := by
  obtain ⟨-, -, hblank, -⟩ := attr_chars hattr
  have hfree : ' ' ∉ "a=ssrc:".toList ++ ssrcDigits ssrc := by
    have hdigits : ' ' ∉ ssrcDigits ssrc := notMem_ssrcDigits (by decide)
    rw [List.mem_append, not_or]
    exact ⟨by decide, hdigits⟩
  have hrest : ' ' ∉ attr.toList ++ ':' :: value.toList := by
    simp [hblank, hvalue]
  refine .inl ⟨hmedia, ?_⟩
  rw [rtc.split_eq, toList_addSsrcLine, List.splitOn_append_cons_self_of_not_mem hfree,
    List.splitOn_eq_singleton hrest]
  exact le_refl 2

/-- **An item that is not harmless leaves its section**, where it is taken:
before its SSRC is read, or with no more than its `cname`. -/
theorem leaves_itemLines (h : ReadItem item) (hharmful : ¬ HarmlessItem item)
    (htaken : Taken rtc type.mid (itemLines item)) :
    mediaAfter rtc type.mid (itemLines item) ≠ type.mid ∧
    (sectionLines rtc type type.mid (itemLines item) = [] ∨ ∃ ssrc, item.2 = .inr ssrc ∧
      sectionLines rtc type type.mid (itemLines item) = [addSsrcLine ssrc "cname" item.1.cname] ∧
      (item.1.streamId ≠ "" ∨ item.1.id ≠ "")) := by
  obtain ⟨track, group | ssrc⟩ := item
  · rcases stays_or_leaves (itemLines_fit h) htaken with hall | ⟨before, bad, after, hlines, -, -, -,
      -, hread, hleft⟩
    · exact absurd ((stays_groupLine h.named).1 (hall _ (List.mem_singleton.2 rfl))) hharmful
    · -- the one line of the group is the one that leaves
      have hlen := congrArg List.length hlines
      simp only [itemLines, List.length_append, List.length_cons, List.length_nil] at hlen
      obtain rfl : before = [] := List.length_eq_zero_iff.1 (by omega)
      exact ⟨hleft, .inl hread⟩
  · rcases stays_or_leaves (itemLines_fit h) htaken with hall | ⟨before, bad, after, hlines, -, -,
      hmedia, htaken', hread, hleft⟩
    · simp only [itemLines, ssrcLines, List.forall_mem_cons] at hall
      obtain ⟨hcname, -, hstream, hid, -⟩ := hall
      exact absurd ⟨(stays_addSsrcLine (by decide)).1 hcname,
        (stays_addSsrcLine (by decide)).1 hstream, (stays_addSsrcLine (by decide)).1 hid⟩ hharmful
    · refine ⟨hleft, ?_⟩
      rw [hread]
      rw [itemLines, ssrcLines] at hlines
      -- which of the four lines it is that leaves
      rcases before with _ | ⟨l₁, _ | ⟨l₂, _ | ⟨l₃, _ | ⟨l₄, before⟩⟩⟩⟩
      · exact .inl rfl
      · simp only [List.cons_append, List.nil_append, List.cons.injEq] at hlines
        obtain ⟨rfl, rfl, -⟩ := hlines
        refine .inr ⟨ssrc, rfl, rfl, ?_⟩
        rw [isMedia_addSsrcLine (by decide), isMedia, Bool.and_eq_true] at hmedia
        rcases (found_msid isKey_media).1 hmedia.2 with hkey | hkey
        · refine .inl fun hempty => ?_
          rw [hempty] at hkey
          exact absurd hkey (by decide)
        · refine .inr fun hempty => ?_
          rw [hempty] at hkey
          exact absurd hkey (by decide)
      · simp only [List.cons_append, List.nil_append, List.cons.injEq] at hlines
        obtain ⟨-, -, rfl, -⟩ := hlines
        exact absurd (refused_addSsrcLine (by decide) h.streamWord.blank hmedia) htaken'
      · simp only [List.cons_append, List.nil_append, List.cons.injEq] at hlines
        obtain ⟨-, -, -, rfl, -⟩ := hlines
        exact absurd (refused_addSsrcLine (by decide) h.id.blank hmedia) htaken'
      · have hlen := congrArg List.length hlines
        simp only [List.length_append, List.length_cons, List.length_nil] at hlen
        omega

/-! ## The items in their order -/

/-- Items that are harmless are taken, and all their lines stay. -/
theorem taken_items (rtc : RtcText) (type : MediaType) (media : String)
    (hread : ∀ item ∈ items, ReadItem item)
    (hharmless : ∀ item ∈ items, HarmlessItem item) :
    Taken rtc media (items.flatMap itemLines) ∧
      mediaAfter rtc media (items.flatMap itemLines) = media ∧
      sectionLines rtc type media (items.flatMap itemLines) =
        if media = type.mid then items.flatMap itemLines else [] := by
  refine stays_lines type media fun line hline => ?_
  obtain ⟨item, hitem, hline⟩ := List.mem_flatMap.1 hline
  exact ⟨stays_itemLines (hread item hitem) (hharmless item hitem) line hline,
    (itemLines_fit (hread item hitem) line hline).1⟩

/-- **What is left of items that are taken**: all are harmless, or what is read
ends at the first that is not. -/
theorem harmless_or_leaves (hread : ∀ item ∈ items, ReadItem item)
    (htaken : Taken rtc type.mid (items.flatMap itemLines)) :
    (∀ item ∈ items, HarmlessItem item) ∨ ∃ before item after part,
      items = before ++ item :: after ∧
      sectionLines rtc type type.mid (items.flatMap itemLines) =
        before.flatMap itemLines ++ part ∧
      (part = [] ∨ ∃ ssrc, item.2 = .inr ssrc ∧
        part = [addSsrcLine ssrc "cname" item.1.cname] ∧
        (item.1.streamId ≠ "" ∨ item.1.id ≠ "")) := by
  induction items with
  | nil => exact .inl fun _ h => absurd h List.not_mem_nil
  | cons item items ih =>
    obtain ⟨hitem, hread⟩ := List.forall_mem_cons.1 hread
    rw [List.flatMap_cons, taken_append] at htaken
    rw [List.flatMap_cons, sectionLines_append]
    by_cases hharmless : HarmlessItem item
    · -- the item is read whole, and the section goes on
      have hstays : ∀ line ∈ itemLines item, Stays rtc line ∧ Fits rtc line := fun line hline =>
        ⟨stays_itemLines hitem hharmless line hline, (itemLines_fit hitem line hline).1⟩
      obtain ⟨-, hafter, hlines⟩ := stays_lines type type.mid hstays
      rw [if_pos rfl] at hlines
      rw [hafter] at htaken
      rw [hlines, hafter]
      rcases ih hread htaken.2 with hall | ⟨before, bad, after, part, rfl, hpart, hbad⟩
      · exact .inl (List.forall_mem_cons.2 ⟨hharmless, hall⟩)
      · refine .inr ⟨item :: before, bad, after, part, rfl, ?_, hbad⟩
        rw [hpart, List.flatMap_cons, List.append_assoc]
    · -- the section is left, and no later line comes back to it
      obtain ⟨hleft, hpart⟩ := leaves_itemLines hitem hharmless htaken.1
      have htrack : ∀ line ∈ items.flatMap itemLines, TrackLine rtc line := by
        intro line hline
        obtain ⟨other, hother, hline⟩ := List.mem_flatMap.1 hline
        exact (itemLines_fit (hread other hother) line hline).2
      rw [(trackLines_off htrack hleft).1, List.append_nil]
      exact .inr ⟨[], item, items, _, rfl, rfl, hpart⟩

/-- **Items are read as they were printed**, where no SSRC comes twice. -/
theorem readSsrc_items (hread : ∀ item ∈ items, ReadItem item)
    (hnodup : ((infos ++ items.flatMap itemInfos).map (·.ssrcId)).Nodup) :
    (items.flatMap itemLines).foldl (readSsrc rtc) infos = infos ++ items.flatMap itemInfos := by
  induction items generalizing infos with
  | nil => exact (List.append_nil _).symm
  | cons item items ih =>
    obtain ⟨hitem, hread⟩ := List.forall_mem_cons.1 hread
    rw [List.flatMap_cons, ← List.append_assoc] at hnodup
    have hnew : ∀ info ∈ itemInfos item, info.ssrcId ∉ infos.map (·.ssrcId) := by
      intro info hinfo hold
      rw [List.append_assoc, List.map_append, List.map_append] at hnodup
      have hmem : info.ssrcId ∈ (itemInfos item).map (·.ssrcId) := List.mem_map_of_mem hinfo
      exact (List.disjoint_of_nodup_append hnodup) hold (List.mem_append_left _ hmem)
    rw [List.flatMap_cons, List.foldl_append, readSsrc_itemLines hitem hnew, ih hread hnodup,
      List.flatMap_cons, List.append_assoc]

theorem readGroup_items (hread : ∀ item ∈ items, ReadItem item) :
    (items.flatMap itemLines).foldl (readGroup rtc) groups =
      groups ++ items.flatMap itemGroups := by
  induction items generalizing groups with
  | nil => exact (List.append_nil _).symm
  | cons item items ih =>
    obtain ⟨hitem, hread⟩ := List.forall_mem_cons.1 hread
    rw [List.flatMap_cons, List.foldl_append, readGroup_itemLines hitem, ih hread,
      List.flatMap_cons, List.append_assoc]

/-! ## The tracks of the items -/

/-- What is read of a track's SSRCs. -/
def trackInfos (track : StreamParams) : List SsrcInfo :=
  track.ssrcs.map fun ssrc => ⟨ssrc, track.cname, track.streamId, track.id⟩

theorem flatMap_itemInfos (tracks : List StreamParams) :
    (tracks.flatMap trackItems).flatMap itemInfos = tracks.flatMap trackInfos := by
  rw [List.flatMap_assoc]
  refine List.flatMap_congr fun track _ => ?_
  have hnone : (track.ssrcGroups.flatMap fun group => itemInfos (track, .inl group)) = [] :=
    List.flatMap_eq_nil_iff.2 fun _ _ => rfl
  rw [trackItems, List.flatMap_append, List.flatMap_map, List.flatMap_map, hnone, List.nil_append,
    trackInfos, List.map_eq_flatMap]
  rfl

theorem flatMap_itemGroups (tracks : List StreamParams) :
    (tracks.flatMap trackItems).flatMap itemGroups = tracks.flatMap (·.ssrcGroups) := by
  rw [List.flatMap_assoc]
  refine List.flatMap_congr fun track _ => ?_
  have hnone : (track.ssrcs.flatMap fun ssrc => itemGroups (track, .inr ssrc)) = [] :=
    List.flatMap_eq_nil_iff.2 fun _ _ => rfl
  rw [trackItems, List.flatMap_append, List.flatMap_map, List.flatMap_map, hnone, List.append_nil]
  exact List.flatMap_singleton' track.ssrcGroups

/-- The SSRCs that are read are those of the tracks. -/
theorem map_trackInfos (tracks : List StreamParams) :
    (tracks.flatMap trackInfos).map (·.ssrcId) = tracks.flatMap (·.ssrcs) := by
  rw [List.map_flatMap]
  refine List.flatMap_congr fun track _ => ?_
  rw [trackInfos, List.map_map]
  exact List.map_id' _

/-- What a printed track is made of. -/
theorem readItem_of_mem (h : Readable tracks) (hitem : item ∈ tracks.flatMap trackItems) :
    ReadItem item ∧ item.1 ∈ tracks ∧ ∀ ssrc, item.2 = .inr ssrc → ssrc ∈ item.1.ssrcs := by
  obtain ⟨track, htrack, hitem⟩ := List.mem_flatMap.1 hitem
  rcases List.mem_append.1 hitem with hitem | hitem
  · obtain ⟨group, hgroup, rfl⟩ := List.mem_map.1 hitem
    exact ⟨(h.read track htrack).groups group hgroup, htrack, fun ssrc heq => by cases heq⟩
  · obtain ⟨ssrc, hssrc, rfl⟩ := List.mem_map.1 hitem
    refine ⟨h.read track htrack, htrack, fun ssrc' heq => ?_⟩
    obtain rfl := Sum.inr.inj heq
    exact hssrc

/-- The first SSRC of a track adds it. -/
theorem addSsrcInfo_new {info : SsrcInfo} (hnew : info.trackId ∉ tracks.map (·.id)) :
    addSsrcInfo tracks info = tracks ++ [extend info (newTrack info)] :=
  upsert_of_notMem hnew

/-- Each further one goes to it. -/
theorem addSsrcInfo_last {info : SsrcInfo} (hnew : info.trackId ∉ tracks.map (·.id))
    (hid : track.id = info.trackId) :
    addSsrcInfo (tracks ++ [track]) info = tracks ++ [extend info track] := by
  refine (upsert_append hnew).trans ?_
  rw [upsert, if_pos hid]
  rfl

/-- The SSRCs of one track make that track. -/
theorem foldl_addSsrcInfo_track (ssrcs more : List UInt32)
    (hnew : track.id ∉ tracks.map (·.id)) :
    (more.map fun ssrc => ⟨ssrc, track.cname, track.streamId, track.id⟩).foldl addSsrcInfo
        (tracks ++ [{ ungrouped track with ssrcs := ssrcs }]) =
      tracks ++ [{ ungrouped track with ssrcs := ssrcs ++ more }] := by
  induction more generalizing ssrcs with
  | nil => rw [List.append_nil]; rfl
  | cons ssrc more ih =>
    have hnext := ih (ssrcs ++ [ssrc])
    rw [List.append_assoc, List.singleton_append] at hnext
    rw [List.map_cons, List.foldl_cons, addSsrcInfo_last hnew rfl]
    exact hnext

/-- **Tracks come back from their SSRCs**, without their groups. -/
theorem createTrack_trackInfos (h : Readable tracks) :
    createTrackFromSsrcInfo (tracks.flatMap trackInfos) = tracks.map ungrouped := by
  obtain ⟨hread, hids, -⟩ := h
  induction tracks using List.reverseRecOn with
  | nil => rfl
  | append_singleton tracks track ih =>
    rw [List.map_append] at hids
    have hnew : track.id ∉ (tracks.map ungrouped).map (·.id) := by
      rw [List.map_map]
      intro hmem
      exact (List.disjoint_of_nodup_append hids) hmem (List.mem_singleton.2 rfl)
    obtain ⟨ssrc, more, hssrcs⟩ := List.exists_cons_of_ne_nil
      (hread track (List.mem_append_right _ (List.mem_singleton.2 rfl))).ssrcs
    have hbefore := ih (fun track hmem => hread track (List.mem_append_left _ hmem))
      (List.nodup_append.1 hids).1
    rw [createTrackFromSsrcInfo] at hbefore ⊢
    rw [List.flatMap_append, List.foldl_append, hbefore, List.flatMap_singleton, trackInfos, hssrcs,
      List.map_cons, List.foldl_cons, addSsrcInfo_new hnew]
    refine (foldl_addSsrcInfo_track [ssrc] more hnew).trans ?_
    rw [List.singleton_append, ← hssrcs, List.map_append]
    rfl

/-- **A track owns the groups that were printed with it**, and no others. -/
theorem ownGroups_flatMap (h : Readable tracks) (hmem : track ∈ tracks) :
    ownGroups (tracks.flatMap (·.ssrcGroups)) track = track.ssrcGroups := by
  obtain ⟨before, after, rfl⟩ := List.append_of_mem hmem
  obtain ⟨hread, -, hssrcs⟩ := h
  have howner : ∀ other ∈ before ++ track :: after, ∀ group ∈ other.ssrcGroups,
      ∃ ssrc ∈ other.ssrcs, group.ssrcs.head? = some ssrc := by
    intro other hother group hgroup
    have hne := ((hread other hother).groups group hgroup).named.ssrcs
    obtain ⟨ssrc, ssrcs, hcons⟩ := List.exists_cons_of_ne_nil hne
    have hhead : group.ssrcs.head? = some ssrc := by rw [hcons]; rfl
    exact ⟨ssrc, (hread other hother).first group hgroup ssrc hhead, hhead⟩
  have hself : ownGroups track.ssrcGroups track = track.ssrcGroups := by
    refine List.filter_eq_self.2 fun group hgroup => ?_
    obtain ⟨ssrc, hssrc, hhead⟩ := howner track hmem group hgroup
    simp [hhead, hssrc]
  have hothers : ∀ others : List StreamParams, (∀ other ∈ others, other ∈ before ++ track :: after ∧
      ∀ ssrc ∈ other.ssrcs, ssrc ∉ track.ssrcs) →
        ownGroups (others.flatMap (·.ssrcGroups)) track = [] := by
    intro others hothers
    refine List.filter_eq_nil_iff.2 fun group hgroup => ?_
    obtain ⟨other, hother, hgroup⟩ := List.mem_flatMap.1 hgroup
    obtain ⟨hmem, hapart⟩ := hothers other hother
    obtain ⟨ssrc, hssrc, hhead⟩ := howner other hmem group hgroup
    simp [hhead, hapart ssrc hssrc]
  rw [List.flatMap_append, List.flatMap_cons] at hssrcs
  obtain ⟨-, hrest, hleft⟩ := List.nodup_append.1 hssrcs
  obtain ⟨-, -, hright⟩ := List.nodup_append.1 hrest
  rw [List.flatMap_append, List.flatMap_cons, ownGroups, List.filter_append, List.filter_append]
  have hbefore := hothers before fun other hother =>
    ⟨List.mem_append_left _ hother, fun ssrc hssrc hown => hleft ssrc
      (List.mem_flatMap.2 ⟨other, hother, hssrc⟩) ssrc (List.mem_append_left _ hown) rfl⟩
  have hafter := hothers after fun other hother =>
    ⟨List.mem_append_right _ (List.mem_cons_of_mem _ hother), fun ssrc hssrc hown =>
      hright ssrc hown ssrc (List.mem_flatMap.2 ⟨other, hother, hssrc⟩) rfl⟩
  rw [ownGroups] at hbefore hafter hself
  rw [hbefore, hafter, hself, List.nil_append, List.append_nil]

/-! ## A section of tracks -/

/-- A line that says nothing of SSRCs. -/
def Silent (line : String) : Prop :=
  found line "a=ssrc:" = false ∧ found line "a=ssrc-group:" = false

theorem foldl_readSsrc_silent {head : List String} (h : ∀ line ∈ head, Silent line) :
    head.foldl (readSsrc rtc) infos = infos := by
  induction head with
  | nil => rfl
  | cons line head ih =>
    obtain ⟨⟨hssrc, -⟩, hrest⟩ := List.forall_mem_cons.1 h
    rw [List.foldl_cons, readSsrc, parseSsrcInfo, hssrc]
    exact ih hrest

theorem foldl_readGroup_silent {head : List String} (h : ∀ line ∈ head, Silent line) :
    head.foldl (readGroup rtc) groups = groups := by
  induction head with
  | nil => rfl
  | cons line head ih =>
    obtain ⟨⟨-, hgroup⟩, hrest⟩ := List.forall_mem_cons.1 h
    rw [List.foldl_cons, readGroup, parseSsrcGroupInfo, hgroup]
    exact ih hrest

/-- The lines of the tracks are those of their items. -/
theorem flatMap_addTrackLines (h : Readable tracks) :
    tracks.flatMap addTrackLines = (tracks.flatMap trackItems).flatMap itemLines := by
  rw [List.flatMap_assoc]
  refine List.flatMap_congr fun track htrack => ?_
  have hgroups : track.ssrcGroups.flatMap addSsrcGroupLine =
      track.ssrcGroups.flatMap fun group => itemLines (track, .inl group) := by
    refine List.flatMap_congr fun group hgroup => ?_
    exact if_neg ((h.read track htrack).groups group hgroup).named.ssrcs
  rw [trackItems, List.flatMap_append, List.flatMap_map, List.flatMap_map, addTrackLines, hgroups]
  rfl

/-- Items are harmless where their tracks are. -/
theorem harmless_trackItems (h : Readable tracks) :
    (∀ item ∈ tracks.flatMap trackItems, HarmlessItem item) ↔
      ∀ track ∈ tracks, HarmlessTrack track := by
  constructor
  · intro hall track htrack
    obtain ⟨ssrc, more, hssrcs⟩ := List.exists_cons_of_ne_nil (h.read track htrack).ssrcs
    have hitem : (track, Sum.inr ssrc) ∈ trackItems track :=
      List.mem_append_right _ (List.mem_map.2 ⟨ssrc, hssrcs ▸ List.mem_cons_self, rfl⟩)
    obtain ⟨hcname, hstream, hid⟩ := hall _ (List.mem_flatMap.2 ⟨track, htrack, hitem⟩)
    refine ⟨hcname, hstream, hid, fun group hgroup => ?_⟩
    have hitem : (track, Sum.inl group) ∈ trackItems track :=
      List.mem_append_left _ (List.mem_map.2 ⟨group, hgroup, rfl⟩)
    exact hall _ (List.mem_flatMap.2 ⟨track, htrack, hitem⟩)
  · intro hall item hitem
    obtain ⟨track, htrack, hitem⟩ := List.mem_flatMap.1 hitem
    have hharmless := hall track htrack
    rcases List.mem_append.1 hitem with hitem | hitem
    · obtain ⟨group, hgroup, rfl⟩ := List.mem_map.1 hitem
      exact hharmless.groups group hgroup
    · obtain ⟨ssrc, -, rfl⟩ := List.mem_map.1 hitem
      exact ⟨hharmless.cname, hharmless.streamId, hharmless.id⟩

/-- What comes last of the tracks is an SSRC. -/
theorem itemInfos_ne_nil {before after : List Item} (h : Readable tracks)
    (heq : tracks.flatMap trackItems = before ++ item :: after) :
    (item :: after).flatMap itemInfos ≠ [] := by
  induction tracks using List.reverseRecOn with
  | nil => exact absurd heq (List.append_ne_nil_of_right_ne_nil _ (List.cons_ne_nil _ _)).symm
  | append_singleton tracks track _ =>
    have hne := (h.read track (List.mem_append_right _ (List.mem_singleton.2 rfl))).ssrcs
    obtain ⟨ssrcs, ssrc, hssrcs⟩ := (List.eq_nil_or_concat track.ssrcs).resolve_left hne
    have hlast := congrArg List.getLast? heq
    rw [List.flatMap_append, List.flatMap_singleton, trackItems, hssrcs, List.concat_eq_append,
      List.map_append, List.map_singleton, ← List.append_assoc, ← List.append_assoc,
      List.getLast?_concat, List.getLast?_append_cons] at hlast
    intro hnil
    exact absurd (List.flatMap_eq_nil_iff.1 hnil _ (List.mem_of_getLast? hlast.symm))
      (List.cons_ne_nil _ _)

/-- An SSRC is in one track. -/
theorem eq_of_mem_ssrcs {other : StreamParams} (h : Readable tracks) (htrack : track ∈ tracks)
    (hother : other ∈ tracks) (hssrc : ssrc ∈ track.ssrcs) (hssrc' : ssrc ∈ other.ssrcs) :
    track = other := by
  have hapart := (List.nodup_flatMap.1 h.ssrcs).2
  have : Std.Symm (Function.onFun List.Disjoint StreamParams.ssrcs) :=
    ⟨fun _ _ => List.disjoint_symm⟩
  by_contra hne
  exact hapart.forall htrack hother hne hssrc hssrc'

/-- A track that is read is one of those that its SSRCs make. -/
theorem exists_tracksOf (type : MediaType) {lines : List String} {made : StreamParams}
    (hmade : made ∈ createTrackFromSsrcInfo (lines.foldl (readSsrc rtc) [])) :
    ∃ track ∈ tracksOf rtc type lines, track.ssrcs = made.ssrcs ∧ track.id = made.id ∧
      track.streamId = made.streamId := by
  cases type with
  | audio => exact ⟨made, hmade, rfl, rfl, rfl⟩
  | video =>
    rw [tracksOf, foldl_addSsrcGroup]
    exact ⟨_, List.mem_map_of_mem hmade, rfl, rfl, rfl⟩

theorem flatMap_ssrcs_tracksOf (rtc : RtcText) (type : MediaType) (lines : List String) :
    (tracksOf rtc type lines).flatMap (·.ssrcs) =
      (createTrackFromSsrcInfo (lines.foldl (readSsrc rtc) [])).flatMap (·.ssrcs) := by
  cases type with
  | audio => rfl
  | video => rw [tracksOf, foldl_addSsrcGroup, List.flatMap_map]

/-- **Harmless tracks are read as they were printed.** -/
theorem tracksOf_addTrackLines {head : List String} (hhead : ∀ line ∈ head, Silent line)
    (h : Readable tracks) (haudio : type = .audio → ∀ track ∈ tracks, track.ssrcGroups = []) :
    tracksOf rtc type (head ++ tracks.flatMap addTrackLines) = tracks := by
  have hread : ∀ item ∈ tracks.flatMap trackItems, ReadItem item := fun item hitem =>
    (readItem_of_mem h hitem).1
  have hnodup : (([] ++ (tracks.flatMap trackItems).flatMap itemInfos).map
      SsrcInfo.ssrcId).Nodup := by
    rw [List.nil_append, flatMap_itemInfos, map_trackInfos]
    exact h.ssrcs
  have hinfos : (head ++ tracks.flatMap addTrackLines).foldl (readSsrc rtc) [] =
      tracks.flatMap trackInfos := by
    rw [List.foldl_append, foldl_readSsrc_silent hhead, flatMap_addTrackLines h,
      readSsrc_items hread hnodup, List.nil_append, flatMap_itemInfos]
  have hgroups : (head ++ tracks.flatMap addTrackLines).foldl (readGroup rtc) [] =
      tracks.flatMap (·.ssrcGroups) := by
    rw [List.foldl_append, foldl_readGroup_silent hhead, flatMap_addTrackLines h,
      readGroup_items hread, List.nil_append, flatMap_itemGroups]
  cases type with
  | audio =>
    rw [tracksOf, hinfos, createTrack_trackInfos h]
    refine (List.map_congr_left fun track htrack => ?_).trans (List.map_id tracks)
    rw [ungrouped, ← haudio rfl track htrack]
    rfl
  | video =>
    rw [tracksOf, hinfos, hgroups, createTrack_trackInfos h, foldl_addSsrcGroup, List.map_map]
    refine (List.map_congr_left fun track htrack => ?_).trans (List.map_id tracks)
    have hown : ownGroups (tracks.flatMap (·.ssrcGroups)) (ungrouped track) = track.ssrcGroups :=
      ownGroups_flatMap h htrack
    dsimp only [Function.comp]
    rw [hown, ungrouped, List.nil_append]
    rfl

/-- **Tracks are read back exactly where all are harmless.** -/
theorem readBack_iff (rtc : RtcText) (type : MediaType) {head : List String}
    (hhead : ∀ line ∈ head, Silent line)
    (h : Readable tracks) (haudio : type = .audio → ∀ track ∈ tracks, track.ssrcGroups = []) :
    (Taken rtc type.mid (tracks.flatMap addTrackLines) ∧
      tracksOf rtc type (head ++
        sectionLines rtc type type.mid (tracks.flatMap addTrackLines)) = tracks) ↔
      ∀ track ∈ tracks, HarmlessTrack track := by
  have hread : ∀ item ∈ tracks.flatMap trackItems, ReadItem item := fun item hitem =>
    (readItem_of_mem h hitem).1
  constructor
  · rintro ⟨htaken, hback⟩
    rw [flatMap_addTrackLines h] at htaken hback
    refine (harmless_trackItems h).1 ?_
    rcases harmless_or_leaves hread htaken with hall | ⟨before, item, after, part, hitems, hpart,
      hbad⟩
    · exact hall
    · -- what is read of the items before the one that leaves
      have hssrcs : ((tracks.flatMap trackItems).flatMap itemInfos).map (·.ssrcId) =
          tracks.flatMap (·.ssrcs) := by
        rw [flatMap_itemInfos, map_trackInfos]
      have hall := h.ssrcs
      rw [← hssrcs, hitems, List.flatMap_append, List.map_append] at hall
      have hbefore : (before.flatMap itemLines).foldl (readSsrc rtc) [] =
          before.flatMap itemInfos := by
        refine readSsrc_items (fun item hmem => hread item ?_) ?_
        · rw [hitems]
          exact List.mem_append_left _ hmem
        · exact (List.nodup_append.1 hall).1
      rw [hpart] at hback
      rcases hbad with rfl | ⟨ssrc, hitem, rfl, hne⟩
      · -- an SSRC that was printed is not read
        have hsame := flatMap_ssrcs_tracksOf rtc type
          (head ++ (before.flatMap itemLines ++ []))
        rw [hback, List.append_nil, List.foldl_append, foldl_readSsrc_silent hhead, hbefore,
          ← hssrcs] at hsame
        have hlen := (perm_createTrack (before.flatMap itemInfos)).length_eq
        rw [← hsame, hitems, List.flatMap_append, List.length_map, List.length_map,
          List.length_append] at hlen
        have hnil := List.length_pos_iff.2 (itemInfos_ne_nil h hitems)
        omega
      · -- its SSRC is in a track without the ids that were printed
        obtain ⟨hprinted, hmem, hown⟩ := readItem_of_mem h
          (hitems ▸ List.mem_append_right _ List.mem_cons_self)
        obtain ⟨track, kind⟩ := item
        obtain rfl : kind = .inr ssrc := hitem
        have hnew : ssrc ∉ (before.flatMap itemInfos).map (·.ssrcId) := by
          intro hold
          refine List.disjoint_of_nodup_append hall hold ?_
          rw [List.flatMap_cons, List.map_append]
          exact List.mem_append_left _ (List.mem_singleton.2 rfl)
        obtain ⟨made, hmade, hssrc, hid, hstream⟩ := exists_track_last (before.flatMap itemInfos)
          { ssrcId := ssrc, cname := track.cname }
        have hlast : (head ++ (before.flatMap itemLines ++
            [addSsrcLine ssrc "cname" track.cname])).foldl (readSsrc rtc) [] =
              before.flatMap itemInfos ++ [{ ssrcId := ssrc, cname := track.cname }] := by
          rw [List.foldl_append, foldl_readSsrc_silent hhead, List.foldl_append, hbefore,
            List.foldl_cons, List.foldl_nil, readSsrc_cname hprinted hnew]
        rw [← hlast] at hmade
        obtain ⟨found, hfound, hssrcs', hid', hstream'⟩ := exists_tracksOf type hmade
        rw [hback] at hfound
        obtain rfl := eq_of_mem_ssrcs h hfound hmem (hssrcs' ▸ hssrc) (hown ssrc rfl)
        rcases hne with hne | hne
        · exact absurd (hstream'.trans hstream) hne
        · exact absurd (hid'.trans hid) hne
  · intro hall
    have hharmless := (harmless_trackItems h).2 hall
    obtain ⟨htaken, -, hlines⟩ := taken_items rtc type type.mid hread hharmless
    rw [← flatMap_addTrackLines h] at htaken hlines
    rw [if_pos rfl] at hlines
    rw [hlines]
    exact ⟨htaken, tracksOf_addTrackLines hhead h haudio⟩

end Pc

end XrtcServer
