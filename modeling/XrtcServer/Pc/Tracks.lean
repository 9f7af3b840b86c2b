import XrtcServer.Pc.TrackLines
/-!
# The tracks of an answer

What the lines of an answer make of SSRCs and tracks is `Readable`: SSRCs
and ids are distinct, and the fields are free of the characters that lines
are cut at. It is what the printed tracks are read back by, and it holds of
every answer that is taken (`readable_remoteStreams`).
-/

namespace XrtcServer

namespace Pc

open Base Common XrtcServer.Stream

/-- A field that ends with its line and starts behind a colon. -/
structure ReadField (value : String) : Prop where
  newline : '\n' ∉ value.toList
  colon : value.toList.head? ≠ some ':'

/-- A word of a line. -/
structure ReadWord (word : String) : Prop where
  newline : '\n' ∉ word.toList
  blank : ' ' ∉ word.toList

/-- An SSRC as one is read. -/
structure ReadInfo (info : SsrcInfo) : Prop where
  cname : ReadField info.cname
  streamId : ReadField info.streamId
  streamWord : ReadWord info.streamId
  trackId : ReadWord info.trackId

/-- A group as one is read. -/
structure ReadGroup (group : SsrcGroup) : Prop where
  named : NamedGroup group
  newline : '\n' ∉ group.semantics.toList

/-- A track as one is read: it has the first SSRC of each of its groups. -/
structure ReadTrack (track : StreamParams) : Prop where
  ssrcs : track.ssrcs ≠ []
  cname : ReadField track.cname
  streamId : ReadField track.streamId
  streamWord : ReadWord track.streamId
  id : ReadWord track.id
  groups : ∀ group ∈ track.ssrcGroups, ReadGroup group
  first : ∀ group ∈ track.ssrcGroups, ∀ ssrc ∈ group.ssrcs.head?, ssrc ∈ track.ssrcs

/-- **Tracks as they are read**: no id and no SSRC comes twice. -/
structure Readable (tracks : List StreamParams) : Prop where
  read : ∀ track ∈ tracks, ReadTrack track
  ids : (tracks.map (·.id)).Nodup
  ssrcs : (tracks.flatMap (·.ssrcs)).Nodup

variable {rtc : RtcText} {line : String} {infos : List SsrcInfo} {info : SsrcInfo}
variable {groups : List SsrcGroup} {tracks : List StreamParams} {track : StreamParams}
variable {value attr : String}

theorem readField_empty : ReadField "" := ⟨by decide, by decide⟩

theorem readWord_empty : ReadWord "" := ⟨by decide, by decide⟩

/-! ## What a line says -/

theorem behind_of_substr {s text : String} {pos : ℕ} (h : substr s pos = .ok text) :
    text = behind s pos := by
  unfold substr at h
  split at h
  · exact (Except.ok.inj h).symm
  · cases h

theorem mem_of_mem_behind {s : String} {pos : ℕ} {c : Char} (h : c ∈ (behind s pos).toList) :
    c ∈ s.toList := by
  rw [behind, String.toList_ofList] at h
  exact List.mem_of_mem_drop h

/-- What is cut off a text by its first separator. -/
theorem tokenizeFirst_eq_some {s first second : String} {c : Char}
    (h : rtc.tokenizeFirst s c = some (first, second)) :
    (∀ a ∈ second.toList, a ∈ s.toList) ∧ second.toList.head? ≠ some c := by
  rw [rtc.tokenizeFirst_eq] at h
  obtain ⟨⟨left, right⟩, hcut, heq⟩ := Option.map_eq_some_iff.1 h
  obtain ⟨-, rfl⟩ := Prod.mk.inj heq
  rw [String.toList_ofList]
  exact cutFirst_eq_some hcut

/-- **What a line does to the SSRCs**: nothing, or it sets an attribute of one. -/
theorem readSsrc_cases (rtc : RtcText) (infos : List SsrcInfo) (line : String) :
    readSsrc rtc infos line = infos ∨ ∃ ssrc attr value,
      readSsrc rtc infos line =
        upsert SsrcInfo.ssrcId { ssrcId := ssrc } (SsrcInfo.set rtc attr value) infos ∧
      (∀ c ∈ value.toList, c ∈ line.toList) ∧ value.toList.head? ≠ some ':' := by
  unfold readSsrc
  split
  · rename_i infos' hok
    unfold parseSsrcInfo at hok
    split at hok
    · obtain ⟨text, htext, hok⟩ := exists_of_bind_ok hok
      obtain rfl := behind_of_substr htext
      split at hok
      · cases hok
      · rename_i field1 field2 hfields
        obtain ⟨number, -, hok⟩ := exists_of_bind_ok hok
        split at hok
        · rename_i ssrc attr value hssrc hattr
          split at hok
          · cases hok
          · obtain rfl := Except.ok.inj hok
            obtain ⟨hmem, hcolon⟩ := tokenizeFirst_eq_some hattr
            refine .inr ⟨ssrc, attr, value, rfl, fun c hc => ?_, hcolon⟩
            exact mem_of_mem_behind ((tokenizeFirst_eq_some hfields).1 c (hmem c hc))
        · cases hok
    · exact .inl (Except.ok.inj hok).symm
  · exact .inl rfl

/-- The two fields of an `msid`, or the one. -/
theorem split_msid {first : String} {rest : List String}
    (h : rtc.split value ' ' = first :: rest) (hrest : rest.length ≤ 1) :
    (∀ c ∈ first.toList, c ∈ value.toList) ∧ ' ' ∉ first.toList ∧
      (value.toList.head? ≠ some ':' → first.toList.head? ≠ some ':') := by
  rw [rtc.split_eq] at h
  obtain ⟨word, words, hwords, rfl, hmap⟩ := List.map_eq_cons_iff.1 h
  have hfree : ' ' ∉ word := not_mem_of_mem_splitOn (hwords ▸ List.mem_cons_self)
  have hstarts : word <+: value.toList := by
    rcases Nat.le_one_iff_eq_zero_or_eq_one.1 hrest with hnil | hone
    · obtain rfl := List.length_eq_zero_iff.1 hnil
      have hjoin : [' '].intercalate (value.toList.splitOn ' ') = value.toList :=
        List.intercalate_splitOn ' '
      rw [hwords, List.map_eq_nil_iff.1 hmap] at hjoin
      rw [← hjoin]
      simp [List.intercalate]
    · obtain ⟨second, rfl⟩ := List.length_eq_one_iff.1 hone
      obtain ⟨word', words', rfl, -, hnil⟩ := List.map_eq_cons_iff.1 hmap
      rw [List.map_eq_nil_iff.1 hnil] at hwords
      rw [(splitOn_eq_pair.1 hwords).1]
      exact List.prefix_append _ _
  rw [String.toList_ofList]
  refine ⟨fun c hc => hstarts.subset hc, hfree, fun hcolon hhead => hcolon ?_⟩
  obtain ⟨text, htext⟩ := hstarts
  cases word with
  | nil => cases hhead
  | cons c word =>
    rw [← htext]
    exact hhead

/-- An attribute that is set is a field of its line. -/
theorem readInfo_set (hinfo : ReadInfo info) (hvalue : ReadField value) :
    ReadInfo (SsrcInfo.set rtc attr value info) := by
  unfold SsrcInfo.set
  split
  · exact { hinfo with cname := hvalue }
  · split
    · split
      · rename_i streamId hsplit
        obtain ⟨hmem, hblank, hcolon⟩ := split_msid hsplit (by decide)
        have hnewline : '\n' ∉ streamId.toList := fun h => hvalue.newline (hmem _ h)
        exact { hinfo with
          streamId := ⟨hnewline, hcolon hvalue.colon⟩, streamWord := ⟨hnewline, hblank⟩ }
      · rename_i streamId trackId hsplit
        obtain ⟨hmem, hblank, hcolon⟩ := split_msid hsplit (le_refl 1)
        have hnewline : '\n' ∉ streamId.toList := fun h => hvalue.newline (hmem _ h)
        rw [rtc.split_eq] at hsplit
        obtain ⟨word, words, hwords, rfl, hmap⟩ := List.map_eq_cons_iff.1 hsplit
        obtain ⟨word', words', rfl, rfl, hnil⟩ := List.map_eq_cons_iff.1 hmap
        rw [List.map_eq_nil_iff.1 hnil] at hwords
        obtain ⟨htext, -, hblank'⟩ := splitOn_eq_pair.1 hwords
        refine { hinfo with
          streamId := ⟨hnewline, hcolon hvalue.colon⟩, streamWord := ⟨hnewline, hblank⟩
          trackId := ⟨?_, ?_⟩ }
        · rw [String.toList_ofList]
          refine fun h => hvalue.newline ?_
          rw [htext]
          exact List.mem_append_right _ (List.mem_cons_of_mem _ h)
        · rw [String.toList_ofList]
          exact hblank'
      · exact hinfo
    · exact hinfo

/-- **The SSRCs stay as they are read**, and distinct. -/
theorem readSsrc_keeps (hline : '\n' ∉ line.toList) (h : ∀ info ∈ infos, ReadInfo info)
    (hnodup : (infos.map (·.ssrcId)).Nodup) :
    (∀ info ∈ readSsrc rtc infos line, ReadInfo info) ∧
      ((readSsrc rtc infos line).map (·.ssrcId)).Nodup := by
  rcases readSsrc_cases rtc infos line with heq | ⟨ssrc, attr, value, heq, hmem, hcolon⟩
  · rw [heq]
    exact ⟨h, hnodup⟩
  · have hvalue : ReadField value := ⟨fun hc => hline (hmem _ hc), hcolon⟩
    have hkey : ∀ info, (SsrcInfo.set rtc attr value info).ssrcId = info.ssrcId := by
      intro info
      unfold SsrcInfo.set
      split
      · rfl
      · split
        · split <;> rfl
        · rfl
    rw [heq]
    refine ⟨fun info hinfo => ?_, nodup_upsert hkey hnodup⟩
    rcases mem_upsert hinfo with hold | rfl | ⟨old, hold, -, rfl⟩
    · exact h info hold
    · exact readInfo_set ⟨readField_empty, readField_empty, readWord_empty, readWord_empty⟩ hvalue
    · exact readInfo_set (h old hold) hvalue

/-- **What a line does to the groups**: nothing, or it adds one. -/
theorem readGroup_cases (rtc : RtcText) (groups : List SsrcGroup) (line : String) :
    readGroup rtc groups line = groups ∨ ∃ group, readGroup rtc groups line = groups ++ [group] ∧
      NamedGroup group ∧ ∀ c ∈ group.semantics.toList, c ∈ line.toList := by
  unfold readGroup parseSsrcGroupInfo
  split
  · split
    · rename_i field id ids hwords
      rw [rtc.split_eq, String.toList_ofList] at hwords
      obtain ⟨word, words, hword, rfl, -⟩ := List.map_eq_cons_iff.1 hwords
      have hmem : word ∈ (line.toList.drop 2).splitOn ' ' := hword ▸ List.mem_cons_self
      dsimp only
      split
      · exact .inl rfl
      · rename_i hne
        cases hssrcs : (id :: ids).mapM rtc.fromString with
        | none => exact .inl rfl
        | some ssrcs =>
          refine .inr ⟨⟨getAttribute rtc (String.ofList word), ssrcs⟩, rfl, ?_⟩
          -- the name is the second field of the first word
          obtain ⟨key, htokens⟩ : ∃ key, rtc.tokenize (String.ofList word) ':' =
              [key, getAttribute rtc (String.ofList word)] := by
            unfold getAttribute at hne ⊢
            split at hne
            · rename_i key value htokens
              exact ⟨key, by rw [htokens]⟩
            · exact absurd rfl hne
          have hvalue : getAttribute rtc (String.ofList word) ∈
              rtc.tokenize (String.ofList word) ':' := by
            rw [htokens]
            simp
          rw [rtc.tokenize_eq, String.toList_ofList] at hvalue
          obtain ⟨field, hfield, heq⟩ := List.mem_map.1 hvalue
          have hsplit := (List.mem_filter.1 hfield).1
          have hchars : (getAttribute rtc (String.ofList word)).toList = field := by
            rw [← heq, String.toList_ofList]
          have hsub : ∀ c ∈ field, c ∈ word := fun c hc => mem_of_mem_splitOn hsplit hc
          refine ⟨⟨hne, ?_, ?_, ?_⟩, fun c hc => ?_⟩
          · rw [hchars]
            exact not_mem_of_mem_splitOn hsplit
          · rw [hchars]
            exact fun h => not_mem_of_mem_splitOn hmem (hsub _ h)
          · rintro rfl
            rw [List.mapM_cons] at hssrcs
            obtain ⟨n, -, hssrcs⟩ := Option.bind_eq_some_iff.1 hssrcs
            obtain ⟨ns, -, hssrcs⟩ := Option.bind_eq_some_iff.1 hssrcs
            cases hssrcs
          · rw [hchars] at hc
            exact List.mem_of_mem_drop (mem_of_mem_splitOn hmem (hsub c hc))
    · exact .inl rfl
  · exact .inl rfl

theorem readGroup_keeps (hline : '\n' ∉ line.toList) (h : ∀ group ∈ groups, ReadGroup group) :
    ∀ group ∈ readGroup rtc groups line, ReadGroup group := by
  rcases readGroup_cases rtc groups line with heq | ⟨group, heq, hnamed, hmem⟩
  · rw [heq]
    exact h
  · rw [heq]
    intro group' hgroup
    rcases List.mem_append.1 hgroup with hold | hnew
    · exact h group' hold
    · rw [List.mem_singleton.1 hnew]
      exact ⟨hnamed, fun hc => hline (hmem _ hc)⟩

/-! ## The tracks of the SSRCs -/

/-- The track of an SSRC that is the first of its id. -/
def newTrack (info : SsrcInfo) : StreamParams := ⟨info.trackId, [], [], "", ""⟩

/-- A track with one more SSRC, and what was read with it. -/
def extend (info : SsrcInfo) (track : StreamParams) : StreamParams :=
  { track with
    cname := info.cname, streamId := info.streamId, ssrcs := track.ssrcs ++ [info.ssrcId] }

theorem addSsrcInfo_eq (tracks : List StreamParams) (info : SsrcInfo) :
    addSsrcInfo tracks info = upsert (·.id) (newTrack info) (extend info) tracks := rfl

/-- **Every SSRC goes to one track**, behind those before it. -/
theorem perm_addSsrcInfo (tracks : List StreamParams) (info : SsrcInfo) :
    ((addSsrcInfo tracks info).flatMap (·.ssrcs)).Perm
      (tracks.flatMap (·.ssrcs) ++ [info.ssrcId]) := by
  rw [addSsrcInfo_eq]
  induction tracks with
  | nil => exact List.Perm.refl _
  | cons track tracks ih =>
    rw [upsert]
    split
    · rw [List.flatMap_cons, List.flatMap_cons, extend, List.append_assoc, List.append_assoc]
      exact List.perm_append_comm.append_left _
    · rw [List.flatMap_cons, List.flatMap_cons, List.append_assoc]
      exact ih.append_left _

theorem perm_createTrack (infos : List SsrcInfo) :
    ((createTrackFromSsrcInfo infos).flatMap (·.ssrcs)).Perm (infos.map (·.ssrcId)) := by
  induction infos using List.reverseRecOn with
  | nil => exact List.Perm.refl _
  | append_singleton infos info ih =>
    rw [createTrackFromSsrcInfo, List.foldl_append, List.map_append]
    exact (perm_addSsrcInfo _ info).trans (ih.append_right _)

/-- The SSRC that comes last is in a track with what was read with it. -/
theorem exists_track_last (infos : List SsrcInfo) (info : SsrcInfo) :
    ∃ track ∈ createTrackFromSsrcInfo (infos ++ [info]), info.ssrcId ∈ track.ssrcs ∧
      track.id = info.trackId ∧ track.streamId = info.streamId := by
  rw [createTrackFromSsrcInfo, List.foldl_append, List.foldl_cons, List.foldl_nil, addSsrcInfo_eq]
  generalize infos.foldl addSsrcInfo [] = tracks
  have hextend : ∀ track : StreamParams, track.id = info.trackId →
      info.ssrcId ∈ (extend info track).ssrcs ∧ (extend info track).id = info.trackId ∧
        (extend info track).streamId = info.streamId := fun track hid =>
    ⟨List.mem_append_right _ (List.mem_singleton.2 rfl), hid, rfl⟩
  induction tracks with
  | nil => exact ⟨_, List.mem_singleton.2 rfl, hextend _ rfl⟩
  | cons track tracks ih =>
    rw [upsert]
    split
    · rename_i hid
      exact ⟨_, List.mem_cons_self, hextend track hid⟩
    · obtain ⟨track', hmem, h⟩ := ih
      exact ⟨track', List.mem_cons_of_mem _ hmem, h⟩

/-- A track without its groups. -/
def ungrouped (track : StreamParams) : StreamParams := { track with ssrcGroups := [] }

theorem readTrack_extend (hinfo : ReadInfo info) (hid : track.id = info.trackId)
    (hgroups : track.ssrcGroups = []) : ReadTrack (extend info track) where
  ssrcs := List.append_ne_nil_of_right_ne_nil _ (List.cons_ne_nil _ _)
  cname := hinfo.cname
  streamId := hinfo.streamId
  streamWord := hinfo.streamWord
  id := by
    have hword := hinfo.trackId
    rw [← hid] at hword
    exact hword
  groups := by
    intro group hgroup
    rw [extend, hgroups] at hgroup
    exact absurd hgroup List.not_mem_nil
  first := by
    intro group hgroup
    rw [extend, hgroups] at hgroup
    exact absurd hgroup List.not_mem_nil

/-- **The tracks of SSRCs as they are read** are tracks as they are read. -/
theorem readable_createTrack (hinfos : ∀ info ∈ infos, ReadInfo info)
    (hnodup : (infos.map (·.ssrcId)).Nodup) : Readable (createTrackFromSsrcInfo infos) ∧
      ∀ track ∈ createTrackFromSsrcInfo infos, track.ssrcGroups = [] := by
  have hall : ((createTrackFromSsrcInfo infos).map (·.id)).Nodup ∧
      ∀ track ∈ createTrackFromSsrcInfo infos, ReadTrack track ∧ track.ssrcGroups = [] := by
    clear hnodup
    induction infos using List.reverseRecOn with
    | nil => exact ⟨List.nodup_nil, fun _ h => absurd h List.not_mem_nil⟩
    | append_singleton infos info ih =>
      obtain ⟨hids, hread⟩ := ih fun info hmem => hinfos info (List.mem_append_left _ hmem)
      have hinfo := hinfos info (List.mem_append_right _ (List.mem_singleton.2 rfl))
      rw [createTrackFromSsrcInfo, List.foldl_append, List.foldl_cons, List.foldl_nil,
        addSsrcInfo_eq]
      refine ⟨nodup_upsert (fun _ => rfl) hids, fun track htrack => ?_⟩
      rcases mem_upsert htrack with hold | rfl | ⟨old, hold, hid, rfl⟩
      · exact hread track hold
      · exact ⟨readTrack_extend hinfo rfl rfl, rfl⟩
      · exact ⟨readTrack_extend hinfo hid (hread old hold).2, (hread old hold).2⟩
  obtain ⟨hids, hread⟩ := hall
  have hssrcs := (perm_createTrack infos).nodup_iff.2 hnodup
  exact ⟨⟨fun track h => (hread track h).1, hids, hssrcs⟩, fun track h => (hread track h).2⟩

/-! ## The groups of the tracks -/

/-- The groups whose first SSRC a track has. -/
def ownGroups (groups : List SsrcGroup) (track : StreamParams) : List SsrcGroup :=
  groups.filter fun group => group.ssrcs.head?.any fun ssrc => decide (ssrc ∈ track.ssrcs)

/-- **Each track gets its own groups**, in the order they come. -/
theorem foldl_addSsrcGroup (groups : List SsrcGroup) (tracks : List StreamParams) :
    groups.foldl addSsrcGroup tracks = tracks.map fun track =>
      { track with ssrcGroups := track.ssrcGroups ++ ownGroups groups track } := by
  induction groups generalizing tracks with
  | nil =>
    simp [ownGroups]
  | cons group groups ih =>
    rw [List.foldl_cons, ih]
    unfold addSsrcGroup
    cases hssrcs : group.ssrcs with
    | nil =>
      simp [ownGroups, hssrcs]
    | cons ssrc ssrcs =>
      rw [List.map_map]
      refine List.map_congr_left fun track _ => ?_
      by_cases hmem : ssrc ∈ track.ssrcs
      · simp [ownGroups, hssrcs, hmem]
      · simp [ownGroups, hssrcs, hmem]

/-- Tracks with the groups that are read stay tracks as they are read. -/
theorem readable_addSsrcGroups (h : Readable tracks) (hnone : ∀ track ∈ tracks, track.ssrcGroups = [])
    (hgroups : ∀ group ∈ groups, ReadGroup group) : Readable (groups.foldl addSsrcGroup tracks) := by
  rw [foldl_addSsrcGroup]
  refine ⟨fun track htrack => ?_, ?_, ?_⟩
  · obtain ⟨old, hold, rfl⟩ := List.mem_map.1 htrack
    have hread := h.read old hold
    rw [hnone old hold, List.nil_append]
    refine { hread with groups := fun group hgroup => ?_, first := fun group hgroup ssrc hssrc => ?_ }
    · exact hgroups group (List.mem_filter.1 hgroup).1
    · have hany := (List.mem_filter.1 hgroup).2
      rw [Option.mem_def] at hssrc
      rw [hssrc] at hany
      simpa using hany
  · rw [List.map_map]
    exact h.ids
  · rw [List.flatMap_map]
    exact h.ssrcs

/-! ## The tracks of an answer -/

variable {lines : List String} {media sdp : String} {type : MediaType} {pc pc' : PeerConnection}
variable {desc : SessionDescription}

theorem mem_of_mem_sectionLines (h : line ∈ sectionLines rtc type media lines) : line ∈ lines := by
  induction lines generalizing media with
  | nil => exact absurd h List.not_mem_nil
  | cons first lines ih =>
    rw [sectionLines] at h
    split at h
    · rcases List.mem_cons.1 h with rfl | h
      · exact List.mem_cons_self
      · exact List.mem_cons_of_mem _ (ih h)
    · exact List.mem_cons_of_mem _ (ih h)

/-- The lines of a text are cut where it has its ends of lines. -/
theorem newline_notMem_sdpLines (h : line ∈ sdpLines rtc sdp) : '\n' ∉ line.toList := by
  have htokens : ∀ field ∈ rtc.tokenize sdp '\n', '\n' ∉ field.toList := by
    intro field hfield
    rw [rtc.tokenize_eq] at hfield
    obtain ⟨text, htext, rfl⟩ := List.mem_map.1 hfield
    rw [String.toList_ofList]
    exact not_mem_of_mem_splitOn (List.mem_filter.1 htext).1
  unfold sdpLines at h
  dsimp only at h
  split at h
  · obtain ⟨field, hfield, rfl⟩ := List.mem_map.1 h
    rw [String.toList_ofList]
    exact fun hc => htokens field hfield ((List.dropLast_sublist _).subset hc)
  · exact htokens line h

/-- **What lines make** is tracks as they are read, in audio without groups. -/
theorem readable_tracksOf (type : MediaType) (hlines : ∀ line ∈ lines, '\n' ∉ line.toList) :
    Readable (tracksOf rtc type lines) ∧
      (type = .audio → ∀ track ∈ tracksOf rtc type lines, track.ssrcGroups = []) := by
  have hinfos : (∀ info ∈ lines.foldl (readSsrc rtc) [], ReadInfo info) ∧
      ((lines.foldl (readSsrc rtc) []).map (·.ssrcId)).Nodup := by
    induction lines using List.reverseRecOn with
    | nil => exact ⟨fun _ h => absurd h List.not_mem_nil, List.nodup_nil⟩
    | append_singleton lines line ih =>
      obtain ⟨hread, hnodup⟩ := ih fun line h => hlines line (List.mem_append_left _ h)
      rw [List.foldl_append]
      exact readSsrc_keeps (hlines line (List.mem_append_right _ (List.mem_singleton.2 rfl)))
        hread hnodup
  have hgroups : ∀ group ∈ lines.foldl (readGroup rtc) [], ReadGroup group := by
    clear hinfos
    induction lines using List.reverseRecOn with
    | nil => exact fun _ h => absurd h List.not_mem_nil
    | append_singleton lines line ih =>
      rw [List.foldl_append]
      exact readGroup_keeps (hlines line (List.mem_append_right _ (List.mem_singleton.2 rfl)))
        (ih fun line h => hlines line (List.mem_append_left _ h))
  obtain ⟨hread, hnone⟩ := readable_createTrack hinfos.1 hinfos.2
  cases type with
  | audio => exact ⟨hread, fun _ => hnone⟩
  | video => exact ⟨readable_addSsrcGroups hread hnone hgroups, fun h => by cases h⟩

theorem addStreams_eq (tracks : List StreamParams) (content : MediaContentDescription) :
    tracks.foldl .addStream content =
      { content with sendStreams := content.sendStreams ++ tracks } := by
  induction tracks generalizing content with
  | nil => simp
  | cons track tracks ih => simp [ih, MediaContentDescription.addStream]

/-- The tracks that are read of a type. -/
def SdpParse.tracksOf (st : SdpParse) : MediaType → List StreamParams
  | .audio => st.audioTracks
  | .video => st.videoTracks

/-- The streams of a type in a description. -/
def streamsOf (desc : SessionDescription) (type : MediaType) : List StreamParams :=
  ((desc.getContent type.mid).map (·.sendStreams)).getD []

/-- A section that a line opens is new. -/
theorem openedContent_cases {content : MediaContentDescription}
    (h : openedContent rtc line = some content) :
    content = audioContentDescription ∨ content = videoContentDescription := by
  unfold openedContent at h
  split at h
  · cases h
  · split at h
    · exact .inl (Option.some.inj h).symm
    · split at h
      · exact .inr (Option.some.inj h).symm
      · cases h

/-- **The streams of what the lines describe** are the tracks of a section. -/
theorem streamsOf_finish {st : SdpParse} (hok : SdpParse.parseLines rtc {} lines = .ok st)
    (hread : LinesRead rtc lines {} st) (type : MediaType) :
    streamsOf st.finish type = [] ∨
      streamsOf st.finish type = tracksOf rtc type (sectionLines rtc type "" lines) := by
  have htracks : tracksOf rtc type (sectionLines rtc type "" lines) = st.tracksOf type := by
    obtain ⟨haudio, hvideo⟩ := tracks_of_parseLines hok
    cases type with
    | audio => exact haudio.symm
    | video => exact hvideo.symm
  rw [htracks, streamsOf, SessionDescription.getContent]
  cases hfind : st.finish.contents.find? fun content => type.mid = content.mid with
  | none => exact .inl rfl
  | some content =>
    right
    have hmid : type.mid = content.mid := by simpa using List.find?_some hfind
    obtain ⟨opened, hopened, rfl⟩ := List.mem_map.1 (List.mem_of_find?_eq_some hfind)
    have hnone : ({} : SdpParse).remoteDesc.contents = [] := rfl
    rw [hread.contents, hnone, List.nil_append] at hopened
    obtain ⟨line, -, hline⟩ := List.mem_filterMap.1 hopened
    rw [mid_withTracks, mid_withTracks] at hmid
    rcases openedContent_cases hline with rfl | rfl
    · obtain rfl : type = .audio := mid_injective hmid
      simp [SdpParse.withTracks, addStreams_eq, audioContentDescription, SdpParse.tracksOf]
    · obtain rfl : type = .video := mid_injective hmid
      simp [SdpParse.withTracks, addStreams_eq, videoContentDescription, SdpParse.tracksOf]

/-- **The streams of an accepted answer** are the tracks of its section. -/
theorem remoteStreams_of_ok (h : pc.setRemoteSdp rtc sdp = (pc', .ok 0)) (type : MediaType) :
    (pc'.remoteStreams type.mid).getD [] = [] ∨ (pc'.remoteStreams type.mid).getD [] =
      tracksOf rtc type (sectionLines rtc type "" (sdpLines rtc sdp)) := by
  obtain ⟨st, tc', hok, hread, -, rfl⟩ := setRemoteSdp_ok h
  exact streamsOf_finish hok hread type

theorem readable_nil : Readable [] :=
  ⟨fun _ h => absurd h List.not_mem_nil, List.nodup_nil, List.nodup_nil⟩

/-- **The streams of an accepted answer are tracks as they are read.** -/
theorem readable_remoteStreams (h : pc.setRemoteSdp rtc sdp = (pc', .ok 0)) (type : MediaType) :
    Readable ((pc'.remoteStreams type.mid).getD []) ∧
      (type = .audio → ∀ track ∈ (pc'.remoteStreams type.mid).getD [], track.ssrcGroups = []) := by
  rcases remoteStreams_of_ok h type with heq | heq
  · rw [heq]
    exact ⟨readable_nil, fun _ _ h => absurd h List.not_mem_nil⟩
  · rw [heq]
    exact readable_tracksOf type fun line hline =>
      newline_notMem_sdpLines (mem_of_mem_sectionLines hline)

/-! ## The streams of any answer -/

/-- No section has tracks yet: they come when all lines are read. -/
def Trackless (desc : SessionDescription) : Prop :=
  ∀ content ∈ desc.contents, content.sendStreams = []

theorem Trackless.streamsOf (h : Trackless desc) (type : MediaType) : streamsOf desc type = [] := by
  unfold Pc.streamsOf SessionDescription.getContent
  cases hfind : desc.contents.find? fun content => type.mid = content.mid with
  | none => rfl
  | some content => exact h content (List.mem_of_find?_eq_some hfind)

/-- A line that is read gives no track to a section. -/
theorem LineRead.trackless {sets : MediaType → Prop} {st st' : SdpParse}
    (h : LineRead rtc line sets st st') (hst : Trackless st.remoteDesc) :
    Trackless st'.remoteDesc := by
  intro content hcontent
  rw [h.contents] at hcontent
  rcases List.mem_append.1 hcontent with hold | hnew
  · exact hst content hold
  · rcases openedContent_cases (Option.mem_toList.1 hnew) with rfl | rfl
    · rfl
    · rfl

/-- Nor does one that stops the parse. -/
theorem trackless_of_parseLine {st : SdpParse} {stop : Stop} (hst : Trackless st.remoteDesc)
    (h : st.parseLine rtc line = .error (stop, desc)) : Trackless desc := by
  unfold SdpParse.parseLine at h
  rcases parseHeader_cases rtc line st with
    ⟨-, hstop⟩ | ⟨-, -, hstop⟩ | ⟨-, -, st₁, hok, hhead⟩
  · rw [hstop] at h
    obtain ⟨-, rfl⟩ := Prod.mk.inj (Except.error.inj h)
    exact hst
  · rw [hstop] at h
    obtain ⟨-, rfl⟩ := Prod.mk.inj (Except.error.inj h)
    exact hst
  · -- what the line opened is kept, whatever stops it in its section
    rw [hok] at h
    dsimp only at h
    split at h
    · obtain ⟨-, rfl⟩ := Prod.mk.inj (Except.error.inj h)
      exact hhead.trackless hst
    · cases h

/-- **A parse that stops leaves no tracks.** -/
theorem trackless_of_parseLines {st : SdpParse} {stop : Stop} (hst : Trackless st.remoteDesc)
    (h : st.parseLines rtc lines = .error (stop, desc)) : Trackless desc := by
  induction lines generalizing st with
  | nil => cases h
  | cons line lines ih =>
    rw [SdpParse.parseLines, List.foldlM_cons] at h
    rcases parseLine_cases rtc line st with
      ⟨-, desc', hstop⟩ | ⟨-, desc', hstop⟩ | ⟨-, -, st₁, hok, hread⟩
    · rw [hstop] at h
      obtain ⟨-, rfl⟩ := Prod.mk.inj (Except.error.inj h)
      exact trackless_of_parseLine hst hstop
    · rw [hstop] at h
      obtain ⟨-, rfl⟩ := Prod.mk.inj (Except.error.inj h)
      exact trackless_of_parseLine hst hstop
    · rw [hok] at h
      exact ih (hread.trackless hst) h

/-- The streams of a peer connection are tracks as they are read. -/
def ReadStreams (pc : PeerConnection) : Prop :=
  ∀ type : MediaType, Readable ((pc.remoteStreams type.mid).getD [])

theorem remoteStreams_eq {desc : SessionDescription} (h : pc.remoteDesc = some desc)
    (type : MediaType) : (pc.remoteStreams type.mid).getD [] = streamsOf desc type := by
  rw [PeerConnection.remoteStreams, h]
  rfl

theorem readStreams_of_trackless (h : pc.remoteDesc = some desc) (hdesc : Trackless desc) :
    ReadStreams pc := by
  intro type
  rw [remoteStreams_eq h, hdesc.streamsOf]
  exact readable_nil

/-- **Whatever becomes of an answer**, the streams stay as they are read. -/
theorem readStreams_setRemoteSdp (h : ReadStreams pc) (sdp : String) :
    ReadStreams (pc.setRemoteSdp rtc sdp).1 := by
  have hinit : Trackless ({} : SdpParse).remoteDesc := fun _ h => absurd h List.not_mem_nil
  unfold PeerConnection.setRemoteSdp
  dsimp only
  split
  · exact h
  · rcases parseLines_cases rtc (sdpLines rtc sdp) {} with
      ⟨-, desc, hstop⟩ | ⟨-, -, desc, hstop⟩ | ⟨-, -, st, hok, hread⟩
    · rw [hstop]
      exact readStreams_of_trackless rfl (trackless_of_parseLines hinit hstop)
    · rw [hstop]
      exact readStreams_of_trackless rfl (trackless_of_parseLines hinit hstop)
    · have hfinished : ∀ pc' : PeerConnection, pc'.remoteDesc = some st.finish →
          ReadStreams pc' := by
        intro pc' hdesc type
        rw [remoteStreams_eq hdesc]
        rcases streamsOf_finish hok hread type with heq | heq
        · rw [heq]
          exact readable_nil
        · rw [heq]
          exact (readable_tracksOf type fun line hline =>
            newline_notMem_sdpLines (mem_of_mem_sectionLines hline)).1
      rw [hok]
      dsimp only
      split
      · exact hfinished _ rfl
      · exact hfinished _ rfl

end Pc

end XrtcServer
