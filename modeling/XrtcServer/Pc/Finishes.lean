import XrtcServer.Pc.Lines
import XrtcServer.Pc.Transports
/-!
# When a remote SDP is answered

`set_remote_sdp` returns `0` or `-1`, or it is left by an exception or
through a null pointer. The first line that stops the parse decides
between the two (`CutsShort`); where no line stops it, the transports
decide, by whether each section they are given has a fingerprint (`Lacks`).
-/

namespace XrtcServer

namespace Pc

open Base Common XrtcServer.Stream

section Conditions

variable (rtc : RtcText)

/-- **The first line that stops the parse is cut short**, of lines behind
the section `media`. -/
def CutsShort (media : String) : List String → Prop
  | [] => False
  | line :: lines => Short rtc media line ∨
      ¬ Refused rtc media line ∧ CutsShort (sectionAt rtc media line) lines

/-- **No line stops the parse.** -/
def Taken (media : String) : List String → Prop
  | [] => True
  | line :: lines => ¬ Short rtc media line ∧ ¬ Refused rtc media line ∧
      Taken (sectionAt rtc media line) lines

/-- The lines of the sections of a type. -/
def sectionLines (type : MediaType) (media : String) : List String → List String
  | [] => []
  | line :: lines =>
    let rest := sectionLines type (sectionAt rtc media line) lines
    if sectionAt rtc media line = type.mid then line :: rest else rest

/-- The groups that the lines name, as a description. -/
def namedGroups (lines : List String) : SessionDescription :=
  { sdpType := .answer, contentGroups := lines.filterMap (namedGroup rtc) }

/-- **A section that is there, and is not bundled away, has a transport on
this side and no fingerprint of its own.** -/
def Lacks (pc : PeerConnection) (lines : List String) : Prop :=
  ∃ type : MediaType, lines.any (opens rtc type) = true ∧
    TransportController.bundledAway (namedGroups rtc lines) type.mid = false ∧
    pc.transportController.dtlsTransportByName type.mid ≠ none ∧
    ∀ line ∈ sectionLines rtc type "" lines, ¬ FingerprintLine line

end Conditions

variable {rtc : RtcText} {line media : String} {lines : List String} {st st' : SdpParse}
variable {type : MediaType} {desc : SessionDescription} {tc tc' : TransportController}
variable {pc : PeerConnection}

/-! ## The lines -/

/-- **What the lines make of the parse**, where none stops it. -/
structure LinesRead (rtc : RtcText) (lines : List String) (st st' : SdpParse) : Prop where
  groups : st'.remoteDesc.contentGroups =
    st.remoteDesc.contentGroups ++ lines.filterMap (namedGroup rtc)
  contents : st'.remoteDesc.contents =
    st.remoteDesc.contents ++ lines.filterMap (openedContent rtc)
  transportInfos : st'.remoteDesc.transportInfos = st.remoteDesc.transportInfos
  mid : ∀ type, (st'.tdOf type).mid =
    if lines.any (opens rtc type) then type.mid else (st.tdOf type).mid
  fingerprint : ∀ type, (st'.tdOf type).identityFingerprint ≠ none ↔
    (st.tdOf type).identityFingerprint ≠ none ∨
      ∃ line ∈ sectionLines rtc type st.mediaType lines, FingerprintLine line
  known : (∀ type fingerprint, (st.tdOf type).identityFingerprint = some fingerprint →
      KnownFingerprint fingerprint) →
    ∀ type fingerprint, (st'.tdOf type).identityFingerprint = some fingerprint →
      KnownFingerprint fingerprint

theorem not_cutsShort_of_taken (h : Taken rtc media lines) : ¬ CutsShort rtc media lines := by
  induction lines generalizing media with
  | nil => exact id
  | cons line lines ih =>
    obtain ⟨hs, -, hrest⟩ := h
    rintro (hshort | ⟨-, hcut⟩)
    · exact hs hshort
    · exact ih hrest hcut

theorem LinesRead.refl : LinesRead rtc [] st st :=
  ⟨by simp, by simp, rfl, fun _ => rfl, fun _ => by simp [sectionLines], id⟩

theorem Fingerprinted.ne_none_iff {set : Prop} {td td' : TransportDescription}
    (h : Fingerprinted set td td') :
    td'.identityFingerprint ≠ none ↔ td.identityFingerprint ≠ none ∨ set := by
  rcases h with ⟨hset, fingerprint, hfp, -⟩ | ⟨hset, hkept⟩
  · simp [hfp, hset]
  · simp [hkept, hset]

/-- A line read before the others. -/
theorem LineRead.trans {st₁ : SdpParse} (h : LineRead rtc line (sets rtc st.mediaType line) st st₁)
    (hrest : LinesRead rtc lines st₁ st') : LinesRead rtc (line :: lines) st st' := by
  refine ⟨?_, ?_, ?_, fun type => ?_, fun type => ?_, fun hknown => hrest.known ?_⟩
  · rw [hrest.groups, h.groups, List.append_assoc, List.filterMap_cons]
    cases namedGroup rtc line <;> rfl
  · rw [hrest.contents, h.contents, List.append_assoc, List.filterMap_cons]
    cases openedContent rtc line <;> rfl
  · rw [hrest.transportInfos, h.transportInfos]
  · rw [hrest.mid, h.mid, List.any_cons]
    by_cases hopens : opens rtc type line = true <;>
      by_cases hany : lines.any (opens rtc type) = true <;> simp [hopens, hany]
  · rw [hrest.fingerprint, (h.fingerprint type).ne_none_iff, h.mediaType, sets, sectionLines]
    by_cases hsection : sectionAt rtc st.mediaType line = type.mid
    · simp only [hsection, if_true, true_and, List.exists_mem_cons_iff]
      tauto
    · simp [hsection]
  · intro type fingerprint hfp
    rcases h.fingerprint type with ⟨-, fingerprint', hfp', hnew⟩ | ⟨-, hkept⟩
    · obtain rfl := Option.some.inj (hfp.symm.trans hfp')
      exact hnew
    · exact hknown type fingerprint (hkept.symm.trans hfp)

/-- **The lines of an SDP** are cut short, refused, or read. -/
theorem parseLines_cases (rtc : RtcText) (lines : List String) (st : SdpParse) :
    (CutsShort rtc st.mediaType lines ∧
      ∃ desc, st.parseLines rtc lines = .error (.outOfRange, desc)) ∨
    (¬ CutsShort rtc st.mediaType lines ∧ ¬ Taken rtc st.mediaType lines ∧
      ∃ desc, st.parseLines rtc lines = .error (.refused, desc)) ∨
    (¬ CutsShort rtc st.mediaType lines ∧ Taken rtc st.mediaType lines ∧
      ∃ st', st.parseLines rtc lines = .ok st' ∧ LinesRead rtc lines st st') := by
  induction lines generalizing st with
  | nil => exact .inr (.inr ⟨id, trivial, st, rfl, .refl⟩)
  | cons line lines ih =>
    rw [SdpParse.parseLines, List.foldlM_cons]
    rcases parseLine_cases rtc line st with
      ⟨hs, desc, h⟩ | ⟨hr, desc, h⟩ | ⟨hs, hr, st₁, h, hread⟩
    · rw [h]
      exact .inl ⟨.inl hs, desc, rfl⟩
    · rw [h]
      refine .inr (.inl ⟨?_, fun htaken => htaken.2.1 hr, desc, rfl⟩)
      rintro (hs | ⟨hnot, -⟩)
      · exact not_refused_of_short hs hr
      · exact hnot hr
    · -- the line is read, and the rest decides
      have hcut : CutsShort rtc st.mediaType (line :: lines) ↔ CutsShort rtc st₁.mediaType lines := by
        rw [hread.mediaType, CutsShort]
        tauto
      have htaken : Taken rtc st.mediaType (line :: lines) ↔ Taken rtc st₁.mediaType lines := by
        rw [hread.mediaType, Taken]
        tauto
      rw [h, hcut, htaken]
      rcases ih st₁ with h' | h' | ⟨hs', ht', st', h', hrest⟩
      · exact .inl h'
      · exact .inr (.inl h')
      · exact .inr (.inr ⟨hs', ht', st', h', hread.trans hrest⟩)

/-! ## The transports -/

/-- The section has a transport on this side and no fingerprint to give it. -/
def Faulty (tc : TransportController) (desc : SessionDescription)
    (content : MediaContentDescription) : Prop :=
  TransportController.bundledAway desc content.mid = false ∧
    tc.dtlsTransportByName content.mid ≠ none ∧
    ∃ td, desc.getTransportInfo content.mid = some td ∧ td.identityFingerprint = none

/-- The same names have a transport. -/
def SameTransports (tc tc' : TransportController) : Prop :=
  ∀ name, tc'.dtlsTransportByName name = none ↔ tc.dtlsTransportByName name = none

theorem sameTransports_setDtlsTransport {name : String} {dtls : DtlsTransport}
    (h : tc.dtlsTransportByName name ≠ none) : SameTransports tc (tc.setDtlsTransport name dtls) := by
  intro other
  by_cases hname : other = name
  · subst hname
    simp [TransportController.setDtlsTransport, h]
  · simp [TransportController.setDtlsTransport, Function.update_of_ne hname]

/-- **One section applied**: a faulty one is not got through. -/
theorem applyContent_cases (tc : TransportController) (desc : SessionDescription)
    (content : MediaContentDescription) :
    (Faulty tc desc content ∧
      ∃ tc', TransportController.applyContent desc tc content = .error (.nullFingerprint, tc')) ∨
    (¬ Faulty tc desc content ∧ ∃ tc',
      TransportController.applyContent desc tc content = .ok tc' ∧ SameTransports tc tc') := by
  unfold TransportController.applyContent Faulty
  by_cases hbundled : TransportController.bundledAway desc content.mid = true
  · rw [if_pos hbundled]
    refine .inr ⟨fun h => ?_, tc, rfl, fun _ => Iff.rfl⟩
    rw [hbundled] at h
    exact Bool.noConfusion h.1
  · rw [if_neg hbundled]
    rw [Bool.not_eq_true] at hbundled
    cases htd : desc.getTransportInfo content.mid with
    | none => exact .inr ⟨by simp, tc, rfl, fun _ => Iff.rfl⟩
    | some td =>
      have hdtls : (tc.setRemoteIceParams content.mid ⟨td.iceUfrag, td.icePwd⟩).dtlsTransportByName =
          tc.dtlsTransportByName := rfl
      simp only [hdtls]
      cases hold : tc.dtlsTransportByName content.mid with
      | none => exact .inr ⟨by simp, _, rfl, fun _ => Iff.rfl⟩
      | some dtls =>
        cases hfp : td.identityFingerprint with
        | none => exact .inl ⟨⟨hbundled, by simp, td, rfl, hfp⟩, _, rfl⟩
        | some fingerprint =>
          refine .inr ⟨by simp [hfp], _, rfl, ?_⟩
          have hthere : (tc.setRemoteIceParams content.mid
              ⟨td.iceUfrag, td.icePwd⟩).dtlsTransportByName content.mid ≠ none := by
            rw [hdtls, hold]
            simp
          exact sameTransports_setDtlsTransport hthere

/-- **The sections applied**, up to a faulty one. -/
theorem applyContents_cases (desc : SessionDescription) (contents : List MediaContentDescription)
    (tc : TransportController) :
    ((∃ content ∈ contents, Faulty tc desc content) ∧ ∃ tc',
      contents.foldlM (TransportController.applyContent desc) tc =
        .error (.nullFingerprint, tc')) ∨
    ((∀ content ∈ contents, ¬ Faulty tc desc content) ∧ ∃ tc',
      contents.foldlM (TransportController.applyContent desc) tc = .ok tc' ∧
      SameTransports tc tc') := by
  induction contents generalizing tc with
  | nil => exact .inr ⟨by simp, tc, rfl, fun _ => Iff.rfl⟩
  | cons content contents ih =>
    rw [List.foldlM_cons]
    rcases applyContent_cases tc desc content with ⟨hfaulty, tc', h⟩ | ⟨hnot, tc₁, h, hsame⟩
    · rw [h]
      exact .inl ⟨⟨content, List.mem_cons_self, hfaulty⟩, tc', rfl⟩
    · have hiff : ∀ content, Faulty tc₁ desc content ↔ Faulty tc desc content := by
        intro content
        rw [Faulty, Faulty, Ne, hsame]
      rw [h]
      rcases ih tc₁ with ⟨⟨other, hmem, hfaulty⟩, tc', h'⟩ | ⟨hnone, tc', h', hsame'⟩
      · exact .inl ⟨⟨other, List.mem_cons_of_mem _ hmem, (hiff other).1 hfaulty⟩, tc', h'⟩
      · refine .inr ⟨fun other hmem hfaulty => ?_, tc', h', fun name => ?_⟩
        swap
        · rw [hsame' name, hsame name]
        rcases List.mem_cons.1 hmem with rfl | hmem
        · exact hnot hfaulty
        · exact hnone other hmem ((hiff other).2 hfaulty)

/-! ## The description that is applied -/

@[simp] theorem mid_withTracks (tracks : List StreamParams) (content : MediaContentDescription) :
    (SdpParse.withTracks type tracks content).mid = content.mid := by
  unfold SdpParse.withTracks
  split
  · exact mid_addStreams tracks content
  · rfl

/-- A section's content is opened by a line of its type. -/
theorem openedContent_eq_some {content : MediaContentDescription}
    (h : openedContent rtc line = some content) :
    ∃ type, opens rtc type line = true ∧ content.mid = type.mid := by
  unfold openedContent at h
  split at h
  · cases h
  · rename_i hmedia
    rw [Bool.not_eq_false] at hmedia
    split at h
    · rename_i haudio
      obtain rfl := Option.some.inj h
      exact ⟨.audio, by simp [opens, hmedia, haudio, MediaType.mid], rfl⟩
    · split at h
      · rename_i hvideo
        obtain rfl := Option.some.inj h
        exact ⟨.video, by simp [opens, hmedia, hvideo, MediaType.mid], rfl⟩
      · cases h

theorem exists_openedContent (h : opens rtc type line = true) :
    ∃ content, openedContent rtc line = some content ∧ content.mid = type.mid := by
  simp only [opens, Bool.and_eq_true, decide_eq_true_eq] at h
  obtain ⟨hmedia, hmid⟩ := h
  cases type with
  | audio => exact ⟨audioContentDescription, by simp [openedContent, hmedia, hmid, MediaType.mid], rfl⟩
  | video => exact ⟨videoContentDescription, by simp [openedContent, hmedia, hmid, MediaType.mid], rfl⟩

/-- The sections of the description are those the lines opened. -/
theorem exists_content_finish (h : LinesRead rtc lines {} st) (type : MediaType) :
    (∃ content ∈ st.finish.contents, content.mid = type.mid) ↔
      lines.any (opens rtc type) = true := by
  have hcontents : st.remoteDesc.contents = lines.filterMap (openedContent rtc) := by
    rw [h.contents]
    rfl
  have hmap : ∀ mid, (∃ content ∈ st.finish.contents, content.mid = mid) ↔
      ∃ content ∈ lines.filterMap (openedContent rtc), content.mid = mid := by
    intro mid
    rw [← hcontents]
    simp [SdpParse.finish, SessionDescription.addTransportDescription]
  rw [hmap, List.any_eq_true]
  constructor
  · rintro ⟨content, hmem, hmid⟩
    obtain ⟨line, hline, hopened⟩ := List.mem_filterMap.1 hmem
    obtain ⟨type', hopens, hmid'⟩ := openedContent_eq_some hopened
    obtain rfl := mid_injective (hmid.symm.trans hmid')
    exact ⟨line, hline, hopens⟩
  · rintro ⟨line, hline, hopens⟩
    obtain ⟨content, hopened, hmid⟩ := exists_openedContent hopens
    exact ⟨content, List.mem_filterMap.2 ⟨line, hline, hopened⟩, hmid⟩

/-- The transport of a section that is there is the one its lines filled in. -/
theorem getTransportInfo_finish (h : LinesRead rtc lines {} st)
    (hopens : lines.any (opens rtc type) = true) :
    st.finish.getTransportInfo type.mid = some (st.tdOf type) := by
  have hinfos : st.finish.transportInfos = [st.tdOf .audio, st.tdOf .video] := by
    have hnone : st.remoteDesc.transportInfos = [] := h.transportInfos
    simp [SdpParse.finish, SessionDescription.addTransportDescription, hnone, SdpParse.tdOf]
  have hmid := h.mid type
  rw [if_pos hopens] at hmid
  rw [SessionDescription.getTransportInfo, hinfos]
  cases type with
  | audio => simp [hmid]
  | video =>
    -- the other transport goes by its own name, or by none
    have hother : (st.tdOf .audio).mid ≠ MediaType.video.mid := by
      rw [h.mid .audio]
      split <;> decide
    simp [hother, hmid]

/-- Bundling is read off the groups. -/
theorem bundledAway_congr (desc desc' : SessionDescription)
    (h : desc.contentGroups = desc'.contentGroups) (mid : String) :
    TransportController.bundledAway desc mid = TransportController.bundledAway desc' mid := by
  obtain ⟨_, _, groups, _⟩ := desc
  obtain ⟨_, _, groups', _⟩ := desc'
  obtain rfl : groups = groups' := h
  rfl

/-- **The sections that have no fingerprint to give** are told from the lines. -/
theorem exists_faulty_iff (pc : PeerConnection) (h : LinesRead rtc lines {} st) :
    (∃ content ∈ st.finish.contents, Faulty pc.transportController st.finish content) ↔
      Lacks rtc pc lines := by
  have hgroups := bundledAway_congr st.finish (namedGroups rtc lines) h.groups
  have hfp : ∀ type, (st.tdOf type).identityFingerprint = none ↔
      ∀ line ∈ sectionLines rtc type "" lines, ¬ FingerprintLine line := by
    intro type
    have hset := h.fingerprint type
    have hnone : (({} : SdpParse).tdOf type).identityFingerprint = none := by cases type <;> rfl
    rw [hnone, not_iff_comm] at hset
    rw [← hset]
    simp
  constructor
  · rintro ⟨content, hmem, hbundled, hdtls, td, htd, hnone⟩
    have htype : ∃ type : MediaType, content.mid = type.mid := ⟨content.type, rfl⟩
    obtain ⟨type, hmid⟩ := htype
    have hopens := (exists_content_finish h type).1 ⟨content, hmem, hmid⟩
    rw [hmid] at hbundled hdtls htd
    rw [getTransportInfo_finish h hopens] at htd
    obtain rfl := Option.some.inj htd
    exact ⟨type, hopens, by rw [← hgroups]; exact hbundled, hdtls, (hfp type).1 hnone⟩
  · rintro ⟨type, hopens, hbundled, hdtls, hnone⟩
    obtain ⟨content, hmem, hmid⟩ := (exists_content_finish h type).2 hopens
    refine ⟨content, hmem, ?_, ?_, st.tdOf type, ?_, (hfp type).2 hnone⟩
    · rw [hmid, hgroups]
      exact hbundled
    · rw [hmid]
      exact hdtls
    · rw [hmid]
      exact getTransportInfo_finish h hopens

/-! ## The answer to an SDP -/

/-- **`set_remote_sdp` returns**, `0` or `-1`. -/
def Finishes (rtc : RtcText) (pc : PeerConnection) (sdp : String) : Prop :=
  ∃ ret, (pc.setRemoteSdp rtc sdp).2 = .ok ret ∧ (ret = 0 ∨ ret = -1)

/-- **When `set_remote_sdp` returns.** It does exactly where no line is cut
short before one is refused, and where, once all lines are taken, no section
that is given to a transport lacks its fingerprint. -/
theorem finishes_iff (rtc : RtcText) (pc : PeerConnection) (sdp : String) :
    Finishes rtc pc sdp ↔ ¬ CutsShort rtc "" (sdpLines rtc sdp) ∧
      (Taken rtc "" (sdpLines rtc sdp) → ¬ Lacks rtc pc (sdpLines rtc sdp)) := by
  unfold Finishes PeerConnection.setRemoteSdp
  by_cases hnil : sdpLines rtc sdp = []
  · rw [if_pos hnil, hnil]
    refine iff_of_true ⟨-1, rfl, .inr rfl⟩ ⟨id, fun _ => ?_⟩
    rintro ⟨type, hopens, -⟩
    exact Bool.noConfusion hopens
  · rw [if_neg hnil]
    rcases parseLines_cases rtc (sdpLines rtc sdp) {} with
      ⟨hs, desc, h⟩ | ⟨hs, ht, desc, h⟩ | ⟨hs, ht, st, h, hread⟩
    · rw [h]
      refine iff_of_false ?_ fun h => h.1 hs
      rintro ⟨ret, hret, -⟩
      cases hret
    · rw [h]
      exact iff_of_true ⟨-1, rfl, .inr rfl⟩ ⟨hs, fun h => absurd h ht⟩
    · rw [h]
      have hlacks := exists_faulty_iff pc hread
      simp only [TransportController.setRemoteDescription]
      rcases applyContents_cases st.finish st.finish.contents pc.transportController with
        ⟨hfaulty, tc', h'⟩ | ⟨hnone, tc', h', -⟩
      · rw [h']
        refine iff_of_false ?_ fun h => h.2 ht (hlacks.1 hfaulty)
        rintro ⟨ret, hret, -⟩
        cases hret
      · rw [h']
        refine iff_of_true ⟨0, rfl, .inl rfl⟩ ⟨hs, fun _ hl => ?_⟩
        obtain ⟨content, hmem, hfaulty⟩ := hlacks.2 hl
        exact hnone content hmem hfaulty

/-- **What an accepted SDP has gone through.** -/
theorem setRemoteSdp_ok {pc' : PeerConnection} {sdp : String}
    (h : pc.setRemoteSdp rtc sdp = (pc', .ok 0)) : ∃ st tc',
    SdpParse.parseLines rtc {} (sdpLines rtc sdp) = .ok st ∧
    LinesRead rtc (sdpLines rtc sdp) {} st ∧
    pc.transportController.setRemoteDescription st.finish = .ok tc' ∧
    pc' = { pc with remoteDesc := some st.finish, transportController := tc' } := by
  unfold PeerConnection.setRemoteSdp at h
  by_cases hnil : sdpLines rtc sdp = []
  · rw [if_pos hnil] at h
    cases h
  · rw [if_neg hnil] at h
    rcases parseLines_cases rtc (sdpLines rtc sdp) {} with
      ⟨-, desc, h'⟩ | ⟨-, -, desc, h'⟩ | ⟨-, -, st, h', hread⟩
    · rw [h'] at h
      cases h
    · rw [h'] at h
      cases h
    · rw [h'] at h
      dsimp only at h
      cases htc : pc.transportController.setRemoteDescription st.finish with
      | error fault =>
        rw [htc] at h
        cases h
      | ok tc' =>
        rw [htc] at h
        exact ⟨st, tc', h', hread, htc, (Prod.mk.inj h).1.symm⟩

/-- **`set_remote_sdp` accepts a text** that has lines, all of them taken, and
lacks no fingerprint. -/
def Accepted (rtc : RtcText) (pc : PeerConnection) (sdp : String) : Prop :=
  sdpLines rtc sdp ≠ [] ∧ Taken rtc "" (sdpLines rtc sdp) ∧ ¬ Lacks rtc pc (sdpLines rtc sdp)

theorem accepted_iff (rtc : RtcText) (pc : PeerConnection) (sdp : String) :
    (∃ pc', pc.setRemoteSdp rtc sdp = (pc', .ok 0)) ↔ Accepted rtc pc sdp := by
  constructor
  · rintro ⟨pc', h⟩
    have hnil : sdpLines rtc sdp ≠ [] := by
      intro hnil
      rw [PeerConnection.setRemoteSdp, if_pos hnil] at h
      cases h
    obtain ⟨st, tc', hok, hread, htc, -⟩ := setRemoteSdp_ok h
    have hlacks : ¬ Lacks rtc pc (sdpLines rtc sdp) := by
      intro hl
      obtain ⟨content, hmem, hfaulty⟩ := (exists_faulty_iff pc hread).2 hl
      rcases applyContents_cases st.finish st.finish.contents pc.transportController with
        ⟨-, tc'', happly⟩ | ⟨hnone, -⟩
      · cases htc.symm.trans happly
      · exact hnone content hmem hfaulty
    rcases parseLines_cases rtc (sdpLines rtc sdp) {} with
      ⟨-, desc, herror⟩ | ⟨-, -, desc, herror⟩ | ⟨-, htaken, -⟩
    · cases hok.symm.trans herror
    · cases hok.symm.trans herror
    · exact ⟨hnil, htaken, hlacks⟩
  · rintro ⟨hnil, htaken, hlacks⟩
    rcases parseLines_cases rtc (sdpLines rtc sdp) {} with
      ⟨hcut, -⟩ | ⟨-, hnot, -⟩ | ⟨-, -, st, hok, hread⟩
    · exact absurd hcut (not_cutsShort_of_taken htaken)
    · exact absurd htaken hnot
    · have hnone := mt (exists_faulty_iff pc hread).1 hlacks
      rcases applyContents_cases st.finish st.finish.contents pc.transportController with
        ⟨⟨content, hmem, hfaulty⟩, -⟩ | ⟨-, tc', happly, -⟩
      · exact absurd ⟨content, hmem, hfaulty⟩ hnone
      · refine ⟨{ pc with remoteDesc := some st.finish, transportController := tc' }, ?_⟩
        rw [PeerConnection.setRemoteSdp, if_neg hnil, hok]
        simp only [TransportController.setRemoteDescription, happly]

/-- A stream's `set_remote_sdp` is that of its peer connection. -/
theorem setRemoteSdp_ops (outside : Surroundings) (s : RtcStream PeerConnection) (sdp : String) :
    (RtcStream.setRemoteSdp (ops rtc outside) s sdp).1 =
      { s with pc := (s.pc.setRemoteSdp rtc sdp).1 } := by
  have hpc : ((ops rtc outside).setRemoteSdp s.pc sdp).1 = (s.pc.setRemoteSdp rtc sdp).1 := by
    unfold ops
    dsimp only
    split <;> (rename_i heq; rw [heq])
  rw [← hpc]
  rfl

/-- The library, with every CRC and every certificate the same. -/
def blankText : RtcText :=
  .documented (.documented (fun _ => 0) (fun _ _ => List.replicate 20 0) length_blankHmac)
    (fun _ => [0]) (by simp)

/-- A host without a network. -/
def blankSurroundings : Surroundings where
  createRandomString := fun n => String.ofList (List.replicate n 'a')
  createRandomString_length := by simp
  createRandomString_chars := by
    intro n c hc
    rw [String.toList_ofList] at hc
    rw [List.eq_of_mem_replicate hc]
    decide
  networks := []
  boundPort := fun _ _ => none

/-- A peer connection that has offered to receive audio and video. -/
def offering : PeerConnection :=
  ((({} : PeerConnection).init (some 1)).createOffer blankText blankSurroundings
    { sendAudio := false, sendVideo := false }).1

/-- An answer without a fingerprint is one failure, and a line with a blank
in front is the other. -/
theorem missing_fingerprint_read :
    ¬ Finishes blankText offering "m=audio 9 x" ∧ ¬ Finishes blankText {} " m=audio 9 x" := by
  have hnull : (offering.setRemoteSdp blankText "m=audio 9 x").2 = .error .nullFingerprint := by
    decide +kernel
  have hshort : (({} : PeerConnection).setRemoteSdp blankText " m=audio 9 x").2 =
      .error .outOfRange := by decide +kernel
  constructor
  · rintro ⟨ret, h, -⟩
    rw [hnull] at h
    cases h
  · rintro ⟨ret, h, -⟩
    rw [hshort] at h
    cases h

end Pc

end XrtcServer
