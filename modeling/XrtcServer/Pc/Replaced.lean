import XrtcServer.Pc.Finishes
/-!
# What a refused answer leaves behind

`set_remote_sdp` puts an empty description in place of the remote one before
it reads a line, and returns `-1` with what the lines so far have made of it.
The transports are reached only when all lines are read. So a refusal leaves
everything as it was just where there was no line, or where the remote
description was the refused one already (`remote_kept_iff`).
-/

namespace XrtcServer

namespace Pc

open Base Common XrtcServer.Stream

section Conditions

variable (rtc : RtcText)

/-- **The first line that stops the parse is refused**, behind the section
`media`, and `read` are the lines that were read as headers before it was. -/
inductive RefusedAfter : String → List String → List String → Prop
  | header {media line : String} {lines : List String} :
      RefusedMedia rtc line → RefusedAfter media (line :: lines) []
  | inside {media line : String} {lines : List String} :
      ¬ RefusedMedia rtc line → Refused rtc media line →
      RefusedAfter media (line :: lines) [line]
  | next {media line : String} {lines read : List String} :
      ¬ Short rtc media line → ¬ Refused rtc media line →
      RefusedAfter (sectionAt rtc media line) lines read →
      RefusedAfter media (line :: lines) (line :: read)

/-- What is seen of a description: the contents with their streams, the
groups and the transports. -/
abbrev DescriptionParts : Type :=
  List MediaContentDescription × List { group : ContentGroup // group.contentNames ≠ [] } ×
    List TransportDescription

def SessionDescription.parts (desc : SessionDescription) : DescriptionParts :=
  (desc.contents, desc.contentGroups, desc.transportInfos)

/-- The description of lines that were read as headers, and no further. -/
def headersDescription (read : List String) : SessionDescription :=
  { namedGroups rtc read with contents := read.filterMap (openedContent rtc) }

end Conditions

/-- **The remote side of a peer connection is as it was.** -/
structure SameRemote (pc pc' : PeerConnection) : Prop where
  description : pc'.remoteDesc.map (·.parts) = pc.remoteDesc.map (·.parts)
  iceParams : pc'.transportController.channels.map (fun ch => (ch.transportName, ch.remoteIceParams)) =
    pc.transportController.channels.map fun ch => (ch.transportName, ch.remoteIceParams)
  fingerprints : ∀ name,
    (pc'.transportController.dtlsTransportByName name).map
        (fun dtls => (dtls.remoteFingerprintAlg, dtls.remoteFingerprintValue)) =
      (pc.transportController.dtlsTransportByName name).map
        fun dtls => (dtls.remoteFingerprintAlg, dtls.remoteFingerprintValue)

variable {rtc : RtcText} {line media sdp : String} {lines read : List String} {st : SdpParse}
variable {desc : SessionDescription} {pc : PeerConnection}

/-! ## The lines before a refusal -/

/-- A line that is refused as a header adds nothing, and one that is refused
in its section has been read as a header. -/
theorem parseLine_refused (h : st.parseLine rtc line = .error (.refused, desc)) :
    RefusedMedia rtc line ∧ desc = st.remoteDesc ∨
    ¬ RefusedMedia rtc line ∧ Refused rtc st.mediaType line ∧
      ∃ st', HeaderRead rtc line st st' ∧ desc = st'.remoteDesc := by
  unfold SdpParse.parseLine at h
  rcases parseHeader_cases rtc line st with
    ⟨-, hstop⟩ | ⟨-, hr, hstop⟩ | ⟨hs, hr, st₁, hok, hhead⟩
  · rw [hstop] at h
    cases h
  · rw [hstop] at h
    exact .inl ⟨hr, (Prod.mk.inj (Except.error.inj h)).2.symm⟩
  · rw [hok] at h
    dsimp only at h
    rcases parseSection_cases hhead with ⟨-, -, h'⟩ | ⟨hin, hr', h'⟩ | ⟨-, -, st', h', -⟩
    · rw [h'] at h
      cases h
    · rw [h'] at h
      rw [hhead.mediaType] at hin
      exact .inr ⟨hr, .inr ⟨hs, hin, hr'⟩, st₁, hhead, (Prod.mk.inj (Except.error.inj h)).2.symm⟩
    · rw [h'] at h
      cases h

/-- The parts of a description that a line has been added to. -/
theorem LineRead.parts {sets : MediaType → Prop} {st' : SdpParse}
    (h : LineRead rtc line sets st st') : st'.remoteDesc.parts =
      (st.remoteDesc.contents ++ (openedContent rtc line).toList,
        st.remoteDesc.contentGroups ++ (namedGroup rtc line).toList,
        st.remoteDesc.transportInfos) := by
  rw [SessionDescription.parts, h.contents, h.groups, h.transportInfos]

/-- **A refused parse** has read the headers before the refusal. -/
theorem parseLines_refused (h : st.parseLines rtc lines = .error (.refused, desc)) :
    ∃ read, RefusedAfter rtc st.mediaType lines read ∧ desc.parts =
      (st.remoteDesc.contents ++ read.filterMap (openedContent rtc),
        st.remoteDesc.contentGroups ++ read.filterMap (namedGroup rtc),
        st.remoteDesc.transportInfos) := by
  induction lines generalizing st with
  | nil => cases h
  | cons line lines ih =>
    rw [SdpParse.parseLines, List.foldlM_cons] at h
    rcases parseLine_cases rtc line st with
      ⟨-, desc', hstop⟩ | ⟨-, desc', hstop⟩ | ⟨hs, hr, st₁, hok, hread⟩
    · rw [hstop] at h
      cases h
    · rw [hstop] at h
      obtain rfl : desc' = desc := (Prod.mk.inj (Except.error.inj h)).2
      -- the line is refused as a header, or behind it, in the section it is in
      rcases parseLine_refused hstop with ⟨hr, rfl⟩ | ⟨hr, hrefused, st', hhead, rfl⟩
      · exact ⟨[], .header hr, by simp [SessionDescription.parts]⟩
      · refine ⟨[line], .inside hr hrefused, ?_⟩
        rw [hhead.parts, List.filterMap_cons, List.filterMap_cons]
        cases openedContent rtc line <;> cases namedGroup rtc line <;> rfl
    · rw [hok] at h
      obtain ⟨read, hafter, hparts⟩ := ih h
      rw [hread.mediaType] at hafter
      refine ⟨line :: read, .next hs hr hafter, ?_⟩
      rw [hparts, hread.contents, hread.groups, hread.transportInfos, List.filterMap_cons,
        List.filterMap_cons, List.append_assoc, List.append_assoc]
      cases openedContent rtc line <;> cases namedGroup rtc line <;> rfl

/-- A text is refused in one place. -/
theorem RefusedAfter.unique {read' : List String} (h : RefusedAfter rtc media lines read)
    (h' : RefusedAfter rtc media lines read') : read' = read := by
  induction h generalizing read' with
  | header hr =>
    cases h' with
    | header => rfl
    | inside hnot => exact absurd hr hnot
    | next _ hnot => exact absurd (.inl hr) hnot
  | inside hr hrefused =>
    cases h' with
    | header hr' => exact absurd hr' hr
    | inside => rfl
    | next _ hnot => exact absurd hrefused hnot
  | next _ hnot _ ih =>
    cases h' with
    | header hr => exact absurd (.inl hr) hnot
    | inside _ hrefused => exact absurd hrefused hnot
    | next _ _ hrest => rw [ih hrest]

theorem RefusedAfter.not_taken (h : RefusedAfter rtc media lines read) :
    ¬ CutsShort rtc media lines ∧ ¬ Taken rtc media lines := by
  induction h with
  | header hr =>
    refine ⟨?_, fun htaken => htaken.2.1 (.inl hr)⟩
    rintro (hs | ⟨hnot, -⟩)
    · exact not_refused_of_short hs (.inl hr)
    · exact hnot (.inl hr)
  | inside hr hrefused =>
    refine ⟨?_, fun htaken => htaken.2.1 hrefused⟩
    rintro (hs | ⟨hnot, -⟩)
    · exact not_refused_of_short hs hrefused
    · exact hnot hrefused
  | next hs hr _ ih =>
    refine ⟨?_, fun htaken => ih.2 htaken.2.2⟩
    rintro (hshort | ⟨-, hcut⟩)
    · exact hs hshort
    · exact ih.1 hcut

/-! ## The answer to a refused text -/

/-- **What `-1` means**: there is no line, or one is refused, and then the
remote description is what was read. -/
theorem setRemoteSdp_refused (h : (pc.setRemoteSdp rtc sdp).2 = .ok (-1)) :
    (pc.setRemoteSdp rtc sdp).1 = pc ∧ sdpLines rtc sdp = [] ∨
    ∃ read desc, RefusedAfter rtc "" (sdpLines rtc sdp) read ∧
      desc.parts = (headersDescription rtc read).parts ∧
      (pc.setRemoteSdp rtc sdp).1 = { pc with remoteDesc := some desc } := by
  unfold PeerConnection.setRemoteSdp at h ⊢
  by_cases hnil : sdpLines rtc sdp = []
  · rw [if_pos hnil]
    exact .inl ⟨rfl, hnil⟩
  · rw [if_neg hnil] at h ⊢
    rcases parseLines_cases rtc (sdpLines rtc sdp) {} with
      ⟨-, desc, h'⟩ | ⟨-, -, desc, h'⟩ | ⟨-, -, st, h', -⟩
    · rw [h'] at h
      cases h
    · rw [h']
      obtain ⟨read, hafter, hparts⟩ := parseLines_refused h'
      exact .inr ⟨read, desc, hafter, hparts, rfl⟩
    · -- a text that is read through is answered by the transports
      rw [h'] at h
      dsimp only at h
      cases htc : pc.transportController.setRemoteDescription st.finish with
      | error fault =>
        rw [htc] at h
        cases h
      | ok tc =>
        rw [htc] at h
        exact absurd (Except.ok.inj h) (by decide)

/-- A text with a line to refuse is answered with `-1`. -/
theorem ret_of_refusedAfter (pc : PeerConnection)
    (h : RefusedAfter rtc "" (sdpLines rtc sdp) read) :
    (pc.setRemoteSdp rtc sdp).2 = .ok (-1) := by
  have hne : sdpLines rtc sdp ≠ [] := by
    intro hnil
    rw [hnil] at h
    cases h
  rw [PeerConnection.setRemoteSdp, if_neg hne]
  obtain ⟨hcut, htaken⟩ := h.not_taken
  rcases parseLines_cases rtc (sdpLines rtc sdp) {} with
    ⟨hs, -⟩ | ⟨-, -, desc, h'⟩ | ⟨-, ht, -⟩
  · exact absurd hs hcut
  · rw [h']
  · exact absurd ht htaken

/-- **When `-1` means that nothing has changed.** It does exactly where no
line is refused, or where the remote description was already what the lines
up to the refused one give. -/
theorem remote_kept_iff (rtc : RtcText) (pc : PeerConnection) (sdp : String) :
    ((pc.setRemoteSdp rtc sdp).2 = .ok (-1) → SameRemote pc (pc.setRemoteSdp rtc sdp).1) ↔
      ∀ read, RefusedAfter rtc "" (sdpLines rtc sdp) read →
        pc.remoteDesc.map (·.parts) = some (headersDescription rtc read).parts := by
  constructor
  · intro h read hread
    have hret := ret_of_refusedAfter pc hread
    have hsame := (h hret).description
    rcases setRemoteSdp_refused hret with ⟨-, hnil⟩ | ⟨read', desc, hafter, hparts, heq⟩
    · rw [hnil] at hread
      cases hread
    · obtain rfl := hread.unique hafter
      rw [heq] at hsame
      rw [← hsame, ← hparts]
      rfl
  · intro h hret
    rcases setRemoteSdp_refused hret with ⟨heq, -⟩ | ⟨read, desc, hafter, hparts, heq⟩
    · rw [heq]
      exact ⟨rfl, rfl, fun _ => rfl⟩
    · rw [heq]
      refine ⟨?_, rfl, fun _ => rfl⟩
      rw [h read hafter, ← hparts]
      rfl

/-- `offering`, after an answer with one audio track. -/
def answered : PeerConnection :=
  (offering.setRemoteSdp blankText "m=audio 9 x\na=fingerprint:sha-1 00\na=ssrc:1 cname:c").1

/-- A refused answer takes away the streams of the one before it. -/
theorem refused_drops_streams :
    (answered.remoteStreams "audio").map (·.length) = some 1 ∧
    (answered.setRemoteSdp blankText "m=audio 9").2 = .ok (-1) ∧
    (answered.setRemoteSdp blankText "m=audio 9").1.remoteStreams "audio" = none ∧
    ¬ ((answered.setRemoteSdp blankText "m=audio 9").2 = .ok (-1) →
      SameRemote answered (answered.setRemoteSdp blankText "m=audio 9").1) := by
  have hbefore : answered.remoteDesc.map (·.contents.length) = some 1 ∧
      (answered.remoteStreams "audio").map (·.length) = some 1 := by decide +kernel
  have hafter : (answered.setRemoteSdp blankText "m=audio 9").2 = .ok (-1) ∧
      (answered.setRemoteSdp blankText "m=audio 9").1.remoteStreams "audio" = none ∧
      (answered.setRemoteSdp blankText "m=audio 9").1.remoteDesc.map (·.contents.length) =
        some 0 := by decide +kernel
  refine ⟨hbefore.2, hafter.1, hafter.2.1, fun h => ?_⟩
  have hsame := congrArg (Option.map (·.1.length)) (h hafter.1).description
  rw [Option.map_map, Option.map_map] at hsame
  have hcount := (hafter.2.2.symm.trans hsame).trans hbefore.1
  exact absurd hcount (by decide)

end Pc

end XrtcServer
