import XrtcServer.Pc.Finishes
/-!
# What an answer delivers to the transports of an offer

An offer names its transport after the first section that it bundles; an
answer is delivered to the transports of the sections that it does not
bundle away itself. The two agree on a transport exactly where the bundle of
the answer names its section first, or there is none.
-/

namespace XrtcServer

namespace Pc

open Base Common Ice XrtcServer.Stream

/-- A peer connection that was made, started and given its sources. -/
def started (certificate : Option ℕ) (audio video : List StreamParams) : PeerConnection :=
  ((({} : PeerConnection).init certificate).addAudioSource audio).addVideoSource video

/-- The section of a transport, as the description has it. -/
structure Serves (desc : SessionDescription) (name : String) (td : TransportDescription)
    (fingerprint : SSLFingerprint) : Prop where
  info : desc.getTransportInfo name = some td
  ufrag : td.iceUfrag ≠ ""
  pwd : td.icePwd ≠ ""
  fingerprint : td.identityFingerprint = some fingerprint

/-- **The answer has the sections of the offer**, with credentials and a
fingerprint in each. -/
def Complete (offer answer : SessionDescription) : Prop :=
  (∀ mid, (∃ content ∈ answer.contents, content.mid = mid) ↔
    ∃ content ∈ offer.contents, content.mid = mid) ∧
  ∀ content ∈ answer.contents, ∃ td fingerprint, Serves answer content.mid td fingerprint

/-- **The answer has no bundle, or one of all sections**, in any order. -/
def BundlesAll (offer groups : SessionDescription) : Prop :=
  groups.contentGroups = [] ∨ ∃ group, groups.contentGroups = [group] ∧
    group.val.contentNames.Perm (offer.contents.map (·.mid))

/-- **Every transport has received what the answer says of its section.** -/
def Delivered (answer : SessionDescription) (tc : TransportController) : Prop :=
  (∀ ch ∈ tc.channels, ∃ td, answer.getTransportInfo ch.transportName = some td ∧
    ch.remoteIceParams = ⟨td.iceUfrag, td.icePwd⟩) ∧
  ∀ name dtls, tc.dtlsTransportByName name = some dtls →
    ∃ td fingerprint, answer.getTransportInfo name = some td ∧
      td.identityFingerprint = some fingerprint ∧
      dtls.remoteFingerprintAlg = fingerprint.algorithm ∧
      dtls.remoteFingerprintValue = fingerprint.digest

/-- **The transport is the one that the bundle names first.** -/
def Reached (groups : SessionDescription) (name : String) : Prop :=
  groups.contentGroups = [] ∨ groups.getFirstBundleMid = name

variable {rtc : RtcText} {outside : Surroundings} {options : RTCOfferAnswerOptions}
variable {certificate : Option ℕ} {audio video : List StreamParams} {pc pc' : PeerConnection}
variable {sdp text name : String} {lines : List String} {st : SdpParse}
variable {answer groups offer : SessionDescription} {tc tc' : TransportController}

/-! ## The bundle of the answer -/

/-- A group that a line names is a bundle. -/
theorem semantics_bundleGroup {line : String}
    {group : { group : ContentGroup // group.contentNames ≠ [] }}
    (h : bundleGroup rtc line = some group) : group.val.semantics = "BUNDLE" := by
  have hkeep : ∀ (names : List String) (group : ContentGroup),
      (group.addContentNames names).semantics = group.semantics := by
    intro names
    induction names with
    | nil => exact fun _ => rfl
    | cons name names ih =>
      intro group
      rw [ContentGroup.addContentNames, List.foldl_cons]
      refine (ih _).trans ?_
      unfold ContentGroup.addContentName
      split <;> rfl
  unfold bundleGroup at h
  split at h
  · obtain rfl := Option.some.inj h
    exact hkeep _ _
  · cases h

theorem semantics_namedGroups {group : { group : ContentGroup // group.contentNames ≠ [] }}
    (h : group ∈ (namedGroups rtc lines).contentGroups) : group.val.semantics = "BUNDLE" := by
  obtain ⟨line, -, hline⟩ := List.mem_filterMap.1 h
  unfold namedGroup at hline
  split at hline
  · exact semantics_bundleGroup hline
  · cases hline

/-- **A transport is reached where its section is not bundled away.** -/
theorem reached_iff (hbundle : BundlesAll offer (namedGroups rtc lines))
    (hname : name ∈ offer.contents.map (·.mid)) :
    Reached (namedGroups rtc lines) name ↔
      TransportController.bundledAway (namedGroups rtc lines) name = false := by
  unfold Reached
  rcases hbundle with hnone | ⟨group, hgroup, hperm⟩
  · simp [hnone, TransportController.bundledAway, SessionDescription.isBundle,
      SessionDescription.getGroupByName]
  · have hsemantics : group.val.semantics = "BUNDLE" :=
      semantics_namedGroups (by rw [hgroup]; exact List.mem_singleton.2 rfl)
    have hmem : name ∈ group.val.contentNames := hperm.mem_iff.2 hname
    rw [bundledAway_of_group group hgroup hsemantics, getFirstBundleMid_of_group hgroup hsemantics,
      hgroup, List.contains_iff_mem.2 hmem, Bool.true_and, decide_eq_false_iff_not, not_not]
    constructor
    · rintro (h | h)
      · cases h
      · exact h.symm
    · exact fun h => .inr h.symm

/-! ## The two sides -/

/-- Candidates do not change the sections. -/
theorem gathered_mids (desc : SessionDescription) :
    (PeerConnection.gathered outside tc desc).contents.map (·.mid) =
      desc.contents.map (·.mid) := by
  unfold PeerConnection.gathered
  generalize tc.channels.filter _ = channels
  induction channels generalizing desc with
  | nil => rfl
  | cons ch channels ih =>
    rw [List.foldl_cons, ih]
    exact map_updateFirst fun _ => rfl

/-- **What an offer has set up**: the sections it lists, and their transports. -/
theorem offered_of_localDesc
    (hoffer : ((started certificate audio video).createOffer rtc outside options).1.localDesc =
      some offer) :
    offer.contents.map (·.mid) = offeredMids options ∧
      TransportController.Offered certificate (createdNames options)
        ((started certificate audio video).createOffer rtc outside options).1.transportController := by
  by_cases hnone : options.dtlsOn = true ∧ (started certificate audio video).certificate = none
  · rw [PeerConnection.createOffer, if_pos hnone] at hoffer
    cases hoffer
  · refine ⟨?_, createOffer_offered rfl hnone⟩
    rw [PeerConnection.createOffer, if_neg hnone] at hoffer
    rw [← Option.some.inj hoffer, gathered_mids, offerDescription_mids]

theorem mem_offeredMids (h : name ∈ createdNames options) : name ∈ offeredMids options := by
  unfold createdNames at h
  split at h
  · exact List.mem_of_mem_take h
  · exact h

theorem nodup_createdNames : (createdNames options).Nodup := by
  unfold createdNames
  split
  · exact (nodup_offeredMids options).sublist (List.take_sublist _ _)
  · exact nodup_offeredMids options

/-- The fingerprints of an SDP are those the library makes. -/
theorem known_finish (h : LinesRead rtc lines {} st) {td : TransportDescription}
    {fingerprint : SSLFingerprint} (htd : st.finish.getTransportInfo name = some td)
    (hfp : td.identityFingerprint = some fingerprint) : KnownFingerprint fingerprint := by
  have hnone : ∀ type fingerprint, (({} : SdpParse).tdOf type).identityFingerprint =
      some fingerprint → KnownFingerprint fingerprint := by
    intro type fingerprint h
    cases type <;> cases h
  have hinfos : st.finish.transportInfos = [st.tdOf .audio, st.tdOf .video] := by
    have hempty : st.remoteDesc.transportInfos = [] := h.transportInfos
    simp [SdpParse.finish, SessionDescription.addTransportDescription, hempty, SdpParse.tdOf]
  have hmem : td ∈ [st.tdOf .audio, st.tdOf .video] := hinfos ▸ List.mem_of_find?_eq_some htd
  rcases List.mem_cons.1 hmem with rfl | hmem
  · exact h.known hnone .audio fingerprint hfp
  · rw [List.mem_singleton.1 hmem] at hfp
    exact h.known hnone .video fingerprint hfp

/-- A transport with a certificate keeps the fingerprint, and another does not. -/
theorem setRemoteFingerprint_started {fingerprint : SSLFingerprint} (h : KnownFingerprint fingerprint) :
    let dtls := (DtlsTransport.setLocalCertificate { transportName := name }
      certificate).setRemoteFingerprint fingerprint.algorithm fingerprint.digest
    (dtls.remoteFingerprintAlg = fingerprint.algorithm ∧
      dtls.remoteFingerprintValue = fingerprint.digest) ↔ certificate ≠ none := by
  have halg : fingerprint.algorithm ≠ "" := by
    rintro hempty
    have hmem := h.1
    rw [hempty] at hmem
    exact absurd hmem (by decide)
  have hdigest : ¬ [] = fingerprint.digest := fun heq => h.2 heq.symm
  cases certificate with
  | none => simp [DtlsTransport.setLocalCertificate, DtlsTransport.setRemoteFingerprint, halg, halg.symm]
  | some certificate =>
    simp [DtlsTransport.setLocalCertificate, DtlsTransport.setRemoteFingerprint, halg, hdigest]

/-- **What the answer gives the transport of a section.** -/
theorem given_name (hread : LinesRead rtc lines {} st)
    (hoffered : TransportController.Offered certificate (createdNames options) tc)
    (htc : tc.setRemoteDescription st.finish = .ok tc')
    (hmids : offer.contents.map (·.mid) = offeredMids options)
    (hcomplete : Complete offer st.finish) (hbundle : BundlesAll offer (namedGroups rtc lines))
    (hname : name ∈ createdNames options) : ∃ td fingerprint,
      Serves st.finish name td fingerprint ∧ KnownFingerprint fingerprint ∧
      let dtls := DtlsTransport.setLocalCertificate { transportName := name } certificate
      (Reached (namedGroups rtc lines) name ∧
        tc'.getChannel name = (tc.getChannel name).map (TransportController.giveParams td) ∧
        tc'.dtlsTransportByName name =
          some (dtls.setRemoteFingerprint fingerprint.algorithm fingerprint.digest) ∨
      ¬ Reached (namedGroups rtc lines) name ∧ tc'.getChannel name = tc.getChannel name ∧
        tc'.dtlsTransportByName name = some dtls) := by
  have hmem : name ∈ offer.contents.map (·.mid) := hmids ▸ mem_offeredMids hname
  obtain ⟨content, hcontent, hmid⟩ := List.mem_map.1 hmem
  obtain ⟨content', hcontent', hmid'⟩ := (hcomplete.1 name).2 ⟨content, hcontent, hmid⟩
  obtain ⟨td, fingerprint, hserves⟩ := hcomplete.2 content' hcontent'
  rw [hmid'] at hserves
  have hknown := known_finish hread hserves.info hserves.fingerprint
  have halg : fingerprint.algorithm ≠ "" := by
    intro hempty
    have halg := hknown.1
    rw [hempty] at halg
    exact absurd halg (by decide)
  have haway := reached_iff hbundle hmem
  rw [← bundledAway_congr st.finish (namedGroups rtc lines) hread.groups] at haway
  have hdtls := hoffered.dtls name
  rw [if_pos hname] at hdtls
  refine ⟨td, fingerprint, hserves, hknown, ?_⟩
  rcases TransportController.applyContents_ok st.finish.contents htc hserves.info
    hserves.fingerprint halg with ⟨hnot, hchannel, hdtls'⟩ | ⟨hnot, -, hchannel, hdtls'⟩
  · refine .inr ⟨fun hreached => ?_, hchannel, hdtls'.trans hdtls⟩
    rcases hnot with hbundled | hnone
    · rw [haway.1 hreached] at hbundled
      cases hbundled
    · exact hnone content' hcontent' hmid'
  · rw [hdtls] at hdtls'
    exact .inl ⟨haway.2 hnot, hchannel, hdtls'⟩

/-- **When an answer is delivered**: to a transport with a certificate, whose
section the bundle of the answer names first, or that stands without one. -/
theorem answerDelivered_iff (rtc : RtcText) (outside : Surroundings) (options : RTCOfferAnswerOptions)
    (certificate : Option ℕ) (audio video : List StreamParams) (sdp : String)
    (pc pc' : PeerConnection) (offer answer : SessionDescription)
    (hpc : pc = ((started certificate audio video).createOffer rtc outside options).1)
    (hoffer : pc.localDesc = some offer) (hanswer : pc.setRemoteSdp rtc sdp = (pc', .ok 0))
    (hremote : pc'.remoteDesc = some answer) (hcomplete : Complete offer answer)
    (hbundle : BundlesAll offer (namedGroups rtc (sdpLines rtc sdp))) :
    Delivered answer pc'.transportController ↔
      ∀ ch ∈ pc.transportController.channels, certificate ≠ none ∧
        Reached (namedGroups rtc (sdpLines rtc sdp)) ch.transportName := by
  obtain ⟨st, tc', -, hread, htc, rfl⟩ := setRemoteSdp_ok hanswer
  obtain rfl := Option.some.inj hremote
  rw [hpc] at hoffer
  obtain ⟨hmids, hoffered⟩ := offered_of_localDesc hoffer
  rw [← hpc] at hoffered
  have hgiven := fun name (hname : name ∈ createdNames options) =>
    given_name hread hoffered htc hmids hcomplete hbundle hname
  have hnames : tc'.channels.map (·.transportName) = createdNames options :=
    (TransportController.applyContents_names _ htc).trans hoffered.channels
  have hnodup : (tc'.channels.map (·.transportName)).Nodup := hnames ▸ nodup_createdNames
  constructor
  · intro hdelivered ch hch
    have hname : ch.transportName ∈ createdNames options :=
      hoffered.channels ▸ List.mem_map_of_mem hch
    obtain ⟨td, fingerprint, hserves, hknown, hcase⟩ := hgiven _ hname
    have hchannel : pc.transportController.getChannel ch.transportName = some ch :=
      TransportController.getChannel_of_mem (hoffered.channels ▸ nodup_createdNames) hch
    rcases hcase with ⟨hreached, -, hdtls⟩ | ⟨-, hkept, -⟩
    · obtain ⟨td', fingerprint', htd, hfp, hkeeps⟩ := hdelivered.2 _ _ hdtls
      obtain rfl := Option.some.inj (htd.symm.trans hserves.info)
      obtain rfl := Option.some.inj (hfp.symm.trans hserves.fingerprint)
      exact ⟨(setRemoteFingerprint_started hknown).1 hkeeps, hreached⟩
    · -- a transport that is passed over has no user name of the other side
      have hmem := (TransportController.getChannel_eq_some (hkept.trans hchannel)).1
      obtain ⟨td', htd, hparams⟩ := hdelivered.1 ch hmem
      obtain rfl := Option.some.inj (htd.symm.trans hserves.info)
      rw [hoffered.params ch hch] at hparams
      exact absurd (congrArg IceParameters.iceUfrag hparams).symm hserves.ufrag
  · intro hall
    have hreached : ∀ name ∈ createdNames options, certificate ≠ none ∧
        Reached (namedGroups rtc (sdpLines rtc sdp)) name := by
      intro name hname
      rw [← hoffered.channels] at hname
      obtain ⟨ch, hch, rfl⟩ := List.mem_map.1 hname
      exact hall ch hch
    constructor
    · intro ch hch
      have hname : ch.transportName ∈ createdNames options := hnames ▸ List.mem_map_of_mem hch
      obtain ⟨td, fingerprint, hserves, -, hcase⟩ := hgiven _ hname
      rcases hcase with ⟨-, hchannel, -⟩ | ⟨hnot, -⟩
      · rw [TransportController.getChannel_of_mem hnodup hch] at hchannel
        obtain ⟨ch₀, -, heq⟩ := Option.map_eq_some_iff.1 hchannel.symm
        exact ⟨td, hserves.info, by rw [← heq]; rfl⟩
      · exact absurd (hreached _ hname).2 hnot
    · intro name dtls hdtls
      have hname : name ∈ createdNames options := by
        by_contra hother
        have hnone := hoffered.dtls name
        rw [if_neg hother] at hnone
        rcases applyContents_cases st.finish st.finish.contents pc.transportController with
          ⟨-, _, herror⟩ | ⟨-, tc'', hok, hsame⟩
        · cases htc.symm.trans herror
        · obtain rfl := Except.ok.inj (htc.symm.trans hok)
          rw [(hsame name).2 hnone] at hdtls
          cases hdtls
      obtain ⟨td, fingerprint, hserves, hknown, hcase⟩ := hgiven _ hname
      rcases hcase with ⟨-, -, hgive⟩ | ⟨hnot, -⟩
      · obtain rfl := Option.some.inj (hdtls.symm.trans hgive)
        exact ⟨td, fingerprint, hserves.info, hserves.fingerprint,
          (setRemoteFingerprint_started hknown).2 (hreached name hname).1⟩
      · exact absurd (hreached name hname).2 hnot

/-- A section of an answer. -/
def sectionText (mid : String) : String :=
  "m=" ++ mid ++ " 9 x\na=ice-ufrag:u\na=ice-pwd:p\na=fingerprint:sha-1 00\n"

/-- An answer to `offering` that bundles its sections in an order. -/
def answerText (first second : String) : String :=
  "a=group:BUNDLE " ++ first ++ " " ++ second ++ "\n" ++ sectionText "audio" ++ sectionText "video"

def sectionTd (mid : String) : TransportDescription where
  mid := mid
  iceUfrag := "u"
  icePwd := "p"
  identityFingerprint := some ⟨"sha-1", [0]⟩

/-- The description that it is read as. -/
def answerOf (first second : String) : SessionDescription where
  sdpType := .answer
  contents := [audioContentDescription, videoContentDescription]
  contentGroups := [⟨⟨"BUNDLE", [first, second]⟩, List.cons_ne_nil _ _⟩]
  transportInfos := [sectionTd "audio", sectionTd "video"]

/-- What is looked at of an answer's effect. -/
def effectOf (sdp : String) :
    Except Fault ℤ × Option SessionDescription × List (String × IceParameters) :=
  let r := offering.setRemoteSdp blankText sdp
  (r.2, r.1.remoteDesc,
    r.1.transportController.channels.map fun ch => (ch.transportName, ch.remoteIceParams))

theorem of_effectOf {sdp : String} {ret : Except Fault ℤ} {desc : Option SessionDescription}
    {channels : List (String × IceParameters)} (h : effectOf sdp = (ret, desc, channels)) :
    (offering.setRemoteSdp blankText sdp).2 = ret ∧
    (offering.setRemoteSdp blankText sdp).1.remoteDesc = desc ∧
    (offering.setRemoteSdp blankText sdp).1.transportController.channels.map
      (fun ch => (ch.transportName, ch.remoteIceParams)) = channels := by
  obtain ⟨h₁, h₂⟩ := Prod.mk.inj h
  obtain ⟨h₂, h₃⟩ := Prod.mk.inj h₂
  exact ⟨h₁, h₂, h₃⟩

theorem offering_started : offering = ((started (some 1) [] []).createOffer blankText
    blankSurroundings { sendAudio := false, sendVideo := false }).1 := by
  have hpc : ({} : PeerConnection).init (some 1) = started (some 1) [] [] := rfl
  rw [offering, hpc]

theorem offering_mids : ∃ offer, offering.localDesc = some offer ∧
    offer.contents.map (·.mid) = ["audio", "video"] := by
  have hmids : offering.localDesc.map (fun offer => offer.contents.map (·.mid)) =
      some ["audio", "video"] := by decide +kernel
  exact Option.map_eq_some_iff.1 hmids

/-- Either order answers `offering` in all its sections. -/
theorem complete_answerOf {offer : SessionDescription} (first second : String)
    (h : offer.contents.map (·.mid) = ["audio", "video"]) :
    Complete offer (answerOf first second) := by
  constructor
  · intro mid
    have hoffer : (∃ content ∈ offer.contents, content.mid = mid) ↔ mid ∈ ["audio", "video"] := by
      rw [← h, List.mem_map]
    rw [hoffer]
    simp [answerOf, MediaContentDescription.mid, audioContentDescription, videoContentDescription,
      MediaType.mid, eq_comm]
  · intro content hcontent
    rcases List.mem_cons.1 hcontent with rfl | hcontent
    · exact ⟨sectionTd "audio", _, rfl, by decide, by decide, rfl⟩
    · rw [List.mem_singleton.1 hcontent]
      exact ⟨sectionTd "video", _, rfl, by decide, by decide, rfl⟩

theorem eq_of_ret {sdp : String} (h : (offering.setRemoteSdp blankText sdp).2 = .ok 0) :
    offering.setRemoteSdp blankText sdp = ((offering.setRemoteSdp blankText sdp).1, .ok 0) :=
  Prod.ext rfl h

/-- The groups of a text are those of the description it is read as. -/
theorem contentGroups_of_effect {sdp : String} {answer : SessionDescription}
    (hret : (offering.setRemoteSdp blankText sdp).2 = .ok 0)
    (hdesc : (offering.setRemoteSdp blankText sdp).1.remoteDesc = some answer) :
    (namedGroups blankText (sdpLines blankText sdp)).contentGroups = answer.contentGroups := by
  obtain ⟨st, tc', -, hread, -, heq⟩ := setRemoteSdp_ok (eq_of_ret hret)
  rw [heq] at hdesc
  obtain rfl := Option.some.inj hdesc
  exact hread.groups.symm

/-- An answer in the order of the offer is delivered. -/
theorem answerDelivered_iff_audio_first :
    Delivered (answerOf "audio" "video")
      (offering.setRemoteSdp blankText (answerText "audio" "video")).1.transportController := by
  have heffect : effectOf (answerText "audio" "video") =
      (.ok 0, some (answerOf "audio" "video"), [("audio", ⟨"u", "p"⟩)]) := by decide +kernel
  obtain ⟨hret, hdesc, -⟩ := of_effectOf heffect
  have hgroups := contentGroups_of_effect hret hdesc
  have hnames : offering.transportController.channels.map (·.transportName) = ["audio"] := by
    decide +kernel
  obtain ⟨offer, hoffer, hmids⟩ := offering_mids
  refine (answerDelivered_iff blankText blankSurroundings { sendAudio := false, sendVideo := false }
    (some 1) [] [] _ offering _ offer _ offering_started hoffer (eq_of_ret hret) hdesc
    (complete_answerOf _ _ hmids) (.inr ⟨_, hgroups, ?_⟩)).2 ?_
  · rw [hmids]
  · intro ch hch
    have hname := List.mem_map_of_mem (f := (·.transportName)) hch
    rw [hnames, List.mem_singleton] at hname
    refine ⟨by decide, .inr ?_⟩
    rw [hname, getFirstBundleMid_of_group hgroups rfl]
    rfl

/-- The same answer in the other order reaches no transport. -/
theorem video_first_undelivered : ∃ offer,
    offering.localDesc = some offer ∧
    (offering.setRemoteSdp blankText (answerText "video" "audio")).2 = .ok 0 ∧
    (offering.setRemoteSdp blankText (answerText "video" "audio")).1.remoteDesc =
      some (answerOf "video" "audio") ∧
    Complete offer (answerOf "video" "audio") ∧
    BundlesAll offer (namedGroups blankText (sdpLines blankText (answerText "video" "audio"))) ∧
    ¬ Delivered (answerOf "video" "audio")
      (offering.setRemoteSdp blankText (answerText "video" "audio")).1.transportController := by
  have heffect : effectOf (answerText "video" "audio") =
      (.ok 0, some (answerOf "video" "audio"), [("audio", {})]) := by decide +kernel
  obtain ⟨hret, hdesc, hchannels⟩ := of_effectOf heffect
  have hgroups := contentGroups_of_effect hret hdesc
  obtain ⟨offer, hoffer, hmids⟩ := offering_mids
  refine ⟨offer, hoffer, hret, hdesc, complete_answerOf _ _ hmids, .inr ⟨_, hgroups, ?_⟩, ?_⟩
  · rw [hmids]
    exact List.Perm.swap _ _ _
  · rintro ⟨hparams, -⟩
    have hmem : ("audio", ({} : IceParameters)) ∈ [("audio", ({} : IceParameters))] :=
      List.mem_singleton.2 rfl
    rw [← hchannels] at hmem
    obtain ⟨ch, hch, heq⟩ := List.mem_map.1 hmem
    obtain ⟨hname, hnone⟩ := Prod.mk.inj heq
    obtain ⟨td, htd, hgot⟩ := hparams ch hch
    rw [hname] at htd
    obtain rfl : sectionTd "audio" = td := Option.some.inj htd
    rw [hnone] at hgot
    exact absurd (congrArg IceParameters.iceUfrag hgot) (by decide)

end Pc

end XrtcServer
