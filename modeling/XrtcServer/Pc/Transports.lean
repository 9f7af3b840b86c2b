import XrtcServer.Pc.Model.PeerConnection
/-!
# What the descriptions do to the transports

An offer creates a transport for every section that it does not bundle
away, under the section's name (`Offered`). An answer gives every section
that it does not bundle away to the transport of that name, where there is
one (`getChannel_applyContents`, `dtls_applyContents`).
-/

namespace XrtcServer

namespace Pc

open Base Common Ice XrtcServer.Stream

variable {rtc : RtcText} {outside : Surroundings} {pc : PeerConnection} {name mid : String}
variable {tc tc' : TransportController} {desc : SessionDescription}
variable {content : MediaContentDescription} {certificate : Option ℕ} {names : List String}
variable {options : RTCOfferAnswerOptions}

namespace TransportController

@[simp] theorem addDtlsTransport_channels {dtls : DtlsTransport} :
    (tc.addDtlsTransport dtls).channels = tc.channels := rfl

@[simp] theorem addDtlsTransport_localCertificate {dtls : DtlsTransport} :
    (tc.addDtlsTransport dtls).localCertificate = tc.localCertificate := rfl

@[simp] theorem addDtlsTransport_dtls {dtls : DtlsTransport} :
    (tc.addDtlsTransport dtls).dtlsTransportByName =
      Function.update tc.dtlsTransportByName dtls.transportName (some dtls) := rfl

@[simp] theorem addDtlsTransport_srtp {dtls : DtlsTransport} :
    (tc.addDtlsTransport dtls).dtlsSrtpTransportByName = tc.dtlsSrtpTransportByName := rfl

@[simp] theorem addDtlsSrtpTransport_channels {srtp : DtlsSrtpTransport} :
    (tc.addDtlsSrtpTransport srtp).channels = tc.channels := rfl

@[simp] theorem addDtlsSrtpTransport_localCertificate {srtp : DtlsSrtpTransport} :
    (tc.addDtlsSrtpTransport srtp).localCertificate = tc.localCertificate := rfl

@[simp] theorem addDtlsSrtpTransport_dtls {srtp : DtlsSrtpTransport} :
    (tc.addDtlsSrtpTransport srtp).dtlsTransportByName = tc.dtlsTransportByName := rfl

@[simp] theorem addDtlsSrtpTransport_srtp {srtp : DtlsSrtpTransport} :
    (tc.addDtlsSrtpTransport srtp).dtlsSrtpTransportByName =
      Function.update tc.dtlsSrtpTransportByName srtp.transportName (some srtp) := rfl

/-! ## Channels by name -/

theorem getChannel_eq_some {ch : IceChannel} (h : tc.getChannel name = some ch) :
    ch ∈ tc.channels ∧ ch.transportName = name :=
  ⟨List.mem_of_find?_eq_some h, by simpa using List.find?_some h⟩

/-- Where names are distinct, a channel is found under its own. -/
theorem getChannel_of_mem (hnodup : (tc.channels.map (·.transportName)).Nodup) {ch : IceChannel}
    (h : ch ∈ tc.channels) : tc.getChannel ch.transportName = some ch := by
  unfold getChannel
  generalize tc.channels = channels at hnodup h
  induction channels with
  | nil => cases h
  | cons ch' channels ih =>
    rw [List.map_cons, List.nodup_cons] at hnodup
    rw [List.find?_cons]
    rcases List.mem_cons.1 h with rfl | h
    · simp
    · have hne : ¬ ch'.transportName = ch.transportName := fun heq =>
        hnodup.1 (heq ▸ List.mem_map_of_mem h)
      simp only [hne, decide_false]
      exact ih hnodup.2 h

theorem map_name_updateChannel {f : IceChannel → IceChannel}
    (hf : ∀ ch, (f ch).transportName = ch.transportName) :
    (tc.updateChannel name f).channels.map (·.transportName) =
      tc.channels.map (·.transportName) :=
  map_updateFirst hf

/-- A changed channel is found under its name, and no other is touched. -/
theorem getChannel_updateChannel {other : String} {f : IceChannel → IceChannel}
    (hf : ∀ ch, (f ch).transportName = ch.transportName) :
    (tc.updateChannel name f).getChannel other =
      if other = name then (tc.getChannel name).map f else tc.getChannel other := by
  unfold getChannel updateChannel
  dsimp only
  induction tc.channels with
  | nil => simp [updateFirst]
  | cons ch channels ih =>
    rw [updateFirst]
    by_cases hch : ch.transportName = name
    · by_cases hother : other = name
      · simp [hch, hother, hf]
      · have hne : ¬ name = other := fun h => hother h.symm
        simp only [hch, decide_true, if_true, if_neg hother, List.find?_cons, hf, hne, decide_false]
    · by_cases hother : other = name
      · subst hother
        simp only [hch, decide_false, Bool.false_eq_true, if_false, List.find?_cons, if_true] at ih ⊢
        exact ih
      · simp only [hch, decide_false, Bool.false_eq_true, if_false, List.find?_cons] at ih ⊢
        rw [ih, if_neg hother, if_neg hother]

/-! ## The local description -/

/-- **What an offer leaves**: transports of these names, in this order, to
which nothing of the other side was given. -/
structure Offered (certificate : Option ℕ) (names : List String) (tc : TransportController) :
    Prop where
  cert : tc.localCertificate = certificate
  channels : tc.channels.map (·.transportName) = names
  params : ∀ ch ∈ tc.channels, ch.remoteIceParams = {}
  dtls : ∀ name, tc.dtlsTransportByName name =
    if name ∈ names then
      some (DtlsTransport.setLocalCertificate { transportName := name } certificate)
    else none
  srtp : ∀ name, tc.dtlsSrtpTransportByName name =
    if name ∈ names then some { transportName := name } else none

theorem offered_nil (certificate : Option ℕ) :
    Offered certificate [] { localCertificate := certificate } :=
  ⟨rfl, rfl, fun _ h => (List.not_mem_nil h).elim, fun _ => rfl, fun _ => rfl⟩

/-- What a section that is not bundled away creates. -/
theorem createTransport_eq (haway : bundledAway desc content.mid = false)
    (hnone : tc.getChannel content.mid = none) : ∃ params,
    createTransport desc tc content =
      (({ tc with channels := tc.channels ++
            [{ transportName := content.mid, iceParams := params }] } : TransportController).addDtlsTransport
        (DtlsTransport.setLocalCertificate { transportName := content.mid }
          tc.localCertificate)).addDtlsSrtpTransport { transportName := content.mid } := by
  have hcreate : tc.createChannel content.mid =
      { tc with channels := tc.channels ++ [{ transportName := content.mid }] } := by
    simp [createChannel, hnone]
  simp only [createTransport, haway, Bool.false_eq_true, if_false, hcreate]
  cases desc.getTransportInfo content.mid with
  | none => exact ⟨{}, rfl⟩
  | some td =>
    refine ⟨⟨td.iceUfrag, td.icePwd⟩, ?_⟩
    -- the channel that gets the credentials is the new one
    have hothers : ∀ ch ∈ tc.channels, decide (ch.transportName = content.mid) = false := by
      intro ch hch
      have hfind := List.find?_eq_none.1 hnone ch hch
      simpa using hfind
    simp only [setIceParams, updateChannel, updateFirst_append hothers, updateFirst, decide_true,
      if_true]

/-- A certificate does not change the name. -/
@[simp] theorem setLocalCertificate_transportName {dtls : DtlsTransport} :
    (dtls.setLocalCertificate certificate).transportName = dtls.transportName := by
  unfold DtlsTransport.setLocalCertificate
  split <;> rfl

/-- One more transport. -/
theorem Offered.createTransport (h : Offered certificate names tc) (hnew : content.mid ∉ names)
    (haway : bundledAway desc content.mid = false) :
    Offered certificate (names ++ [content.mid]) (createTransport desc tc content) := by
  have hnone : tc.getChannel content.mid = none := by
    rw [getChannel, List.find?_eq_none]
    intro ch hch hname
    rw [← h.channels] at hnew
    exact hnew (of_decide_eq_true hname ▸ List.mem_map_of_mem hch)
  obtain ⟨params, heq⟩ := createTransport_eq haway hnone
  rw [heq]
  refine ⟨h.cert, ?_, ?_, fun name => ?_, fun name => ?_⟩
  · simp [h.channels]
  · intro ch hch
    rcases List.mem_append.1 hch with hch | hch
    · exact h.params ch hch
    · rw [List.mem_singleton.1 hch]
  · have hold := h.dtls name
    by_cases hname : name = content.mid
    · subst hname
      simp [h.cert]
    · simp [hname, hold]
  · have hold := h.srtp name
    by_cases hname : name = content.mid
    · subst hname
      simp
    · simp [hname, hold]

/-- **The transports of the sections**, in their order. -/
theorem Offered.createTransports (h : Offered certificate names tc) (desc : SessionDescription)
    (contents : List MediaContentDescription)
    (hnodup : (names ++ contents.map (·.mid)).Nodup) :
    Offered certificate
      (names ++ (contents.map (·.mid)).filter fun mid => !bundledAway desc mid)
      (contents.foldl (TransportController.createTransport desc) tc) := by
  induction contents generalizing names tc with
  | nil => simpa using h
  | cons content contents ih =>
    rw [List.foldl_cons, List.map_cons]
    rw [List.map_cons] at hnodup
    by_cases haway : bundledAway desc content.mid = true
    · have hsame : TransportController.createTransport desc tc content = tc := by
        simp [TransportController.createTransport, haway]
      have hrest := hnodup.sublist
        ((List.sublist_cons_self content.mid (contents.map (·.mid))).append_left names)
      rw [hsame, List.filter_cons_of_neg (by simp [haway])]
      exact ih h hrest
    · rw [Bool.not_eq_true] at haway
      have hnew : content.mid ∉ names := fun hmem =>
        (List.nodup_append.1 hnodup).2.2 _ hmem _ List.mem_cons_self rfl
      rw [List.append_cons] at hnodup
      rw [List.filter_cons_of_pos (by simp [haway]), List.append_cons]
      exact ih (h.createTransport hnew haway) hnodup

theorem Offered.gatheringCandidate (h : Offered certificate names tc) :
    Offered certificate names (tc.gatheringCandidate rtc outside) := by
  have hchannel : ∀ ch : IceChannel,
      (ch.gatheringCandidate rtc outside).transportName = ch.transportName ∧
      (ch.gatheringCandidate rtc outside).remoteIceParams = ch.remoteIceParams := by
    intro ch
    unfold IceChannel.gatheringCandidate
    split <;> exact ⟨rfl, rfl⟩
  refine ⟨h.cert, ?_, ?_, h.dtls, h.srtp⟩
  · simp only [TransportController.gatheringCandidate, List.map_map, Function.comp_def,
      (hchannel _).1]
    exact h.channels
  · intro ch hch
    obtain ⟨ch', hch', rfl⟩ := List.mem_map.1 hch
    rw [(hchannel ch').2]
    exact h.params ch' hch'

/-! ## The remote description -/

/-- What a section that is applied gives the channel of its name. -/
def giveParams (td : TransportDescription) (ch : IceChannel) : IceChannel :=
  { ch with remoteIceParams := ⟨td.iceUfrag, td.icePwd⟩ }

/-- A fingerprint given twice is the one given. -/
theorem setRemoteFingerprint_twice {alg : String} (halg : alg ≠ "") (digest : List UInt8)
    (dtls : DtlsTransport) :
    (dtls.setRemoteFingerprint alg digest).setRemoteFingerprint alg digest =
      dtls.setRemoteFingerprint alg digest := by
  unfold DtlsTransport.setRemoteFingerprint
  cases hactive : dtls.dtlsActive with
  | false => simp [halg, hactive]
  | true =>
    by_cases hsame : dtls.remoteFingerprintValue = digest
    · simp [hactive, hsame]
    · simp [hsame, halg]

section Apply

variable {contents : List MediaContentDescription} {td : TransportDescription}
variable {fingerprint : SSLFingerprint}

@[simp] theorem setRemoteIceParams_dtls {params : IceParameters} :
    (tc.setRemoteIceParams name params).dtlsTransportByName = tc.dtlsTransportByName := rfl

@[simp] theorem getChannel_setDtlsTransport {other : String} {dtls : DtlsTransport} :
    (tc.setDtlsTransport other dtls).getChannel name = tc.getChannel name := rfl

theorem getChannel_setRemoteIceParams {other : String} :
    (tc.setRemoteIceParams other ⟨td.iceUfrag, td.icePwd⟩).getChannel name =
      if name = other then (tc.getChannel other).map (giveParams td) else tc.getChannel name :=
  getChannel_updateChannel fun _ => rfl

/-- **What applying a section comes to**, where it does. -/
theorem applyContent_ok (h : applyContent desc tc content = .ok tc') :
    (bundledAway desc content.mid = true ∨ desc.getTransportInfo content.mid = none) ∧ tc' = tc ∨
    bundledAway desc content.mid = false ∧ ∃ td, desc.getTransportInfo content.mid = some td ∧
      (tc.dtlsTransportByName content.mid = none ∧
        tc' = tc.setRemoteIceParams content.mid ⟨td.iceUfrag, td.icePwd⟩ ∨
      ∃ dtls fingerprint, tc.dtlsTransportByName content.mid = some dtls ∧
        td.identityFingerprint = some fingerprint ∧
        tc' = (tc.setRemoteIceParams content.mid ⟨td.iceUfrag, td.icePwd⟩).setDtlsTransport
          content.mid (dtls.setRemoteFingerprint fingerprint.algorithm fingerprint.digest)) := by
  unfold applyContent at h
  by_cases haway : bundledAway desc content.mid = true
  · rw [if_pos haway] at h
    exact .inl ⟨.inl haway, (Except.ok.inj h).symm⟩
  · rw [if_neg haway] at h
    rw [Bool.not_eq_true] at haway
    cases htd : desc.getTransportInfo content.mid with
    | none =>
      simp only [htd] at h
      exact .inl ⟨.inr rfl, (Except.ok.inj h).symm⟩
    | some td =>
      simp only [htd, setRemoteIceParams_dtls] at h
      refine .inr ⟨haway, td, rfl, ?_⟩
      cases hdtls : tc.dtlsTransportByName content.mid with
      | none =>
        simp only [hdtls] at h
        exact .inl ⟨rfl, (Except.ok.inj h).symm⟩
      | some dtls =>
        cases hfp : td.identityFingerprint with
        | none =>
          simp only [hdtls, hfp] at h
          cases h
        | some fingerprint =>
          simp only [hdtls, hfp] at h
          exact .inr ⟨dtls, fingerprint, rfl, rfl, (Except.ok.inj h).symm⟩

/-- A section that is bundled away, or goes by another name, leaves the transport. -/
theorem applyContent_other (h : applyContent desc tc content = .ok tc')
    (hother : content.mid ≠ name ∨ bundledAway desc name = true) :
    tc'.getChannel name = tc.getChannel name ∧
      tc'.dtlsTransportByName name = tc.dtlsTransportByName name := by
  rcases applyContent_ok h with ⟨-, rfl⟩ | ⟨haway, td, -, happlied⟩
  · exact ⟨rfl, rfl⟩
  · have hne : ¬ name = content.mid := by
      rintro rfl
      rcases hother with hne | haway'
      · exact hne rfl
      · rw [haway'] at haway
        cases haway
    rcases happlied with ⟨-, rfl⟩ | ⟨dtls, fingerprint, -, -, rfl⟩
    · rw [getChannel_setRemoteIceParams, if_neg hne]
      exact ⟨rfl, rfl⟩
    · rw [getChannel_setDtlsTransport, getChannel_setRemoteIceParams, if_neg hne]
      exact ⟨rfl, Function.update_of_ne hne _ _⟩

/-- A section that is applied is given to its transport. -/
theorem applyContent_self (h : applyContent desc tc content = .ok tc')
    (haway : bundledAway desc content.mid = false)
    (htd : desc.getTransportInfo content.mid = some td)
    (hfp : td.identityFingerprint = some fingerprint) :
    tc'.getChannel content.mid = (tc.getChannel content.mid).map (giveParams td) ∧
      tc'.dtlsTransportByName content.mid = (tc.dtlsTransportByName content.mid).map
        (·.setRemoteFingerprint fingerprint.algorithm fingerprint.digest) := by
  rcases applyContent_ok h with ⟨hnot | hnot, -⟩ | ⟨-, td', htd', happlied⟩
  · rw [haway] at hnot
    cases hnot
  · rw [htd] at hnot
    cases hnot
  · obtain rfl := Option.some.inj (htd.symm.trans htd')
    rcases happlied with ⟨hnone, rfl⟩ | ⟨dtls, fingerprint', hdtls, hfp', rfl⟩
    · rw [getChannel_setRemoteIceParams, if_pos rfl, setRemoteIceParams_dtls, hnone]
      exact ⟨rfl, rfl⟩
    · obtain rfl := Option.some.inj (hfp.symm.trans hfp')
      rw [getChannel_setDtlsTransport, getChannel_setRemoteIceParams, if_pos rfl, hdtls]
      exact ⟨rfl, Function.update_self ..⟩

/-- **What the sections give the transport of a name**: all of it, where one
of them has the name and is not bundled away, and else nothing. -/
theorem applyContents_ok (contents : List MediaContentDescription)
    (h : contents.foldlM (applyContent desc) tc = .ok tc')
    (htd : desc.getTransportInfo name = some td)
    (hfp : td.identityFingerprint = some fingerprint) (halg : fingerprint.algorithm ≠ "") :
    (bundledAway desc name = true ∨ (∀ content ∈ contents, content.mid ≠ name)) ∧
      tc'.getChannel name = tc.getChannel name ∧
      tc'.dtlsTransportByName name = tc.dtlsTransportByName name ∨
    bundledAway desc name = false ∧ (∃ content ∈ contents, content.mid = name) ∧
      tc'.getChannel name = (tc.getChannel name).map (giveParams td) ∧
      tc'.dtlsTransportByName name = (tc.dtlsTransportByName name).map
        (·.setRemoteFingerprint fingerprint.algorithm fingerprint.digest) := by
  induction contents generalizing tc with
  | nil =>
    obtain rfl := Except.ok.inj h
    exact .inl ⟨.inr fun _ hmem => (List.not_mem_nil hmem).elim, rfl, rfl⟩
  | cons content contents ih =>
    rw [List.foldlM_cons] at h
    cases h₁ : applyContent desc tc content with
    | error fault =>
      rw [h₁] at h
      cases h
    | ok tc₁ =>
      rw [h₁] at h
      by_cases hself : content.mid = name ∧ bundledAway desc name = false
      · obtain ⟨rfl, haway⟩ := hself
        obtain ⟨hchannel, hdtls⟩ := applyContent_self h₁ haway htd hfp
        refine .inr ⟨haway, ⟨content, List.mem_cons_self, rfl⟩, ?_⟩
        rcases ih h with ⟨-, hchannel', hdtls'⟩ | ⟨-, -, hchannel', hdtls'⟩
        · exact ⟨hchannel'.trans hchannel, hdtls'.trans hdtls⟩
        · -- what is given again is what was given
          rw [hchannel', hdtls', hchannel, hdtls, Option.map_map, Option.map_map]
          refine ⟨rfl, ?_⟩
          simp only [Function.comp_def, setRemoteFingerprint_twice halg]
      · have hother : content.mid ≠ name ∨ bundledAway desc name = true := by
          by_cases hmid : content.mid = name
          · exact .inr (by simpa [hmid] using hself)
          · exact .inl hmid
        obtain ⟨hchannel, hdtls⟩ := applyContent_other h₁ hother
        rcases ih h with ⟨hnone, hchannel', hdtls'⟩ | ⟨haway, ⟨c, hc, hmid⟩, hchannel', hdtls'⟩
        · refine .inl ⟨?_, hchannel'.trans hchannel, hdtls'.trans hdtls⟩
          rcases hother with hne | haway
          · refine hnone.imp_right fun hall c hc => ?_
            rcases List.mem_cons.1 hc with rfl | hc
            · exact hne
            · exact hall c hc
          · exact .inl haway
        · rw [hchannel] at hchannel'
          rw [hdtls] at hdtls'
          exact .inr ⟨haway, ⟨c, List.mem_cons_of_mem _ hc, hmid⟩, hchannel', hdtls'⟩

theorem applyContent_names (h : applyContent desc tc content = .ok tc') :
    tc'.channels.map (·.transportName) = tc.channels.map (·.transportName) := by
  rcases applyContent_ok h with ⟨-, rfl⟩ | ⟨-, td, -, ⟨-, rfl⟩ | ⟨dtls, fingerprint, -, -, rfl⟩⟩
  · rfl
  · exact map_name_updateChannel fun _ => rfl
  · exact map_name_updateChannel fun _ => rfl

/-- No channel comes or goes. -/
theorem applyContents_names (contents : List MediaContentDescription)
    (h : contents.foldlM (applyContent desc) tc = .ok tc') :
    tc'.channels.map (·.transportName) = tc.channels.map (·.transportName) := by
  induction contents generalizing tc with
  | nil =>
    obtain rfl := Except.ok.inj h
    rfl
  | cons content contents ih =>
    rw [List.foldlM_cons] at h
    cases h₁ : applyContent desc tc content with
    | error fault =>
      rw [h₁] at h
      cases h
    | ok tc₁ =>
      rw [h₁] at h
      exact (ih h).trans (applyContent_names h₁)

end Apply

end TransportController

/-! ## The offer -/

/-- The sections of an offer. -/
def offeredMids (options : RTCOfferAnswerOptions) : List String :=
  (if options.recvAudio || options.sendAudio then ["audio"] else []) ++
    (if options.recvVideo || options.sendVideo then ["video"] else [])

/-- The transports of an offer: one for all its sections, where it bundles them. -/
def createdNames (options : RTCOfferAnswerOptions) : List String :=
  if options.useRtpMux then (offeredMids options).take 1 else offeredMids options

theorem nodup_offeredMids (options : RTCOfferAnswerOptions) : (offeredMids options).Nodup := by
  unfold offeredMids
  split <;> split <;> decide

/-- Nothing but the transports of a description changes. -/
theorem addTransportInfo_eq (rtc : RtcText) (desc : SessionDescription) (mid : String)
    (iceParam : IceParameters) (certificate : Option ℕ) :
    ∃ infos, desc.addTransportInfo rtc mid iceParam certificate =
      { desc with transportInfos := infos } := by
  unfold SessionDescription.addTransportInfo
  cases certificate with
  | none => exact ⟨_, rfl⟩
  | some certificate =>
    dsimp only
    cases rtc.createFromCertificate certificate with
    | none => exact ⟨desc.transportInfos, rfl⟩
    | some fingerprint => exact ⟨_, rfl⟩

@[simp] theorem addTransportInfo_contents {iceParam : IceParameters} :
    (desc.addTransportInfo rtc mid iceParam certificate).contents = desc.contents := by
  obtain ⟨infos, heq⟩ := addTransportInfo_eq rtc desc mid iceParam certificate
  rw [heq]

@[simp] theorem addTransportInfo_contentGroups {iceParam : IceParameters} :
    (desc.addTransportInfo rtc mid iceParam certificate).contentGroups = desc.contentGroups := by
  obtain ⟨infos, heq⟩ := addTransportInfo_eq rtc desc mid iceParam certificate
  rw [heq]

theorem mid_addStreams (tracks : List StreamParams) (content : MediaContentDescription) :
    (tracks.foldl .addStream content).mid = content.mid := by
  induction tracks generalizing content with
  | nil => rfl
  | cons track tracks ih =>
    rw [List.foldl_cons, ih]
    rfl

/-- A section that is wanted is added under its name. -/
theorem addSection_mids {iceParams : IceParameters} {source : List StreamParams} {send recv : Bool} :
    (pc.addSection rtc iceParams content source send recv options desc).contents.map (·.mid) =
      desc.contents.map (·.mid) ++ if recv || send then [content.mid] else [] := by
  unfold PeerConnection.addSection
  split
  · rw [addTransportInfo_contents, SessionDescription.addContent, List.map_append]
    cases send
    · rfl
    · simp only [if_true, List.map_cons, List.map_nil, mid_addStreams]
      rfl
  · rw [List.append_nil]

theorem addSection_contentGroups {iceParams : IceParameters} {source : List StreamParams}
    {send recv : Bool} :
    (pc.addSection rtc iceParams content source send recv options desc).contentGroups =
      desc.contentGroups := by
  unfold PeerConnection.addSection
  split
  · rw [addTransportInfo_contentGroups]
    rfl
  · rfl

/-- Distinct new names are added in their order. -/
theorem contentNames_addContentNames (group : ContentGroup) (names : List String)
    (h : (group.contentNames ++ names).Nodup) :
    (group.addContentNames names).contentNames = group.contentNames ++ names ∧
      (group.addContentNames names).semantics = group.semantics := by
  induction names generalizing group with
  | nil => exact ⟨(List.append_nil _).symm, rfl⟩
  | cons name names ih =>
    have hnew : name ∉ group.contentNames := fun hmem =>
      (List.nodup_append.1 h).2.2 _ hmem _ List.mem_cons_self rfl
    have hadd : group.addContentName name =
        { group with contentNames := group.contentNames ++ [name] } := by
      simp [ContentGroup.addContentName, ContentGroup.hasContentName, hnew]
    rw [List.append_cons] at h ⊢
    rw [ContentGroup.addContentNames, List.foldl_cons, hadd]
    exact ih _ h

/-- The first name where there is one group, a bundle. -/
theorem getFirstBundleMid_of_group {group : { group : ContentGroup // group.contentNames ≠ [] }}
    (hgroups : desc.contentGroups = [group]) (hsemantics : group.val.semantics = "BUNDLE") :
    desc.getFirstBundleMid = group.val.contentNames.headD "" := by
  obtain ⟨_, _, groups, _⟩ := desc
  obtain ⟨⟨semantics, names⟩, hne⟩ := group
  obtain rfl : groups = _ := hgroups
  obtain rfl : semantics = _ := hsemantics
  obtain ⟨name, names, rfl⟩ := List.exists_cons_of_ne_nil hne
  simp [SessionDescription.getFirstBundleMid, SessionDescription.getGroupByName]

/-- Bundling there. -/
theorem bundledAway_of_group (group : { group : ContentGroup // group.contentNames ≠ [] })
    (hgroups : desc.contentGroups = [group]) (hsemantics : group.val.semantics = "BUNDLE") :
    TransportController.bundledAway desc mid =
      (group.val.contentNames.contains mid && mid ≠ group.val.contentNames.headD "") := by
  rw [TransportController.bundledAway, getFirstBundleMid_of_group hgroups hsemantics]
  simp [SessionDescription.isBundle, SessionDescription.getGroupByName, hgroups, hsemantics]

/-- **What a bundle leaves out**: all sections but the first. -/
theorem bundledAway_addBundle (hgroups : desc.contentGroups = [])
    (hnodup : (desc.contents.map (·.mid)).Nodup) (hmid : mid ∈ desc.contents.map (·.mid)) :
    TransportController.bundledAway (PeerConnection.addBundle options desc) mid =
      (options.useRtpMux && mid ≠ (desc.contents.map (·.mid)).headD "") := by
  unfold PeerConnection.addBundle
  by_cases hmux : options.useRtpMux = true
  · obtain ⟨hnames, hsemantics⟩ := contentNames_addContentNames
      { semantics := "BUNDLE" } (desc.contents.map (·.mid)) (by simpa using hnodup)
    rw [List.nil_append] at hnames
    have hne : ¬ (ContentGroup.addContentNames { semantics := "BUNDLE" }
        (desc.contents.map (·.mid))).contentNames = [] := by
      rw [hnames]
      exact List.ne_nil_of_mem hmid
    rw [if_pos hmux, dif_neg hne, hmux, bundledAway_of_group ⟨_, hne⟩
      (by rw [SessionDescription.addGroup, hgroups, List.nil_append]) hsemantics]
    simp only [hnames, List.contains_iff_mem.2 hmid]
  · rw [if_neg hmux]
    rw [Bool.not_eq_true] at hmux
    simp [TransportController.bundledAway, SessionDescription.isBundle,
      SessionDescription.getGroupByName, hgroups, hmux]

@[simp] theorem addBundle_contents :
    (PeerConnection.addBundle options desc).contents = desc.contents := by
  unfold PeerConnection.addBundle
  split
  · dsimp only
    split <;> rfl
  · rfl

/-- **The sections of an offer**, and which of them have their own transport. -/
theorem offerDescription_mids (rtc : RtcText) (outside : Surroundings) (pc : PeerConnection)
    (options : RTCOfferAnswerOptions) :
    (pc.offerDescription rtc outside options).contents.map (·.mid) = offeredMids options := by
  simp only [PeerConnection.offerDescription, addBundle_contents, addSection_mids, offeredMids]
  rfl

theorem filter_offerDescription :
    (offeredMids options).filter (fun mid =>
      !TransportController.bundledAway (pc.offerDescription rtc outside options) mid) =
      createdNames options := by
  have haway : ∀ mid ∈ offeredMids options,
      TransportController.bundledAway (pc.offerDescription rtc outside options) mid =
        (options.useRtpMux && mid ≠ (offeredMids options).headD "") := by
    intro mid hmid
    have hmids := offerDescription_mids rtc outside pc options
    simp only [PeerConnection.offerDescription, addBundle_contents] at hmids ⊢
    rw [bundledAway_addBundle, hmids]
    · simp only [addSection_contentGroups]
    · rw [hmids]
      exact nodup_offeredMids options
    · rw [hmids]
      exact hmid
  rw [List.filter_congr fun mid hmid => by rw [haway mid hmid], createdNames]
  have hnodup := nodup_offeredMids options
  cases options.useRtpMux with
  | false => simp
  | true =>
    -- the first section only
    cases hmids : offeredMids options with
    | nil => rfl
    | cons mid mids =>
      rw [hmids, List.nodup_cons] at hnodup
      have hrest : ∀ mid' ∈ mids, ¬ mid' = mid := fun mid' hmem heq => hnodup.1 (heq ▸ hmem)
      simpa [List.filter_eq_nil_iff] using hrest

/-- **What an offer leaves of a new peer connection's transports.** -/
theorem createOffer_offered
    (hpc : pc.transportController = { localCertificate := certificate })
    (hoffer : ¬ (options.dtlsOn = true ∧ pc.certificate = none)) :
    TransportController.Offered certificate (createdNames options)
      (pc.createOffer rtc outside options).1.transportController := by
  unfold PeerConnection.createOffer
  rw [if_neg hoffer]
  have h := (TransportController.offered_nil certificate).createTransports
    (pc.offerDescription rtc outside options)
    (pc.offerDescription rtc outside options).contents
    (by rw [List.nil_append, offerDescription_mids]; exact nodup_offeredMids options)
  rw [List.nil_append, offerDescription_mids, filter_offerDescription, ← hpc] at h
  exact h.gatheringCandidate

/-- An offer has text where there is a certificate to offer. -/
theorem createOffer_text (hoffer : ¬ (options.dtlsOn = true ∧ pc.certificate = none)) :
    (pc.createOffer rtc outside options).2 ≠ "" := by
  rw [PeerConnection.createOffer, if_neg hoffer]
  intro hempty
  have hlist := congrArg String.toList hempty
  simp [SessionDescription.toString, SessionDescription.lines, SessionDescription.sessionLines,
    String.join_cons] at hlist

end Pc

end XrtcServer
