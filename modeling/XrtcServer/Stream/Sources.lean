import XrtcServer.Stream.Forwarded
import XrtcServer.Stream.Ownership
import XrtcServer.Pc.Announced
/-!
# The tracks a puller is told of

A pull stream is given its tracks when it is made: those that the push
stream of its name has then. Its offer announces them, and no later answer
of the pusher changes it. So what is announced is what was pushed at the
time of the PULL (`announced_of_run`), and still is, where the pusher has
not been heard since (`RetellsPush`).
-/

namespace XrtcServer

namespace Stream

open Base Pc RtcStreamManager

/-! ## What is found under a name -/

section Found

variable {PC β : Type} {ops : PeerConnectionOps PC} {m m₁ m' : RtcStreamManager PC}
variable {f : RtcStream PC → β} {t : RtcStreamType} {n : String} {id uid : ℕ}
variable {s s₀ : RtcStream PC} {e : Event}

/-- **Whatever is found under the name was found before**, and is as it was
in what `f` looks at. -/
def FoundBefore (f : RtcStream PC → β) (t : RtcStreamType) (n : String)
    (m m' : RtcStreamManager PC) : Prop :=
  ∀ id s', m'.findStream t n = some (id, s') → ∃ s, m.findStream t n = some (id, s) ∧ f s' = f s

theorem FoundBefore.refl : FoundBefore f t n m m := fun _ s hf => ⟨s, hf, rfl⟩

theorem FoundBefore.trans (h : FoundBefore f t n m m₁) (h' : FoundBefore f t n m₁ m') :
    FoundBefore f t n m m' := by
  intro id s' hf
  obtain ⟨s₁, hf₁, heq₁⟩ := h' id s' hf
  obtain ⟨s, hf₀, heq⟩ := h id s₁ hf₁
  exact ⟨s, hf₀, heq₁.trans heq⟩

/-- A stream in a new state. -/
theorem foundBefore_setStream (hs : m.streams id = some s₀) (hf : f s = f s₀) :
    FoundBefore f t n m (m.setStream id (some s)) := by
  intro i s' hfound
  obtain ⟨hi, hs'⟩ := findStream_eq_some.1 hfound
  rw [setStream_table] at hi
  rw [setStream_streams] at hs'
  by_cases hid : i = id
  · subst hid
    rw [Function.update_self] at hs'
    obtain rfl := Option.some.inj hs'
    exact ⟨s₀, findStream_eq_some.2 ⟨hi, hs⟩, hf⟩
  · rw [Function.update_of_ne hid] at hs'
    exact ⟨s', findStream_eq_some.2 ⟨hi, hs'⟩, rfl⟩

/-- A removal. -/
theorem foundBefore_removeStream (t' : RtcStreamType) (uid : ℕ) (n' : String) :
    FoundBefore f t n m (m.removeStream t' uid n') := by
  rcases removeStream_cases m t' uid n' with heq | ⟨i, s₀, -, -, heq⟩
  · rw [heq]
    exact .refl
  · rw [heq]
    intro id s' hfound
    obtain ⟨hid, hs'⟩ := findStream_eq_some.1 hfound
    rw [setStream_table] at hid
    rw [setStream_streams, setEntry_streams] at hs'
    have hne : id ≠ i := by
      rintro rfl
      rw [Function.update_self] at hs'
      cases hs'
    have hentry : ¬ (t = t' ∧ n = n') := by
      rintro ⟨rfl, rfl⟩
      rw [setEntry_table_self] at hid
      cases hid
    rw [setEntry_table_ne hentry] at hid
    rw [Function.update_of_ne hne] at hs'
    exact ⟨s', findStream_eq_some.2 ⟨hid, hs'⟩, rfl⟩

theorem removeStream_next (t' : RtcStreamType) (uid : ℕ) (n' : String) :
    (m.removeStream t' uid n').next = m.next := by
  rcases removeStream_cases m t' uid n' with heq | ⟨i, s₀, -, -, heq⟩
  · rw [heq]
  · rw [heq]
    rfl

/-- A new stream of another type or name. -/
theorem foundBefore_addStream (hw : m.WellFormed)
    (hne : ¬ (t = s.streamType ∧ n = s.streamName)) : FoundBefore f t n m (m.addStream s) := by
  intro id s' hfound
  obtain ⟨hid, hs'⟩ := findStream_eq_some.1 hfound
  have hentry : m.table t n = some id := (setEntry_table_ne hne).symm.trans hid
  obtain ⟨s₀, hs₀, -⟩ := hw.entry t n id hentry
  have hold : id ≠ m.next := WellFormed.ne_next hw (findStream_eq_some.2 ⟨hentry, hs₀⟩)
  rw [addStream_streams, Function.update_of_ne hold] at hs'
  exact ⟨s', findStream_eq_some.2 ⟨hentry, hs'⟩, rfl⟩

/-- A stream that stands under another type or name, in whatever state. -/
theorem foundBefore_setStream_of_ne (hw : m.WellFormed) {t' : RtcStreamType} {n' : String}
    (hi : m.table t' n' = some id) (hne : ¬ (t = t' ∧ n = n')) {s' : RtcStream PC} :
    FoundBefore f t n m (m.setStream id (some s')) := by
  intro j s hfound
  obtain ⟨hj, hs⟩ := findStream_eq_some.1 hfound
  rw [setStream_table] at hj
  have hother : j ≠ id := by
    rintro rfl
    obtain ⟨u, hu, hut, hun⟩ := hw.entry _ _ _ hj
    obtain ⟨v, hv, hvt, hvn⟩ := hw.entry _ _ _ hi
    obtain rfl : u = v := Option.some.inj (hu.symm.trans hv)
    exact hne ⟨hut.symm.trans hvt, hun.symm.trans hvn⟩
  rw [setStream_streams, Function.update_of_ne hother] at hs
  exact ⟨s, findStream_eq_some.2 ⟨hj, hs⟩, rfl⟩

/-- A creation under the name. -/
def Creates (m : RtcStreamManager PC) (t : RtcStreamType) (n : String) (e : Event) : Prop :=
  (∃ uid, RequestOf uid n e) ∧ TakesOver m t n e

/-- **A step brings nothing new under a name**, unless it creates or answers
there. -/
theorem foundBefore_step (hw : m.WellFormed) (hs : step ops m e = some m')
    (hcreate : ¬ Creates m t n e)
    (hanswer : ∀ uid answer type id s, e = .setAnswer uid n answer type →
      (t = .push ↔ type = "push") → m.findStream t n = some (id, s) → uid = s.uid →
        f (RtcStream.setRemoteSdp ops s answer).1 = f s)
    (hcallback : ∀ (s : RtcStream PC) state timer,
      f { s with state := state, iceTimeout := timer } = f s) :
    FoundBefore f t n m m' := by
  cases step_changes hs with
  | kept => exact .refl
  | removed t' uid name => exact foundBefore_removeStream t' uid name
  | pushed uid name audio video logId certificate s hpc htype hname =>
    refine foundBefore_addStream hw ?_
    rintro ⟨rfl, rfl⟩
    exact hcreate ⟨⟨uid, rfl, hname.symm⟩, htype⟩
  | pulled uid name audio video logId certificate s push pushId hpush hpc htype hname =>
    refine (foundBefore_removeStream .pull uid name).trans
      (foundBefore_addStream hw.removeStream ?_)
    rintro ⟨rfl, rfl⟩
    refine hcreate ⟨⟨uid, rfl, hname.symm⟩, htype, fun hnone => ?_⟩
    rw [← hname] at hpush
    cases hnone.symm.trans hpush
  | answered uid name answer type t' i s htype hfound howner =>
    obtain ⟨hi, hlive⟩ := findStream_eq_some.1 hfound
    by_cases hsame : t = t' ∧ n = name
    · obtain ⟨rfl, rfl⟩ := hsame
      exact foundBefore_setStream hlive (hanswer uid answer type i s rfl htype hfound howner)
    · exact foundBefore_setStream_of_ne hw hi hsame
  | told id s state timer hlive => exact foundBefore_setStream hlive (hcallback s state timer)
  | gaveUp id s state timer hlive =>
    exact (foundBefore_setStream hlive (hcallback s state timer)).trans
      (foundBefore_removeStream _ _ _)

end Found

variable {rtc : RtcText} {outside : Surroundings} {m m' : RtcStreamManager PeerConnection}
variable {name : String} {id pushId : ℕ} {s push : RtcStream PeerConnection}

/-! ## The tracks of a stream -/

/-- **The SSRCs in a stream's remote description**, of one medium. -/
def remoteSsrcs (s : RtcStream PeerConnection) (type : MediaType) : List UInt32 :=
  ((s.pc.remoteStreams type.mid).getD []).flatMap (·.ssrcs)

/-- What the transports do changes one stream, and nothing of it but them. -/
theorem mediaStep_cases {e : MediaEvent} (h : mediaStep rtc m e = some m') :
    (∃ outside event, e = .stream outside event ∧ step (ops rtc outside) m event = some m') ∨
      m' = m ∨ ∃ id s tc, m.streams id = some s ∧
        m' = m.setStream id (some { s with pc := { s.pc with transportController := tc } }) := by
  cases e with
  | stream outside event => exact .inl ⟨outside, event, rfl, h⟩
  | srtp id name active =>
    obtain ⟨s, hid, h⟩ := Option.bind_eq_some_iff.1 h
    obtain ⟨srtp, -, rfl⟩ := Option.map_eq_some_iff.1 h
    exact .inr (.inr ⟨id, s, _, hid, rfl⟩)
  | packet id name kind data =>
    obtain ⟨s, hid, h⟩ := Option.bind_eq_some_iff.1 h
    obtain ⟨srtp, -, h⟩ := Option.bind_eq_some_iff.1 h
    split at h
    swap
    · cases h
    obtain rfl := Option.some.inj h
    by_cases hrelays : Relays s kind
    · rw [onPacketReceived_eq m data hrelays]
      split
      · exact .inr (.inl rfl)
      · rename_i id' found hfound
        have hlive := (findStream_eq_some.1 hfound).2
        cases kind with
        | rtp => exact .inr (.inr ⟨id', found, _, hlive, rfl⟩)
        | rtcp => exact .inr (.inr ⟨id', found, _, hlive, rfl⟩)
    · rw [onPacketReceived_dropped m data hrelays]
      exact .inr (.inl rfl)

theorem readStreams_of_none {pc : PeerConnection} (h : pc.remoteDesc = none) : ReadStreams pc := by
  intro type
  rw [PeerConnection.remoteStreams, h]
  exact readable_nil

/-- An offer leaves the remote description. -/
theorem remoteDesc_createOffer (pc : PeerConnection) (options : RTCOfferAnswerOptions) :
    (pc.createOffer rtc outside options).1.remoteDesc = pc.remoteDesc := by
  unfold PeerConnection.createOffer
  split <;> rfl

/-- **The tracks of every stream are as they are read.** -/
theorem readStreams_run {es : List MediaEvent} (h : Common.run (mediaStep rtc) init es = some m) :
    m.AllStreams fun s => ReadStreams s.pc := by
  refine Common.inv_of_run (fun m e m' hall hs => ?_) (fun _ _ h => by cases h) h
  rcases mediaStep_cases hs with ⟨outside, event, rfl, hs⟩ | rfl | ⟨id, s, tc, hid, rfl⟩
  · refine allStreams_step hall hs (fun s cert audio video hpc => ⟨?_, ?_⟩) ?_ ?_
    · refine readStreams_of_none ((remoteDesc_createOffer _ _).trans ?_)
      exact congrArg PeerConnection.remoteDesc hpc
    · refine readStreams_of_none ((remoteDesc_createOffer _ _).trans ?_)
      exact congrArg PeerConnection.remoteDesc hpc
    · intro s sdp hread
      rw [setRemoteSdp_ops]
      exact readStreams_setRemoteSdp hread sdp
    · exact fun s state timer hread => hread
  · exact hall
  · exact hall.setStream id (hall id s hid)

/-! ## A PULL and its offer -/

/-- A PULL, but for the name. -/
structure PullRequest where
  uid : ℕ
  audio : Bool
  video : Bool
  logId : ℕ
  certificate : Option ℕ

namespace PullRequest

variable (r : PullRequest)

def event (name : String) : Event :=
  .createPullStream r.uid name r.audio r.video r.logId r.certificate

/-- The offer that is returned for it. -/
def offer (rtc : RtcText) (outside : Surroundings) (m : RtcStreamManager PeerConnection)
    (name : String) : String :=
  (m.createPullStream (ops rtc outside) r.uid name r.audio r.video r.logId r.certificate).2.2

/-- Whether the medium is asked for. -/
def asks : MediaType → Bool
  | .audio => r.audio
  | .video => r.video

/-- **The offer announces what is pushed**: of each medium that is asked for,
the SSRCs of the push stream, and none of any other. -/
def Announces (rtc : RtcText) (offer : String) (push : RtcStream PeerConnection) : Prop :=
  ∀ type, announcedSsrcs rtc type offer = if r.asks type then remoteSsrcs push type else []

end PullRequest

/-- The offer is that of a peer connection with the tracks of the push stream. -/
theorem offer_eq (r : PullRequest) (hpush : m.findPushStream name = some (pushId, push)) :
    r.offer rtc outside m name = ((started r.certificate
      ((push.pc.remoteStreams MediaType.audio.mid).getD [])
      ((push.pc.remoteStreams MediaType.video.mid).getD [])).createOffer rtc outside
        (sendOptions r.audio r.video)).2 := by
  rw [PullRequest.offer, createPullStream, hpush]
  rfl

/-- **A PULL announces what is pushed then.** -/
theorem announces_pull (r : PullRequest) (hpush : m.findPushStream name = some (pushId, push))
    (hread : ReadStreams push.pc) (hcert : r.certificate ≠ none) :
    r.Announces rtc (r.offer rtc outside m name) push := by
  intro type
  obtain ⟨certificate, hcert⟩ := Option.ne_none_iff_exists'.1 hcert
  rw [offer_eq r hpush, hcert,
    announcedSsrcs_sendOffer rtc outside certificate r.audio r.video (hread .audio) (hread .video)]
  cases type with
  | audio =>
    rw [sentTracks, PullRequest.asks]
    split <;> rfl
  | video =>
    rw [sentTracks, PullRequest.asks]
    split <;> rfl

/-! ## The run since a PULL -/

/-- A PULL of the name makes the pull stream of an identity. -/
def Pulls (name : String) (id : ℕ) (m : RtcStreamManager PeerConnection) (e : MediaEvent) : Prop :=
  ∃ outside, ∃ r : PullRequest, e = .stream outside (r.event name) ∧ m.next = id ∧
    m.findPushStream name ≠ none

/-- **The pusher is heard**: the name is pushed anew, or its push stream is
answered by its owner. -/
def RetellsPush (name : String) (m : RtcStreamManager PeerConnection) : MediaEvent → Prop
  | .stream _ (.createPushStream _ pushed ..) => pushed = name
  | .stream _ (.setAnswer uid answered _ type) =>
    answered = name ∧ type = "push" ∧ ∃ id s, m.findPushStream name = some (id, s) ∧ uid = s.uid
  | _ => False

/-- **A pull stream that is found was found before**, or a PULL makes it. -/
theorem pulled_step {e : MediaEvent} (hw : m.WellFormed) (hs : mediaStep rtc m e = some m')
    (hfound : ∃ s, m'.findPullStream name = some (id, s)) :
    (∃ s, m.findPullStream name = some (id, s)) ∨ Pulls name id m e := by
  obtain ⟨s', hfound⟩ := hfound
  have hkept : FoundBefore (fun _ => ()) .pull name m m' →
      ∃ s, m.findPullStream name = some (id, s) := by
    intro hbefore
    obtain ⟨s, hf, -⟩ := hbefore id s' hfound
    exact ⟨s, hf⟩
  rcases mediaStep_cases hs with ⟨outside, event, rfl, hs⟩ | rfl | ⟨i, s, tc, hi, rfl⟩
  · by_cases hcreates : Creates m .pull name event
    · right
      obtain ⟨⟨uid, hrequest⟩, htakes⟩ := hcreates
      cases event with
      | createPullStream uid pulled audio video logId certificate =>
        obtain ⟨rfl, rfl⟩ := hrequest
        refine ⟨outside, ⟨uid, audio, video, logId, certificate⟩, rfl, ?_, htakes.2⟩
        obtain ⟨⟨pushId, push⟩, hpush⟩ := Option.ne_none_iff_exists'.1 htakes.2
        obtain rfl := Option.some.inj hs
        rw [createPullStream, hpush] at hfound
        -- the new stream is the one that is found
        have hnew := hfound.symm.trans (findStream_addStream_self _)
        obtain ⟨rfl, -⟩ := Prod.mk.inj (Option.some.inj hnew)
        exact (removeStream_next .pull uid pulled).symm
      | createPushStream => cases htakes
      | _ => exact absurd htakes not_false
    · exact .inl (hkept (foundBefore_step hw hs hcreates (fun _ _ _ _ _ _ _ _ _ => rfl)
        fun _ _ _ => rfl))
  · exact .inl (hkept .refl)
  · exact .inl (hkept (foundBefore_setStream hi rfl))

/-- **While the pusher is not heard** its stream has the tracks it had. -/
theorem push_kept_step {e : MediaEvent} (hw : m.WellFormed) (hs : mediaStep rtc m e = some m')
    (hquiet : ¬ RetellsPush name m e) :
    FoundBefore (fun s => s.pc.remoteDesc) .push name m m' := by
  rcases mediaStep_cases hs with ⟨outside, event, rfl, hs⟩ | rfl | ⟨i, s, tc, hi, rfl⟩
  · refine foundBefore_step hw hs ?_ ?_ fun _ _ _ => rfl
    · rintro ⟨⟨uid, hrequest⟩, htakes⟩
      cases event with
      | createPushStream => exact hquiet hrequest.2
      | createPullStream => cases htakes.1
      | _ => exact htakes
    · rintro uid answer type id s rfl htype hf hu
      exact absurd ⟨rfl, htype.1 rfl, id, s, hf, hu⟩ hquiet
  · exact .refl
  · exact foundBefore_setStream hi rfl

theorem push_kept_run {es : List MediaEvent} (hw : m.WellFormed ∧ m.AllStreams Wired)
    (hquiet : Common.EveryStep (mediaStep rtc) (fun m e _ => ¬ RetellsPush name m e) m es)
    (h : Common.run (mediaStep rtc) m es = some m') :
    FoundBefore (fun s => s.pc.remoteDesc) .push name m m' := by
  have hinv := Common.inv_of_everyStep
    (I := fun v => (v.WellFormed ∧ v.AllStreams Wired) ∧
      FoundBefore (fun s => s.pc.remoteDesc) .push name m v)
    (fun v e v' hv hs hstep => by
      have hkept := push_kept_step hv.1.1 hs hstep
      exact ⟨wired_step hv.1 hs, hv.2.trans hkept⟩)
    ⟨hw, .refl⟩ hquiet h
  exact hinv.2

/-- **What a puller was told of.** In every run, the offer of a pull stream
announces what the push stream of its name had at the PULL; and what the push
stream has now, where the pusher has not been heard since. -/
theorem announced_of_run {es : List MediaEvent} {pull : RtcStream PeerConnection}
    (hm : Common.run (mediaStep rtc) init es = some m)
    (hpull : m.findPullStream name = some (id, pull)) :
    ∃ before outside, ∃ r : PullRequest, ∃ after m₀ pushId push,
      es = before ++ .stream outside (r.event name) :: after ∧
      Common.run (mediaStep rtc) init before = some m₀ ∧ m₀.next = id ∧
      m₀.findPushStream name = some (pushId, push) ∧
      (r.certificate ≠ none →
        r.Announces rtc (r.offer rtc outside m₀ name) push ∧
        (Common.EveryStep (mediaStep rtc) (fun m e _ => ¬ RetellsPush name m e) m₀
            (.stream outside (r.event name) :: after) →
          ∀ pushId' push', m.findPushStream name = some (pushId', push') → pushId' = pushId ∧
            r.Announces rtc (r.offer rtc outside m₀ name) push')) := by
  obtain ⟨before, e, after, m₀, rfl, hbefore, ⟨outside, r, rfl, hnext, hpushed⟩, -⟩ :=
    Common.exists_since (I := fun m => m.WellFormed ∧ m.AllStreams Wired)
      (P := fun m => ∃ s, m.findPullStream name = some (id, s))
      (fun _ _ _ h hs => wired_step h hs) (fun _ _ _ h hs => pulled_step h.1 hs)
      ⟨wellFormed_init, fun _ _ h => by cases h⟩ (fun ⟨s, hs⟩ => by cases hs) hm ⟨pull, hpull⟩
  obtain ⟨⟨pushId, push⟩, hpush⟩ := Option.ne_none_iff_exists'.1 hpushed
  refine ⟨before, outside, r, after, m₀, pushId, push, rfl, hbefore, hnext, hpush,
    fun hcert => ?_⟩
  have hread := readStreams_run hbefore pushId push (findStream_eq_some.1 hpush).2
  have hannounces : r.Announces rtc (r.offer rtc outside m₀ name) push :=
    announces_pull r hpush hread hcert
  refine ⟨hannounces, fun hquiet pushId' push' hpush' => ?_⟩
  rw [Common.run_append, hbefore, Option.bind_some] at hm
  obtain ⟨push₀, hpush₀, hsame⟩ := push_kept_run (wired_run hbefore) hquiet hm pushId' push' hpush'
  obtain ⟨rfl, rfl⟩ := Prod.mk.inj (Option.some.inj (hpush.symm.trans hpush₀))
  refine ⟨rfl, fun type => ?_⟩
  have hdesc : push'.pc.remoteDesc = push.pc.remoteDesc := hsame
  have hssrcs : remoteSsrcs push' type = remoteSsrcs push type := by
    rw [remoteSsrcs, remoteSsrcs, PeerConnection.remoteStreams, PeerConnection.remoteStreams, hdesc]
  rw [hssrcs]
  exact hannounces type

/-- User 7 pushes `room`. -/
def push7 : MediaEvent :=
  .stream blankSurroundings (.createPushStream 7 "room" true true 1 (some 0))

/-- User 8 pulls it. -/
def pull8 : PullRequest := ⟨8, true, true, 2, some 0⟩

def pulled8 : MediaEvent := .stream blankSurroundings (pull8.event "room")

/-- What user 7 answers: one audio track. -/
def oneTrack : String := "m=audio 9 x\na=fingerprint:sha-1 00\na=ssrc:1 cname:c\na=ssrc:1 msid:s t"

def answer7 : MediaEvent := .stream blankSurroundings (.setAnswer 7 "room" oneTrack "push")

/-- What is looked at of the two streams of `room`: the identities, and the
audio that is pushed. -/
def pushedAudio (m : RtcStreamManager PeerConnection) : Option (ℕ × List UInt32) × Option ℕ :=
  ((m.findPushStream "room").map fun p => (p.1, remoteSsrcs p.2 .audio),
    (m.findPullStream "room").map (·.1))

theorem of_pushedAudio {es : List MediaEvent} {ssrcs : List UInt32} {pullId : Option ℕ}
    (h : (Common.run (mediaStep blankText) init es).map pushedAudio =
      some (some (pushId, ssrcs), pullId)) : ∃ m push,
    Common.run (mediaStep blankText) init es = some m ∧
    m.findPushStream "room" = some (pushId, push) ∧ remoteSsrcs push .audio = ssrcs ∧
    (m.findPullStream "room").map (·.1) = pullId := by
  obtain ⟨m, hm, hseen⟩ := Option.map_eq_some_iff.1 h
  obtain ⟨hpush, hpull⟩ := Prod.mk.inj hseen
  obtain ⟨⟨id, push⟩, hfound, heq⟩ := Option.map_eq_some_iff.1 hpush
  obtain ⟨rfl, hssrcs⟩ := Prod.mk.inj heq
  exact ⟨m, push, hm, hfound, hssrcs, hpull⟩

/-- A PULL behind the answer announces what was answered. -/
theorem announced_of_run_answered : ∃ m₀ push,
    Common.run (mediaStep blankText) init [push7, answer7] = some m₀ ∧
    m₀.findPushStream "room" = some (0, push) ∧ remoteSsrcs push .audio = [1] ∧
    announcedSsrcs blankText .audio (pull8.offer blankText blankSurroundings m₀ "room") = [1] := by
  have hanswered : (Common.run (mediaStep blankText) init [push7, answer7]).map pushedAudio =
      some (some (0, [1]), none) := by decide +kernel
  have hpulled : (Common.run (mediaStep blankText) init [push7, answer7, pulled8]).map pushedAudio =
      some (some (0, [1]), some 1) := by decide +kernel
  obtain ⟨m₀, push, hm₀, hpush, hssrcs, -⟩ := of_pushedAudio hanswered
  obtain ⟨m, -, hm, -, -, hpull⟩ := of_pushedAudio hpulled
  obtain ⟨⟨id, pull⟩, hpull, -⟩ := Option.map_eq_some_iff.1 hpull
  obtain ⟨before, outside, r, after, m₁, pushId, push', hes, hbefore, -, hpush', hannounced⟩ :=
    announced_of_run hm hpull
  -- the run has one PULL, its last event
  obtain ⟨rfl, rfl, rfl⟩ : before = [push7, answer7] ∧ outside = blankSurroundings ∧ r = pull8 := by
    rcases before with _ | ⟨e, _ | ⟨e', _ | ⟨e'', before⟩⟩⟩
    · cases (List.cons.inj hes).1
    · cases (List.cons.inj (List.cons.inj hes).2).1
    · obtain ⟨rfl, hrest⟩ := List.cons.inj hes
      obtain ⟨rfl, hlast⟩ := List.cons.inj hrest
      obtain ⟨uid, audio, video, logId, certificate⟩ := r
      obtain ⟨rfl, hevent⟩ := MediaEvent.stream.inj (List.cons.inj hlast).1
      obtain ⟨rfl, -, rfl, rfl, rfl, rfl⟩ := Event.createPullStream.inj hevent
      exact ⟨rfl, rfl, rfl⟩
    · simp at hes
  obtain rfl := Option.some.inj (hm₀.symm.trans hbefore)
  obtain ⟨-, rfl⟩ := Prod.mk.inj (Option.some.inj (hpush.symm.trans hpush'))
  refine ⟨m₀, push, hm₀, hpush, hssrcs, ?_⟩
  rw [(hannounced (by decide)).1 .audio]
  exact hssrcs

/-- **A PULL before the answer announces nothing of it**, and goes on not to:
the answer is accepted, and both streams are there. -/
theorem pulled_before_answer : ∃ m₀ m₁ m push₁ push pull,
    Common.run (mediaStep blankText) init [push7] = some m₀ ∧
    Common.run (mediaStep blankText) init [push7, pulled8] = some m₁ ∧
    Common.run (mediaStep blankText) init [push7, pulled8, answer7] = some m ∧
    m₁.findPushStream "room" = some (0, push₁) ∧
    (push₁.pc.setRemoteSdp blankText oneTrack).2 = .ok 0 ∧
    m.findPushStream "room" = some (0, push) ∧ m.findPullStream "room" = some (1, pull) ∧
    announcedSsrcs blankText .audio (pull8.offer blankText blankSurroundings m₀ "room") = [] ∧
    remoteSsrcs push .audio = [1] := by
  have hpushed : (Common.run (mediaStep blankText) init [push7]).map pushedAudio =
      some (some (0, []), none) := by decide +kernel
  have haccepted : (Common.run (mediaStep blankText) init [push7, pulled8]).map (fun m =>
      (m.findPushStream "room").map fun p =>
        (p.1, decide ((p.2.pc.setRemoteSdp blankText oneTrack).2 = .ok 0))) =
      some (some (0, true)) := by decide +kernel
  have hanswered : (Common.run (mediaStep blankText) init [push7, pulled8, answer7]).map
      pushedAudio = some (some (0, [1]), some 1) := by decide +kernel
  obtain ⟨m₀, push₀, hm₀, hpush₀, hnone, -⟩ := of_pushedAudio hpushed
  obtain ⟨m₁, hm₁, hseen⟩ := Option.map_eq_some_iff.1 haccepted
  obtain ⟨⟨id, push₁⟩, hpush₁, heq⟩ := Option.map_eq_some_iff.1 hseen
  obtain ⟨rfl, hok⟩ := Prod.mk.inj heq
  obtain ⟨m, push, hm, hpush, hssrcs, hpull⟩ := of_pushedAudio hanswered
  obtain ⟨⟨id, pull⟩, hpull, rfl⟩ := Option.map_eq_some_iff.1 hpull
  refine ⟨m₀, m₁, m, push₁, push, pull, hm₀, hm₁, hm, hpush₁, of_decide_eq_true hok, hpush, hpull,
    ?_, hssrcs⟩
  have hread := readStreams_run hm₀ 0 push₀ (findStream_eq_some.1 hpush₀).2
  rw [announces_pull pull8 hpush₀ hread (by decide) .audio]
  exact hnone

end Stream

end XrtcServer
