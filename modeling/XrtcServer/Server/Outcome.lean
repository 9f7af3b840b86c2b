import XrtcServer.Server.Model.RtcWorker
import XrtcServer.Stream.Ownership
import XrtcServer.Pc.Finishes
/-!
# What a response says of its request

A worker answers a request with error number `0` or `-1`. The number is what
the manager's call returned, and three of the five calls do not look whether
they did anything: a stop that finds no stream, an answer that was refused
and an offer that could not be made are all reported as done (`Doable`).
-/

namespace XrtcServer

namespace Server

open Base Pc XrtcServer.Stream RtcStreamManager

variable {rtc : RtcText} {outside : Surroundings} {mgr mgr' : RtcStreamManager PeerConnection}
variable {msg response : RtcMsg} {t : RtcStreamType}

/-- **A request as it comes to a worker**: one of the five commands, with no
error yet. -/
def IsRequest (msg : RtcMsg) : Prop :=
  msg.errNo = 0 ∧ (msg.cmdno = CMDNO_PUSH ∨ msg.cmdno = CMDNO_PULL ∨ msg.cmdno = CMDNO_STOPPUSH ∨
    msg.cmdno = CMDNO_STOPPULL ∨ msg.cmdno = CMDNO_ANSWER)

/-- The stream a request names, where its user owns it. -/
def Owned (mgr : RtcStreamManager PeerConnection) (t : RtcStreamType) (msg : RtcMsg) (id : ℕ)
    (s : RtcStream PeerConnection) : Prop :=
  mgr.findStream t msg.streamName = some (id, s) ∧ msg.uid = s.uid

/-- The type of stream an answer is for. -/
def answerType (msg : RtcMsg) : RtcStreamType := if msg.streamType = "push" then .push else .pull

/-- A stream of the user is registered, and its offer is in the response. -/
def Registered (mgr mgr' : RtcStreamManager PeerConnection) (t : RtcStreamType)
    (msg response : RtcMsg) : Prop :=
  response.sdp ≠ "" ∧
    ∃ s, mgr'.findStream t msg.streamName = some (mgr.next, s) ∧ s.uid = msg.uid

/-- A stream that the user owned is gone. -/
def Removed (mgr mgr' : RtcStreamManager PeerConnection) (t : RtcStreamType) (msg : RtcMsg) :
    Prop :=
  ∃ id s, Owned mgr t msg id s ∧ mgr'.findStream t msg.streamName = none ∧ mgr'.streams id = none

/-- The answer was parsed and applied to a stream that the user owns. -/
def Applied (rtc : RtcText) (mgr mgr' : RtcStreamManager PeerConnection) (msg : RtcMsg) : Prop :=
  ∃ id s pc', Owned mgr (answerType msg) msg id s ∧
    s.pc.setRemoteSdp rtc msg.sdp = (pc', .ok 0) ∧ mgr'.streams id = some { s with pc := pc' }

/-- **The request took effect**, as its command has it. -/
@[mk_iff] structure TookEffect (rtc : RtcText) (mgr mgr' : RtcStreamManager PeerConnection)
    (msg response : RtcMsg) : Prop where
  push : msg.cmdno = CMDNO_PUSH → Registered mgr mgr' .push msg response
  pull : msg.cmdno = CMDNO_PULL → Registered mgr mgr' .pull msg response
  stopPush : msg.cmdno = CMDNO_STOPPUSH → Removed mgr mgr' .push msg
  stopPull : msg.cmdno = CMDNO_STOPPULL → Removed mgr mgr' .pull msg
  answer : msg.cmdno = CMDNO_ANSWER → Applied rtc mgr mgr' msg

/-- The handler of the request returns: no answer faults. -/
def Returns (rtc : RtcText) (mgr : RtcStreamManager PeerConnection) (msg : RtcMsg) : Prop :=
  msg.cmdno = CMDNO_ANSWER → ∀ id s, Owned mgr (answerType msg) msg id s →
    ∃ ret, (s.pc.setRemoteSdp rtc msg.sdp).2 = .ok ret

/-- **The response tells what became of the request**: `0` where it took
effect and nowhere else, and `-1` only where nothing was changed. -/
def Reported (rtc : RtcText) (outside : Surroundings) (mgr : RtcStreamManager PeerConnection)
    (msg : RtcMsg) : Prop :=
  Returns rtc mgr msg ∧ ∃ mgr' response,
    RtcWorker.processRtcMsg (ops rtc outside) mgr msg = (mgr', some response) ∧
    (response.errNo = 0 ↔ TookEffect rtc mgr mgr' msg response) ∧
    (response.errNo = -1 → mgr' = mgr)

/-- **The request can be done, or the manager says that it cannot.** -/
@[mk_iff] structure Doable (rtc : RtcText) (mgr : RtcStreamManager PeerConnection) (msg : RtcMsg) :
    Prop where
  push : msg.cmdno = CMDNO_PUSH → msg.certificate ≠ none
  pull : msg.cmdno = CMDNO_PULL → mgr.findPushStream msg.streamName ≠ none →
    msg.certificate ≠ none
  stopPush : msg.cmdno = CMDNO_STOPPUSH → ∃ id s, Owned mgr .push msg id s
  stopPull : msg.cmdno = CMDNO_STOPPULL → ∃ id s, Owned mgr .pull msg id s
  answer : msg.cmdno = CMDNO_ANSWER → ∀ id s, Owned mgr (answerType msg) msg id s →
    Pc.Accepted rtc s.pc msg.sdp

/-! ## The commands -/

/-- What a worker's handling of a message comes down to. -/
theorem reported_of_eq
    (h : RtcWorker.processRtcMsg (ops rtc outside) mgr msg = (mgr', some response)) :
    Reported rtc outside mgr msg ↔ Returns rtc mgr msg ∧
      (response.errNo = 0 ↔ TookEffect rtc mgr mgr' msg response) ∧
      (response.errNo = -1 → mgr' = mgr) := by
  refine and_congr_right fun _ => ⟨?_, fun hreport => ⟨mgr', response, h, hreport⟩⟩
  rintro ⟨mgr'', response', h', hreport⟩
  obtain ⟨rfl, hresponse⟩ := Prod.mk.inj (h.symm.trans h')
  obtain rfl := Option.some.inj hresponse
  exact hreport

/-- A response without an error tells the truth where something was done. -/
theorem reported_of_zero
    (h : RtcWorker.processRtcMsg (ops rtc outside) mgr msg = (mgr', some response))
    (hzero : response.errNo = 0) :
    Reported rtc outside mgr msg ↔
      Returns rtc mgr msg ∧ TookEffect rtc mgr mgr' msg response := by
  rw [reported_of_eq h, hzero]
  simp

/-- One with an error does where nothing was changed, nor done. -/
theorem reported_of_error
    (h : RtcWorker.processRtcMsg (ops rtc outside) mgr msg = (mgr, some response))
    (herror : response.errNo = -1) :
    Reported rtc outside mgr msg ↔
      Returns rtc mgr msg ∧ ¬ TookEffect rtc mgr mgr msg response := by
  rw [reported_of_eq h, herror]
  simp

/-- Only an answer can be left without returning. -/
theorem returns_of_ne (h : msg.cmdno ≠ CMDNO_ANSWER) : Returns rtc mgr msg :=
  fun hanswer => absurd hanswer h

/-- The offer of a started stream is empty where there is no certificate. -/
theorem offer_ne_empty (s : RtcStream PeerConnection) (certificate : Option ℕ) :
    (RtcStream.createOffer (ops rtc outside) (s.start (ops rtc outside) certificate)).2 ≠ "" ↔
      certificate ≠ none := by
  have hdtls : s.offerOptions.dtlsOn = true := by
    unfold RtcStream.offerOptions
    split <;> rfl
  change (PeerConnection.createOffer rtc outside (s.pc.init certificate) s.offerOptions).2 ≠ "" ↔ _
  constructor
  · rintro htext rfl
    rw [PeerConnection.createOffer, if_pos ⟨hdtls, rfl⟩] at htext
    exact htext rfl
  · intro hcert
    exact createOffer_text fun h => hcert h.2

/-- A stream that is added under the name is registered, where its offer has
text. -/
theorem registered_addStream {m : RtcStreamManager PeerConnection} (hnext : m.next = mgr.next)
    {s : RtcStream PeerConnection} (htype : s.streamType = t) (hname : s.streamName = msg.streamName)
    (huid : s.uid = msg.uid) :
    Registered mgr (m.addStream s) t msg response ↔ response.sdp ≠ "" := by
  refine ⟨fun h => h.1, fun h => ⟨h, s, ?_, huid⟩⟩
  rw [← htype, ← hname, findStream_addStream_self, hnext]

theorem reported_push (hreq : msg.errNo = 0) (h : msg.cmdno = CMDNO_PUSH) :
    Reported rtc outside mgr msg ↔ Doable rtc mgr msg := by
  let stream : RtcStream PeerConnection :=
    ⟨.push, msg.uid, msg.streamName, msg.audio ≠ 0, msg.video ≠ 0, msg.logId, {}, .new, .none⟩
  let offered := RtcStream.createOffer (ops rtc outside)
    (stream.start (ops rtc outside) msg.certificate)
  have hresult : RtcWorker.processRtcMsg (ops rtc outside) mgr msg =
      (mgr.addStream offered.1, some { msg with sdp := offered.2 }) := if_pos h
  have hdone : Registered mgr (mgr.addStream offered.1) .push msg { msg with sdp := offered.2 } ↔
      offered.2 ≠ "" := registered_addStream rfl rfl rfl rfl
  have htext : offered.2 ≠ "" ↔ msg.certificate ≠ none := offer_ne_empty stream msg.certificate
  have hreturns : Returns rtc mgr msg := returns_of_ne (by rw [h]; decide)
  rw [reported_of_zero hresult hreq, tookEffect_iff, doable_iff, hdone, htext]
  simp [h, hreturns, CMDNO_PUSH, CMDNO_PULL, CMDNO_STOPPUSH, CMDNO_STOPPULL, CMDNO_ANSWER]

theorem reported_pull (hreq : msg.errNo = 0) (h : msg.cmdno = CMDNO_PULL) :
    Reported rtc outside mgr msg ↔ Doable rtc mgr msg := by
  have hreturns : Returns rtc mgr msg := returns_of_ne (by rw [h]; decide)
  have hprocess : RtcWorker.processRtcMsg (ops rtc outside) mgr msg =
      (RtcWorker.processPull (ops rtc outside) mgr msg).map id some := by
    simp [RtcWorker.processRtcMsg, h, CMDNO_PUSH, CMDNO_PULL]
  rw [RtcWorker.processPull, createPullStream] at hprocess
  cases hpush : mgr.findPushStream msg.streamName with
  | none =>
    rw [hpush] at hprocess
    have hresult : RtcWorker.processRtcMsg (ops rtc outside) mgr msg =
        (mgr, some { msg with errNo := -1, sdp := "" }) := hprocess
    rw [reported_of_error hresult rfl, tookEffect_iff, doable_iff]
    simp [h, hreturns, Registered, hpush, CMDNO_PUSH, CMDNO_PULL, CMDNO_STOPPUSH, CMDNO_STOPPULL,
      CMDNO_ANSWER]
  | some found =>
    obtain ⟨i, pushStream⟩ := found
    let stream : RtcStream PeerConnection :=
      ⟨.pull, msg.uid, msg.streamName, msg.audio ≠ 0, msg.video ≠ 0, msg.logId, {}, .new, .none⟩
    let sourced := stream.addSources (ops rtc outside)
      (pushStream.getAudioSource (ops rtc outside)) (pushStream.getVideoSource (ops rtc outside))
    let offered := RtcStream.createOffer (ops rtc outside)
      (sourced.start (ops rtc outside) msg.certificate)
    let removed := mgr.removePullStream msg.uid msg.streamName
    rw [hpush] at hprocess
    have hresult : RtcWorker.processRtcMsg (ops rtc outside) mgr msg =
        (removed.addStream offered.1, some { msg with sdp := offered.2 }) := hprocess
    have hnext : removed.next = mgr.next := by
      rcases removeStream_cases mgr .pull msg.uid msg.streamName with heq | ⟨_, _, -, -, heq⟩
      · rw [show removed = mgr from heq]
      · rw [show removed = _ from heq]
        rfl
    have hdone : Registered mgr (removed.addStream offered.1) .pull msg
        { msg with sdp := offered.2 } ↔ offered.2 ≠ "" := registered_addStream hnext rfl rfl rfl
    have htext : offered.2 ≠ "" ↔ msg.certificate ≠ none := offer_ne_empty sourced msg.certificate
    rw [reported_of_zero hresult hreq, tookEffect_iff, doable_iff, hdone, htext]
    simp [h, hreturns, hpush, CMDNO_PUSH, CMDNO_PULL, CMDNO_STOPPUSH, CMDNO_STOPPULL, CMDNO_ANSWER]

/-- **A stop removes the stream that its user owns**, where there is one. -/
theorem removed_iff : Removed mgr (mgr.removeStream t msg.uid msg.streamName) t msg ↔
    ∃ id s, Owned mgr t msg id s := by
  constructor
  · rintro ⟨id, s, howned, -⟩
    exact ⟨id, s, howned⟩
  · rintro ⟨id, s, hfound, huid⟩
    refine ⟨id, s, ⟨hfound, huid⟩, ?_⟩
    rw [removeStream, hfound]
    dsimp only
    rw [if_pos huid]
    refine ⟨?_, Function.update_self ..⟩
    rw [findStream, setStream_table, setEntry_table_self]
    rfl

theorem reported_stopPush (hreq : msg.errNo = 0) (h : msg.cmdno = CMDNO_STOPPUSH) :
    Reported rtc outside mgr msg ↔ Doable rtc mgr msg := by
  have hreturns : Returns rtc mgr msg := returns_of_ne (by rw [h]; decide)
  have hresult : RtcWorker.processRtcMsg (ops rtc outside) mgr msg =
      (mgr.removeStream .push msg.uid msg.streamName, some msg) := by
    simp only [RtcWorker.processRtcMsg, h, CMDNO_PUSH, CMDNO_PULL, CMDNO_STOPPUSH]
    rfl
  rw [reported_of_zero hresult hreq, tookEffect_iff, doable_iff, removed_iff]
  simp [h, hreturns, CMDNO_PUSH, CMDNO_PULL, CMDNO_STOPPUSH, CMDNO_STOPPULL, CMDNO_ANSWER]

theorem reported_stopPull (hreq : msg.errNo = 0) (h : msg.cmdno = CMDNO_STOPPULL) :
    Reported rtc outside mgr msg ↔ Doable rtc mgr msg := by
  have hreturns : Returns rtc mgr msg := returns_of_ne (by rw [h]; decide)
  have hresult : RtcWorker.processRtcMsg (ops rtc outside) mgr msg =
      (mgr.removeStream .pull msg.uid msg.streamName, some msg) := by
    simp only [RtcWorker.processRtcMsg, h, CMDNO_PUSH, CMDNO_PULL, CMDNO_STOPPUSH, CMDNO_STOPPULL]
    rfl
  rw [reported_of_zero hresult hreq, tookEffect_iff, doable_iff, removed_iff]
  simp [h, hreturns, CMDNO_PUSH, CMDNO_PULL, CMDNO_STOPPUSH, CMDNO_STOPPULL, CMDNO_ANSWER]

theorem reported_answer (hreq : msg.errNo = 0) (h : msg.cmdno = CMDNO_ANSWER) :
    Reported rtc outside mgr msg ↔ Doable rtc mgr msg := by
  have hset : mgr.setAnswer (ops rtc outside) msg.uid msg.streamName msg.sdp msg.streamType =
      mgr.answerStream (ops rtc outside) (answerType msg) msg.uid msg.streamName msg.sdp := by
    unfold setAnswer answerType
    split <;> rfl
  have hprocess : RtcWorker.processRtcMsg (ops rtc outside) mgr msg =
      (RtcWorker.processAnswer (ops rtc outside) mgr msg).map id some := by
    simp [RtcWorker.processRtcMsg, h, CMDNO_PUSH, CMDNO_PULL, CMDNO_STOPPUSH, CMDNO_STOPPULL,
      CMDNO_ANSWER]
  rw [RtcWorker.processAnswer, hset, answerStream] at hprocess
  have hdoable : Doable rtc mgr msg ↔
      ∀ id s, Owned mgr (answerType msg) msg id s → Pc.Accepted rtc s.pc msg.sdp := by
    rw [doable_iff]
    simp [h, CMDNO_PUSH, CMDNO_PULL, CMDNO_STOPPUSH, CMDNO_STOPPULL, CMDNO_ANSWER]
  have heffect : ∀ mgr' response, TookEffect rtc mgr mgr' msg response ↔ Applied rtc mgr mgr' msg := by
    intro mgr' response
    rw [tookEffect_iff]
    simp [h, CMDNO_PUSH, CMDNO_PULL, CMDNO_STOPPUSH, CMDNO_STOPPULL, CMDNO_ANSWER]
  by_cases howned : ∃ id s, Owned mgr (answerType msg) msg id s
  · obtain ⟨id, s, hfound, huid⟩ := howned
    let pc' := (s.pc.setRemoteSdp rtc msg.sdp).1
    have hresult : RtcWorker.processRtcMsg (ops rtc outside) mgr msg =
        (mgr.setStream id (some { s with pc := pc' }), some msg) := by
      rw [hprocess, hfound]
      dsimp only
      rw [if_neg (not_not.2 huid), setRemoteSdp_ops]
      rfl
    have hsame : ∀ id' s', Owned mgr (answerType msg) msg id' s' → id' = id ∧ s' = s := by
      rintro id' s' ⟨hfound', -⟩
      exact Prod.mk.inj (Option.some.inj (hfound'.symm.trans hfound))
    rw [reported_of_zero hresult hreq, heffect, hdoable]
    constructor
    · rintro ⟨-, id', s', pc'', howned', haccepts, -⟩ id₁ s₁ howned₁
      obtain ⟨-, rfl⟩ := hsame id' s' howned'
      obtain ⟨-, rfl⟩ := hsame id₁ s₁ howned₁
      exact (accepted_iff rtc s₁.pc msg.sdp).1 ⟨pc'', haccepts⟩
    · intro haccepted
      obtain ⟨pc'', haccepts⟩ := (accepted_iff rtc s.pc msg.sdp).2 (haccepted id s ⟨hfound, huid⟩)
      refine ⟨?_, id, s, pc'', ⟨hfound, huid⟩, haccepts, ?_⟩
      · intro _ id' s' howned'
        obtain ⟨-, rfl⟩ := hsame id' s' howned'
        exact ⟨0, by rw [haccepts]⟩
      · have hpc : pc' = pc'' := congrArg Prod.fst haccepts
        rw [setStream_streams, Function.update_self, hpc]
  · -- no stream of the user's: the answer is refused, and nothing is touched
    have hresult : RtcWorker.processRtcMsg (ops rtc outside) mgr msg =
        (mgr, some { msg with errNo := -1 }) := by
      rw [hprocess]
      cases hfound : mgr.findStream (answerType msg) msg.streamName with
      | none => rfl
      | some found =>
        obtain ⟨id, s⟩ := found
        have hne : msg.uid ≠ s.uid := fun huid => howned ⟨id, s, hfound, huid⟩
        dsimp only
        rw [if_pos hne]
        rfl
    rw [reported_of_error hresult rfl, heffect, hdoable]
    refine iff_of_true ⟨?_, ?_⟩ ?_
    · exact fun _ id s h' => absurd ⟨id, s, h'⟩ howned
    · rintro ⟨id, s, pc', h', -⟩
      exact howned ⟨id, s, h'⟩
    · exact fun id s h' => absurd ⟨id, s, h'⟩ howned

/-- **When a response tells what became of its request.** -/
theorem reported_iff (rtc : RtcText) (outside : Surroundings)
    (mgr : RtcStreamManager PeerConnection) (msg : RtcMsg) (h : IsRequest msg) :
    Reported rtc outside mgr msg ↔ Doable rtc mgr msg := by
  obtain ⟨hreq, h | h | h | h | h⟩ := h
  · exact reported_push hreq h
  · exact reported_pull hreq h
  · exact reported_stopPush hreq h
  · exact reported_stopPull hreq h
  · exact reported_answer hreq h

/-- User 7 stops what nobody pushes. -/
def stopMissing : RtcMsg := { cmdno := CMDNO_STOPPUSH, uid := 7, streamName := "room" }

/-- User 7 answers the push of the same name with an empty text. -/
def emptyAnswer : RtcMsg :=
  { cmdno := CMDNO_ANSWER, uid := 7, streamName := "room", streamType := "push" }

/-- A manager where user 7 pushes. -/
def pushing : RtcStreamManager PeerConnection :=
  (init.createPushStream (ops blankText blankSurroundings) 7 "room" true true 1 (some 0)).1

theorem reported_iff_push : Reported blankText blankSurroundings init
    { cmdno := CMDNO_PUSH, uid := 7, streamName := "room", certificate := some 0 } := by
  refine (reported_iff _ _ _ _ ⟨rfl, .inl rfl⟩).2 ⟨?_, ?_, ?_, ?_, ?_⟩
  · intro _ hnone
    cases hnone
  all_goals exact fun h => absurd h (by decide)

/-- A stop that finds nothing and an answer that is refused are reported as done. -/
theorem reported_without_effect :
    (IsRequest stopMissing ∧ ¬ Reported blankText blankSurroundings init stopMissing) ∧
    (IsRequest emptyAnswer ∧ ¬ Reported blankText blankSurroundings pushing emptyAnswer) := by
  refine ⟨⟨⟨rfl, by decide⟩, ?_⟩, ⟨⟨rfl, by decide⟩, ?_⟩⟩
  · rintro ⟨-, mgr', response, h, hzero, -⟩
    obtain ⟨rfl, hresponse⟩ := Prod.mk.inj h
    obtain rfl := Option.some.inj hresponse
    obtain ⟨id, s, ⟨hfound, -⟩, -⟩ := (hzero.1 rfl).stopPush rfl
    cases hfound
  · rintro ⟨-, mgr', response, h, hzero, -⟩
    obtain ⟨rfl, hresponse⟩ := Prod.mk.inj h
    obtain rfl := Option.some.inj hresponse
    obtain ⟨id, s, pc', -, haccepts, -⟩ := (hzero.1 rfl).answer rfl
    -- an empty text has no lines
    rw [PeerConnection.setRemoteSdp, if_pos (by decide)] at haccepts
    cases haccepts

end Server

end XrtcServer
