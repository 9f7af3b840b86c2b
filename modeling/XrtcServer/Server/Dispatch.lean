import XrtcServer.Server.Model.Dispatch
import XrtcServer.Server.Request
/-!
# One handler, one response

Every message passed to `RtcServer::send_rtc_msg` is handled by the worker
of its stream and by no other, in the order the messages of that worker
entered the server's queue, and answered once in the queue of the signaling
worker in it. `Promise` is what each handler does with one message;
`Inv` carries it, with the relay's own invariants, along a run.
-/

namespace XrtcServer

namespace Server

open Common Relay XrtcServer.Stream

variable {PC : Type} {parse : List UInt8 → Except JsonException Json}
variable {crc32 : String → UInt32} {ops : PeerConnectionOps PC} {W : ℕ}

/-! ## What the handlers do with one message -/

/-- A response to a message: the same object with its `sdp` and `err_no`
filled in. -/
def Responds (msg r : RtcMsg) : Prop := ∃ sdp errNo, r = { msg with sdp := sdp, errNo := errNo }

theorem responds_withRet (ret : ℤ) (msg : RtcMsg) : Responds msg (RtcWorker.withRet ret msg) := by
  unfold RtcWorker.withRet
  split
  · exact ⟨msg.sdp, -1, rfl⟩
  · exact ⟨msg.sdp, msg.errNo, rfl⟩

theorem responds_offer (ret : ℤ) (offer : String) (msg : RtcMsg) :
    Responds msg { RtcWorker.withRet ret msg with sdp := offer } := by
  obtain ⟨sdp, errNo, h⟩ := responds_withRet ret msg
  exact ⟨offer, errNo, by rw [h]⟩

/-- **A worker answers every known command**, with the message it handled. -/
theorem processRtcMsg_responds (ops : PeerConnectionOps PC) (mgr : RtcStreamManager PC) {msg : RtcMsg}
    (hk : (commandFields msg.cmdno).isSome) :
    ∃ r, (RtcWorker.processRtcMsg ops mgr msg).2 = some r ∧ Responds msg r := by
  unfold RtcWorker.processRtcMsg
  split
  · exact ⟨_, rfl, responds_offer _ _ msg⟩
  · split
    · exact ⟨_, rfl, responds_offer _ _ msg⟩
    · split
      · exact ⟨_, rfl, responds_withRet _ msg⟩
      · split
        · exact ⟨_, rfl, responds_withRet _ msg⟩
        · split
          · exact ⟨_, rfl, responds_withRet _ msg⟩
          · rename_i hpush hpull hstopPush hstopPull hanswer
            simp only [commandFields, if_neg hpush, if_neg hpull, if_neg hstopPush,
              if_neg hstopPull, if_neg hanswer] at hk
            cases hk

variable {M : ℕ}

/-- The worker of a message: the one its stream's name is hashed to. -/
def route (crc32 : String → UInt32) (M : ℕ) (p : Parcel) : ℕ :=
  (crc32 p.msg.streamName).toNat % M

/-- A message after the server's handler. -/
def Parcel.stamp (p : Parcel) (certificate : Option ℕ) : Parcel :=
  { p with msg := { p.msg with certificate := certificate } }

/-- **What a thread's handler does with one message**: the server forwards
it to the worker of its stream, the worker answers a known command to the
signaling worker in it, and a signaling worker forwards nothing. -/
def Promise (crc32 : String → UInt32) (M : ℕ) (node : Node) (p : Parcel)
    (f : Option (Parcel × Node)) : Prop :=
  match node with
  | .signaling _ => f = none
  | .server => ∃ c, f = some (p.stamp c, .worker (route crc32 M p))
  | .worker _ => (∀ g, f = some g → ∃ w, g.2 = .signaling w) ∧
      ((commandFields p.msg.cmdno).isSome → ∀ w, p.msg.worker = some w →
        ∃ r, f = some ({ p with msg := r }, .signaling w) ∧ Responds p.msg r)

/-- All `M` workers of a server are there. -/
structure AllWorkers (M : ℕ) (server : RtcServer) : Prop where
  workerNum : server.workerNum = M
  workers : server.workers = List.range M

theorem getWorker_eq {server : RtcServer} (hpos : 0 < M) (hint : M < 2 ^ 31)
    (h : AllWorkers M server) (name : String) :
    server.getWorker crc32 name = some ((crc32 name).toNat % M) := by
  have hsize : (M : ℤ) % 2 ^ 64 = M := by omega
  have hunsigned : ((M : ℤ) % 2 ^ 32).toNat = M := by omega
  unfold RtcServer.getWorker
  rw [h.workerNum, h.workers, List.length_range, hsize, hunsigned, if_neg (by omega)]
  exact List.getElem?_range (Nat.mod_lt _ hpos)

theorem server_promise (crc32 : String → UInt32) {server : RtcServer} (hpos : 0 < M) (hint : M < 2 ^ 31)
    (h : AllWorkers M server) (cert : CertificateInput) (hcert : cert.generated.isSome)
    (msg : RtcMsg) :
    let r := server.processRtcMsg crc32 cert.expired cert.generated msg
    AllWorkers M r.1 ∧
      ∃ c, r.2 = some ({ msg with certificate := c }, (crc32 msg.streamName).toNat % M) := by
  have hcheck : ∃ c, server.generateAndCheckCertificate cert.expired cert.generated =
      ({ server with certificate := some c }, 0) := by
    obtain ⟨c, hc⟩ := Option.isSome_iff_exists.1 hcert
    unfold RtcServer.generateAndCheckCertificate
    split
    · exact ⟨c, by simp [hc]⟩
    · rename_i hkept
      obtain ⟨c, hc⟩ := Option.ne_none_iff_exists'.1 fun hn => hkept (.inl hn)
      have hsame : { server with certificate := some c } = server := by rw [← hc]
      exact ⟨c, by rw [hsame, if_neg (by simp [hc])]⟩
  obtain ⟨c, hc⟩ := hcheck
  have hall : AllWorkers M { server with certificate := some c } := ⟨h.workerNum, h.workers⟩
  unfold RtcServer.processRtcMsg
  rw [hc]
  simp only [ne_eq, not_true_eq_false, if_false, getWorker_eq hpos hint hall, Option.map_some]
  exact ⟨hall, some c, rfl⟩

/-- **Every handler keeps its promise**, where a certificate can be made. -/
theorem handleParcel_promise (hpos : 0 < M) (hint : M < 2 ^ 31) {node : Node} {st : Store PC}
    {cert : CertificateInput} {p : Parcel} (h : AllWorkers M st.server)
    (hcert : node = .server → cert.generated.isSome) :
    AllWorkers M (handleParcel crc32 ops node st cert p).1.server ∧
      Promise crc32 M node p (handleParcel crc32 ops node st cert p).2 := by
  cases node with
  | signaling w => exact ⟨h, rfl⟩
  | server =>
    obtain ⟨hall, c, hc⟩ := server_promise crc32 hpos hint h cert (hcert rfl) p.msg
    refine ⟨hall, c, ?_⟩
    simp only [handleParcel, hc, Option.map_some]
    rfl
  | worker k =>
    refine ⟨h, fun g hg => ?_, fun hk w hw => ?_⟩
    · obtain ⟨msg, -, hg⟩ := Option.bind_eq_some_iff.1 hg
      obtain ⟨w, -, rfl⟩ := Option.map_eq_some_iff.1 hg
      exact ⟨w, rfl⟩
    · obtain ⟨r, hr, sdp, errNo, heq⟩ :=
        processRtcMsg_responds ops (st.managers k) hk
      refine ⟨r, ?_, sdp, errNo, heq⟩
      have hworker : r.worker = some w := by rw [heq, ← hw]
      simp only [handleParcel, hr, Option.bind_some, hworker, Option.map_some]

theorem streamCallback_server {node : Node} {st st' : Store PC} {e : Stream.Event}
    (h : streamCallback ops node st e = some st') : st'.server = st.server := by
  unfold streamCallback at h
  split at h
  · obtain ⟨mgr, -, rfl⟩ := Option.map_eq_some_iff.1 h
    rfl
  · obtain ⟨mgr, -, rfl⟩ := Option.map_eq_some_iff.1 h
    rfl
  · cases h

/-- How many times a message in a thread's queue is still forwarded. -/
def hops : Node → ℕ
  | .server => 2
  | .worker _ => 1
  | .signaling _ => 0

/-- A certificate can be made whenever the server asks for one. -/
def DispatchEvent.CertificateAvailable : DispatchEvent → Prop
  | .process .server cert => cert.generated.isSome
  | _ => True

/-- The steps that only carry on what has been sent. -/
def DispatchEvent.relays : DispatchEvent → Bool
  | .request .. | .callback .. => false
  | _ => true

/-- What an action of a thread may be: only a signaling worker's request
sends, to the server, under the next number. -/
structure Allowed (s : System PC) (node : Node) (a : Act Node Parcel CertificateInput Stream.Event) :
    Prop where
  sends : ∀ p d, a = .send p d → d = .server ∧ p.id = (s.history .server).length ∧
    ∃ o, FromOrigin o p.msg
  certificate : ∀ cert, a = .take cert → node = .server → cert.generated.isSome

/-- **A step is a refused request or a step of the relay.** -/
theorem step_cases {server : RtcServer} {s s' : System PC} {e : DispatchEvent}
    (hcert : e.CertificateAvailable) (h : s.step parse crc32 ops W server e = some s') :
    s' = s ∨ ∃ node a, (threads crc32 ops W server).step s (node, a) = some s' ∧
      Allowed s node a := by
  cases e with
  | request w conn fd header body =>
    simp only [System.step] at h
    split at h
    · exact .inl (Option.some.inj h).symm
    · rename_i msg rest hsent
      refine .inr ⟨_, _, h, fun p d hpd => ?_, fun _ hc => nomatch hc⟩
      cases hpd
      exact ⟨rfl, rfl, _, processRequest_sent (by rw [hsent]; exact List.mem_cons_self)⟩
  | notify node => exact .inr ⟨_, _, h, fun _ _ hp => (nomatch hp), fun _ hc => nomatch hc⟩
  | wake node => exact .inr ⟨_, _, h, fun _ _ hp => (nomatch hp), fun _ hc => nomatch hc⟩
  | process node cert =>
    refine .inr ⟨_, _, h, fun _ _ hp => (nomatch hp), fun cert' hc hn => ?_⟩
    cases hc
    subst hn
    exact hcert
  | forward node => exact .inr ⟨_, _, h, fun _ _ hp => (nomatch hp), fun _ hc => nomatch hc⟩
  | callback node e => exact .inr ⟨_, _, h, fun _ _ hp => (nomatch hp), fun _ hc => nomatch hc⟩

/-! ## The invariant -/

/-- **What holds in every state of a run.** -/
structure Inv (crc32 : String → UInt32) (ops : PeerConnectionOps PC) (W M : ℕ) (server : RtcServer)
    (s : System PC) : Prop where
  covered : (threads crc32 ops W server).Covered s
  ledger : Ledger s
  promises : AllWorkers M s.store.server ∧ ∀ node, ∀ x ∈ s.took node, Promise crc32 M node x.1 x.2
  /-- Only the server's queue is entered from outside. -/
  outside : ∀ node, ∀ e ∈ s.history node, e.1 = none ↔ node = .server
  origins : ∀ e ∈ s.history .server, ∃ o, FromOrigin o e.2.msg
  ids : s.entered.map Parcel.id = List.range s.entered.length

theorem inv_init {server : RtcServer} (h : AllWorkers M server) :
    Inv crc32 ops W M server (System.init server) where
  covered := covered_init _
  ledger := ledger_init _
  promises := ⟨h, fun _ _ hx => nomatch hx⟩
  outside := fun _ _ he => nomatch he
  origins := fun _ he => nomatch he
  ids := rfl

variable {server : RtcServer} {s s' : System PC}

/-- Nothing is forwarded to the server. -/
theorem not_carrying_server (h : Inv crc32 ops W M server s) {node : Node} {p : Parcel} :
    s.phase node ≠ .carrying p .server := by
  intro hph
  obtain ⟨x, hx, hf⟩ := carrying_took h.ledger hph
  have hpromise := h.promises.2 node x hx
  rw [hf] at hpromise
  cases node with
  | signaling w => cases hpromise
  | server =>
    obtain ⟨c, hc⟩ := hpromise
    cases hc
  | worker k =>
    obtain ⟨w, hw⟩ := hpromise.1 _ rfl
    cases hw

/-- The histories keep what the invariant says of them: a new entry is a
request for the server, or forwarded to somebody else. -/
theorem history_inv (h : Inv crc32 ops W M server s) {node : Node}
    {a : Act Node Parcel CertificateInput Stream.Event} (ha : Allowed s node a)
    (hs : (threads crc32 ops W server).step s (node, a) = some s') :
    (∀ node, ∀ e ∈ s'.history node, e.1 = none ↔ node = .server) ∧
      (∀ e ∈ s'.history .server, ∃ o, FromOrigin o e.2.msg) ∧
      s'.entered.map Parcel.id = List.range s'.entered.length := by
  unfold System.entered
  rcases history_step hs with hsame | ⟨p, d, hsend, hnew⟩ | ⟨p, d, hph, hnew⟩
  · rw [hsame]
    exact ⟨h.outside, h.origins, h.ids⟩
  · obtain ⟨rfl, hid, horigin⟩ := ha.sends p d hsend
    rw [hnew]
    refine ⟨fun j e he => ?_, fun e he => ?_, ?_⟩
    · rw [State.enqueue_history] at he
      split at he
      · rename_i hj
        rcases List.mem_append.1 he with he | he
        · rw [h.outside .server e he, hj]
        · obtain rfl := List.mem_singleton.1 he
          simp [hj]
      · exact h.outside j e he
    · rw [State.enqueue_history, if_pos rfl] at he
      rcases List.mem_append.1 he with he | he
      · exact h.origins e he
      · obtain rfl := List.mem_singleton.1 he
        exact horigin
    · have hids := h.ids
      unfold System.entered at hids
      rw [List.length_map] at hids
      rw [State.enqueue_history, if_pos rfl, List.map_append, List.map_append, hids]
      simp only [List.length_append, List.length_map, List.length_singleton, List.range_succ,
        List.map_cons, List.map_nil, hid]
  · have hd : d ≠ .server := fun hd => not_carrying_server h (hd ▸ hph)
    rw [hnew]
    have hserver : (s.enqueue (some node) p d).history .server = s.history .server := by
      rw [State.enqueue_history, if_neg (Ne.symm hd)]
    rw [hserver]
    refine ⟨fun j e he => ?_, h.origins, h.ids⟩
    rw [State.enqueue_history] at he
    split at he
    · rename_i hj
      rcases List.mem_append.1 he with he | he
      · rw [h.outside d e he, hj]
      · obtain rfl := List.mem_singleton.1 he
        simp [hj, hd]
    · exact h.outside j e he

/-- **A step of the relay keeps the invariant.** -/
theorem inv_relay (hpos : 0 < M) (hint : M < 2 ^ 31) (h : Inv crc32 ops W M server s) {node : Node}
    {a : Act Node Parcel CertificateInput Stream.Event} (ha : Allowed s node a)
    (hs : (threads crc32 ops W server).step s (node, a) = some s') :
    Inv crc32 ops W M server s' := by
  have hpromises := took_step (p := threads crc32 ops W server)
    (I := fun st => AllWorkers M st.server) (Q := Promise crc32 M)
    (F := fun i a => ∀ cert, a = .take cert → i = .server → cert.generated.isSome)
    (fun i st cert p hst hcert => handleParcel_promise hpos hint hst (hcert cert rfl))
    (fun i st e st' hst he => by rw [streamCallback_server he]; exact hst)
    h.promises ha.certificate hs
  obtain ⟨houtside, horigins, hids⟩ := history_inv h ha hs
  exact ⟨covered_step h.covered hs, ledger_step h.ledger hs, hpromises, houtside, horigins, hids⟩

theorem inv_step (hpos : 0 < M) (hint : M < 2 ^ 31) (h : Inv crc32 ops W M server s)
    {e : DispatchEvent} (hcert : e.CertificateAvailable)
    (hs : s.step parse crc32 ops W server e = some s') : Inv crc32 ops W M server s' := by
  rcases step_cases hcert hs with rfl | ⟨node, a, hstep, ha⟩
  · exact h
  · exact inv_relay hpos hint h ha hstep

/-- Only the server forwards to a worker: a message with its certificate,
to the worker of its stream. -/
theorem forwarded_worker (h : Inv crc32 ops W M server s) {e : Option Node × Parcel} {k : ℕ}
    (he : e ∈ s.history (.worker k)) : e.1 = some .server ∧
      ∃ q ∈ s.entered, route crc32 M q = k ∧ ∃ c, e.2 = q.stamp c := by
  obtain ⟨origin, p⟩ := e
  cases origin with
  | none => exact absurd ((h.outside _ _ he).1 rfl) (by simp)
  | some node =>
    obtain ⟨x, hx, hf⟩ := history_took h.ledger he
    have hpromise := h.promises.2 node x hx
    rw [hf] at hpromise
    cases node with
    | signaling w => cases hpromise
    | worker j =>
      obtain ⟨w, hw⟩ := hpromise.1 _ rfl
      cases hw
    | server =>
      obtain ⟨c, hc⟩ := hpromise
      obtain ⟨rfl, hk⟩ := Prod.mk.inj (Option.some.inj hc)
      refine ⟨rfl, x.1, ?_, (Node.worker.inj hk).symm, c, rfl⟩
      unfold System.entered
      rw [h.ledger.fifo]
      exact List.mem_append_left _ (List.mem_map_of_mem hx)

/-- **A worker handles what entered for it**, with the server's stamp. -/
theorem handled_entered (h : Inv crc32 ops W M server s) {k : ℕ} {p : Parcel}
    (hp : p ∈ s.handledBy k) : ∃ q ∈ s.entered, route crc32 M q = k ∧ ∃ c, p = q.stamp c := by
  have hmem : p ∈ (s.history (.worker k)).map Prod.snd := by
    rw [h.ledger.fifo]
    exact List.mem_append_left _ hp
  obtain ⟨e, he, rfl⟩ := List.mem_map.1 hmem
  exact (forwarded_worker h he).2

/-- **Every message has been handled by its worker and by no other, and
answered once, in the queue of its sender.** -/
def Settled (crc32 : String → UInt32) (M : ℕ) (s : System PC) : Prop :=
  ∀ q ∈ s.entered,
    (∀ k, ((s.handledBy k).map Parcel.id).count q.id = if k = route crc32 M q then 1 else 0) ∧
    ∀ w, ((s.responsesTo w).map Parcel.id).count q.id = if q.msg.worker = some w then 1 else 0

/-- No thread has a step left that carries on what was sent. -/
def AtRest (parse : List UInt8 → Except JsonException Json) (crc32 : String → UInt32)
    (ops : PeerConnectionOps PC) (W : ℕ) (server : RtcServer) (s : System PC) : Prop :=
  ∀ e : DispatchEvent, e.relays = true → e.CertificateAvailable →
    s.step parse crc32 ops W server e = none

theorem allWorkers_init {workerNum : ℤ} {created : ℕ → Bool} (hpos : 0 < workerNum)
    (hcreated : ∀ i : ℕ, i < workerNum → created i = true) :
    AllWorkers workerNum.toNat (RtcServer.init workerNum created) where
  workerNum := (Int.toNat_of_nonneg hpos.le).symm
  workers := by
    refine List.filter_eq_self.2 fun i hi => hcreated i ?_
    have hlt := List.mem_range.1 hi
    omega

/-- A transport that does nothing. -/
def idleTransport : PeerConnectionOps Unit where
  make := ()
  init := fun pc _ => pc
  createOffer := fun pc _ => (pc, "")
  setRemoteSdp := fun pc _ => (pc, 0)
  remoteStreams := fun _ _ => none
  addAudioSource := fun pc _ => pc
  addVideoSource := fun pc _ => pc

end Server

end XrtcServer
